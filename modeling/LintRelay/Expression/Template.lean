import LintRelay.Expression.Escape
import LintRelay.Expression.Reading

/-!
# Templates

A quotation that holds expressions in braces. A doubled brace is a plain one. After
an expression can come its sign of equality, a conversion, and after a colon how it
is laid out, in which there can be expressions again, but not deeper than that.
-/

namespace LintRelay.Expression.Template

/-- The plain text up to a brace, of which the beginning is given backwards, what
follows it, and whether it ended with a doubled brace, of which it keeps one. Only
in the outermost text are braces doubled, and a closing one must be. A name of a
character keeps its braces. -/
def literal (isRaw isOutermost : Bool) : (fuel : Nat) → List Char → List Char →
    Except String (List Char × List Char × Bool)
  | 0, before, cs => .ok (before.reverse, cs, false)
  | _, before, [] => .ok (before.reverse, [], false)
  | fuel + 1, before, c :: cs =>
    let (isEscaped, before, c, cs) :=
      match c, cs with
      | '\\', d :: ds => if isRaw then (false, before, c, cs) else (true, '\\' :: before, d, ds)
      | _, _ => (false, before, c, cs)
    if isEscaped ∧ c = 'N' then
      let name := if cs.head? = some '{' then cs.takeWhile (· ≠ '}') else []
      let taken := cs.take (name.length + 1)
      literal isRaw isOutermost fuel (taken.reverse ++ c :: before) (cs.drop taken.length)
    else if c = '{' ∨ c = '}' then
      if isOutermost ∧ cs.head? = some c then .ok ((c :: before).reverse, cs.tail, true)
      else if isOutermost ∧ c = '}' then .error "f-string: single '\x7d' is not allowed"
      else .ok (before.reverse, c :: cs, false)
    else
      literal isRaw isOutermost fuel (c :: before) cs

/-- A quotation inside of an expression: its mark, and whether that is tripled. -/
structure Inner where
  mark : Char
  isLong : Bool
  deriving DecidableEq, Repr, Inhabited

def unfinished : String :=
  "f-string: expecting '\x7d'"

def unmatched (c : Char) : String :=
  "f-string: unmatched '" ++ toString c ++ "'"

def isEnding (c : Char) : Bool :=
  ['!', ':', '}', '=', '<', '>'].contains c

/-- The expression up to the character that ends it, of which the beginning is given
backwards, and what follows from that character on. -/
def expression : (fuel : Nat) → Option Inner → (opened before : List Char) → List Char →
    Except String (List Char × List Char)
  | _, some _, _, _, [] => .error "f-string: unterminated string"
  | _, none, o :: _, _, [] => .error (unmatched o)
  | _, none, [], _, [] => .error unfinished
  | 0, _, _, _, _ => .error unfinished
  | fuel + 1, inner, opened, before, c :: cs =>
    let isTriple := [c, c].isPrefixOf cs
    let go (inner : Option Inner) (opened : List Char) (length : Nat) :=
      expression fuel inner opened (((c :: cs).take length).reverse ++ before)
        ((c :: cs).drop length)
    if c = '\\' then .error "f-string expression part cannot include a backslash"
    else
      match inner with
      | some q =>
        if c ≠ q.mark then go inner opened 1
        else if !q.isLong then go none opened 1
        else if isTriple then go none opened 3
        else go inner opened 1
      | none =>
        if c = '\'' ∨ c = '"' then go (some ⟨c, isTriple⟩) opened (if isTriple then 3 else 1)
        else if ['(', '[', '{'].contains c then
          if maxOpened ≤ opened.length then .error "f-string: too many nested parenthesis"
          else go none (c :: opened) 1
        else if c = '#' then .error "f-string expression part cannot include '#'"
        else if opened = [] ∧ isEnding c then
          if ['!', '=', '<', '>'].contains c ∧ cs.head? = some '=' then go none opened 2
          else if c = '<' ∨ c = '>' then go none opened 1
          else .ok (before.reverse, c :: cs)
        else
          match opening? c, opened with
          | none, _ => go none opened 1
          | some _, [] => .error (unmatched c)
          | some bracket, o :: outer =>
            if o = bracket then go none outer 1
            else
              .error ("f-string: closing parenthesis '" ++ toString c ++
                "' does not match opening parenthesis '" ++ toString o ++ "'")

/-- A character that can stand around an expression. -/
def isGap (c : Char) : Bool :=
  c = ' ' || c = '\t' || c = '\n' || c = '\x0c'

/-- A blank character after a sign of equality. -/
def isSpace (c : Char) : Bool :=
  isGap c || c = '\r' || c = '\x0b'

/-- What follows the sign of equality and the conversion after an expression. -/
def afterConversion (cs : List Char) : Except String (List Char) := do
  let cs := if cs.head? = some '=' then cs.tail.dropWhile isSpace else cs
  match cs with
  | '!' :: c :: rest =>
    if c ≠ 's' ∧ c ≠ 'r' ∧ c ≠ 'a' then
      throw "f-string: invalid conversion character: expected 's', 'r', or 'a'"
    else if rest = [] then throw unfinished
    else return rest
  | [] | ['!'] => throw unfinished
  | rest => return rest

def blankExpression (rest : List Char) : String :=
  match rest with
  | c :: _ =>
    if c = '}' then "f-string: empty expression not allowed"
    else "f-string: expression required before '" ++ toString c ++ "'"
  | [] => unfinished

def maxNesting : Nat := 2

/-- What follows the texts and expressions of a template up to its end, or up to the
closing brace around it. Each expression is read with its line. -/
def pieces (read : (line : Nat) → List Char → Except ReadFault Unit) (label : String)
    (isRaw : Bool) (lastLine : Nat) : (fuel nesting : Nat) → List Char →
    Except ReadFault (List Char)
  | 0, _, cs => .ok cs
  | fuel + 1, nesting, cs => do
    let said {α : Type} (e : Except String α) : Except ReadFault α :=
      e.mapError fun message => .complaint (label ++ message)
    let (text, rest, isDoubled) ← said (literal isRaw (nesting = 0) (cs.length + 1) [] cs)
    match if isRaw then none else textFault? text with
    | some message => throw (.complaint (label ++ message))
    | none =>
      match rest, isDoubled with
      | _, true => pieces read label isRaw lastLine fuel nesting rest
      | '{' :: inside, _ =>
        if maxNesting ≤ nesting then
          throw (.complaint (label ++ "f-string: expressions nested too deeply"))
        let (found, rest) ← said (expression (inside.length + 1) none [] [] inside)
        if found.all isGap then
          throw (.complaint (label ++ blankExpression rest))
        read (lastLine - lineEnds inside) found
        let rest ← said (afterConversion rest)
        let rest ←
          match rest with
          | ':' :: layout =>
            if layout = [] then pure []
            else pieces read label isRaw lastLine fuel (nesting + 1) layout
          | _ => pure rest
        match rest with
        | '}' :: rest => pieces read label isRaw lastLine fuel nesting rest
        | _ => throw (.complaint (label ++ unfinished))
      | _, _ => return rest

end LintRelay.Expression.Template
