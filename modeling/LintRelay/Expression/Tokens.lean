import LintRelay.Expression.Numeral
import LintRelay.Expression.Token
import LintRelay.Text.Identifier
import LintRelay.Text.Printable
import LintRelay.Text.Quoted

/-!
# The tokens of a text

A text is cut into tokens from its beginning. Inside brackets the ends of lines do
not count; outside of them a line may be indented, and lines with nothing on them
are passed by. The tokens break off where no token can be, or where the text ends
with a bracket open.
-/

namespace LintRelay.Expression

open LintRelay.Text

structure Opening where
  bracket : Char
  line : Nat
  deriving DecidableEq, Repr, Inhabited

/-- Why tokens break off. What is said of a text matters more than any complaint
about the tokens before; where a text is stuck, they come first unless the
innermost open bracket is on a line of its own. -/
inductive ScanFault where
  | said (message : String)
  | stuck (message : String) (innermost : Option Opening)
  deriving DecidableEq, Repr, Inhabited

def neverClosed (c : Char) : String :=
  "'" ++ toString c ++ "' was never closed"

/-- The fault of a text that ends too early. -/
def ScanFault.ended : (opened : List Opening) → ScanFault
  | [] => stuck "unexpected EOF while parsing" none
  | o :: _ => stuck (neverClosed o.bracket) (some o)

/-- How far a line is indented, with tabs that reach to the next eighth column and
with tabs that count as one. -/
structure Indent where
  wide : Nat
  narrow : Nat
  deriving DecidableEq, Repr, Inhabited

/-- A place in a text: what follows, its line, the open brackets and the
indentations around it, the innermost first. -/
structure Cursor where
  rest : List Char
  line : Nat := 1
  opened : List Opening := []
  indents : List Indent := []
  deriving Repr, Inhabited

/-- The fault of a text that goes on as it cannot at a place. -/
def Cursor.stuck (c : Cursor) (message : String) : ScanFault :=
  .stuck message c.opened.head?

/-- The place after a backslash that joins a line to the next one. -/
def Cursor.joined (c : Cursor) (rest : List Char) : Except ScanFault Cursor :=
  match rest with
  | ['\n'] => .error (.ended c.opened)
  | '\n' :: cs => .ok { c with rest := cs, line := c.line + 1 }
  | _ => .error (c.stuck "unexpected character after line continuation character")

/-- How far the line is indented that begins at a place, and the place after that.
If lines are joined there, the first of them counts. -/
def Cursor.indentation : (fuel : Nat) → (held : Nat) → Indent → Cursor →
    Except ScanFault (Indent × Cursor)
  | 0, _, i, c => .ok (i, c)
  | fuel + 1, held, i, c =>
    match c.rest with
    | ' ' :: cs => indentation fuel held ⟨i.wide + 1, i.narrow + 1⟩ { c with rest := cs }
    | '\t' :: cs => indentation fuel held ⟨(i.wide / 8 + 1) * 8, i.narrow + 1⟩ { c with rest := cs }
    | '\x0c' :: cs => indentation fuel held ⟨0, 0⟩ { c with rest := cs }
    | '\\' :: cs => do
      indentation fuel (if held = 0 then i.wide else held) i (← c.joined cs)
    | _ => .ok (if held = 0 then i else ⟨held, held⟩, c)

/-- The most indentations within each other. -/
def maxIndents : Nat := 99

/-- The complaint about tabs of which the width would matter. -/
def unclearTabs : String :=
  "inconsistent use of tabs and spaces in indentation"

/-- What a line with a certain indentation begins or ends, and the indentations
around it. -/
def settled (indents : List Indent) (i : Indent) : Except String (List TokenKind × List Indent) :=
  let outer := indents.dropWhile (i.wide < ·.wide)
  let here := outer.headD ⟨0, 0⟩
  if outer.length < indents.length then
    if i.wide ≠ here.wide then
      .error "unindent does not match any outer indentation level"
    else if i.narrow ≠ here.narrow then
      .error unclearTabs
    else
      .ok (List.replicate (indents.length - outer.length) .dedent, outer)
  else if i.wide = here.wide then
    if i.narrow ≠ here.narrow then .error unclearTabs else .ok ([], outer)
  else if maxIndents ≤ indents.length then
    .error "too many levels of indentation"
  else if i.narrow ≤ here.narrow then
    .error unclearTabs
  else
    .ok ([.indent], i :: outer)

/-- The inside of a quotation, of which the beginning is given backwards, and what
follows its closing mark; or that beginning if the mark is missing. A backslash
takes the next character along. -/
def quotationEnd (mark : List Char) (oneLine : Bool) : List Char → List Char →
    Except (List Char) (List Char × List Char)
  | inside, [] => .error inside
  | inside, '\\' :: c :: cs => quotationEnd mark oneLine (c :: '\\' :: inside) cs
  | inside, c :: cs =>
    if mark.isPrefixOf (c :: cs) then .ok (inside.reverse, (c :: cs).drop mark.length)
    else if oneLine && c = '\n' then .error (c :: inside)
    else quotationEnd mark oneLine (c :: inside) cs

def lineEnds (cs : List Char) : Nat :=
  cs.count '\n'

/-- The last line that a text reaches, of which the beginning is given backwards. -/
def lastLine (line : Nat) (backwards : List Char) : Nat :=
  line + lineEnds backwards.tail

/-- The inside of the quotation that a text begins with, and what follows. -/
def quotationInside (line : Nat) : List Char → Except String (List Char × List Char)
  | [] => .ok ([], [])
  | q :: rest =>
    let long := [q, q].isPrefixOf rest
    let found :=
      if long then quotationEnd [q, q, q] false [] (rest.drop 2) else quotationEnd [q] true [] rest
    found.mapError fun backwards =>
      "unterminated " ++ (if long then "triple-quoted " else "") ++
        "string literal (detected at line " ++ toString (lastLine line backwards) ++ ")"

def quotationLetters : List String := ["b", "u", "r", "f", "br", "rb", "fr", "rf"]

def badCharacter (c : Char) : String :=
  let digits := (Nat.toDigits 16 c.toNat).map Char.toUpper
  let code := "U+" ++ String.ofList (List.replicate (4 - digits.length) '0' ++ digits)
  if isPrintable c then "invalid character '" ++ toString c ++ "' (" ++ code ++ ")"
  else "invalid non-printable character " ++ code

/-- The first character of a word that cannot stand there. -/
def strayIn : List Char → Option Char
  | [] => none
  | c :: cs => if isNameStart c then cs.find? fun d => !isNamePart d else some c

def longMarks : List (List Char) :=
  ["**=", "//=", "<<=", ">>=", "...", "**", "//", "<<", ">>", "<=", ">=", "==", "!=", "<>", "->",
    ":=", "+=", "-=", "*=", "/=", "%=", "&=", "|=", "^=", "@="].map String.toList

/-- The bracket that a bracket closes. -/
def opening? (c : Char) : Option Char :=
  if c = ')' then some '(' else if c = '}' then some '{' else if c = ']' then some '[' else none

def maxOpened : Nat := 200

def mismatch (c : Char) (line : Nat) (o : Opening) : String :=
  "closing parenthesis '" ++ toString c ++ "' does not match opening parenthesis '" ++
    toString o.bracket ++ "'" ++
    (if o.line = line then "" else " on line " ++ toString o.line)

def Cursor.openedAfter (c : Cursor) (mark : Char) : Except String (List Opening) :=
  if ['(', '[', '{'].contains mark then
    if maxOpened ≤ c.opened.length then .error "too many nested parentheses"
    else .ok (⟨mark, c.line⟩ :: c.opened)
  else
    match opening? mark, c.opened with
    | none, opened => .ok opened
    | some _, [] => .error ("unmatched '" ++ toString mark ++ "'")
    | some bracket, o :: outer =>
      if o.bracket = bracket then .ok outer else .error (mismatch mark c.line o)

/-- Whether a token ends in a way that nothing after it could change. -/
def endsForSure (kind : TokenKind) (text : List Char) : Bool :=
  match kind with
  | .quotation q => q.inside ≠ [] || q.letters.length + 2 < text.length
  | _ => text = ['.', '.', '.']

def Cursor.token (c : Cursor) (kind : TokenKind) (text rest : List Char) : Token × Cursor :=
  (⟨kind, String.ofList text, c.opened.length, c.line, rest = [] && !endsForSure kind text⟩,
    { c with rest, line := c.line + lineEnds text })

/-- The mark at a place, or the complaint about it. -/
def Cursor.mark (c : Cursor) (m : Char) (cs : List Char) : Except String (Token × Cursor) :=
  match longMarks.find? (·.isPrefixOf (m :: cs)) with
  | some text => .ok (c.token .mark text ((m :: cs).drop text.length))
  | none => do
    let opened ← c.openedAfter m
    if isPrintable m then return { c with opened }.token .mark [m] cs
    else throw (badCharacter m)

/-- The word or quotation at a place, or the complaint about it. -/
def Cursor.word (c : Cursor) : Except String (Token × Cursor) :=
  let word := c.rest.takeWhile isWordPart
  let rest := c.rest.drop word.length
  let letters := word.map Char.toLower
  let isLettered := word = [] ∨ quotationLetters.contains (String.ofList letters)
  if (rest.head?.any fun q => q = '\'' || q = '"') ∧ isLettered then do
    let (inside, after) ← quotationInside c.line rest
    return c.token (.quotation ⟨letters, inside, c.line⟩)
      (c.rest.take (c.rest.length - after.length)) after
  else
    match if word.all (·.toNat < 128) then none else strayIn word with
    | some stray => .error (badCharacter stray)
    | none =>
      let kind := if keywords.contains (String.ofList word) then .keyword else .name
      .ok (c.token kind word rest)

/-- The token at a place where there is one, or the complaint about it. -/
def Cursor.next (c : Cursor) (d : Char) (cs : List Char) : Except String (Token × Cursor) :=
  if d.isDigit || (d = '.' && cs.head?.any Char.isDigit) then do
    let rest ← numberEnd c.rest
    return c.token .number (c.rest.take (c.rest.length - rest.length)) rest
  else if isWordPart d || d = '\'' || d = '"' then
    c.word
  else
    c.mark d cs

/-- Tokens from the beginning of a text, and why they break off if they do. -/
structure Tokens where
  found : Array Token
  fault : Option ScanFault
  deriving Repr, Inhabited

def isGap (c : Char) : Bool :=
  c = ' ' || c = '\t' || c = '\x0c'

/-- The tokens before a place together with those after it. The place is at the
beginning of a line or not, and on a line that counts for nothing or not. -/
def Cursor.scan : (fuel : Nat) → (fresh blank : Bool) → Cursor → Array Token → Tokens
  | 0, _, _, _, before => ⟨before, none⟩
  | fuel + 1, true, _, c, before =>
    match c.indentation (c.rest.length + 1) 0 ⟨0, 0⟩ with
    | .error fault => ⟨before, some fault⟩
    | .ok (i, c) =>
      let blank := c.rest.head?.any fun d => d = '#' || d = '\n'
      if blank || !c.opened.isEmpty then scan fuel false blank c before
      else
        match settled c.indents i with
        | .error message => ⟨before, some (c.stuck message)⟩
        | .ok (kinds, indents) =>
          let marks := kinds.map fun kind => ({ kind, line := c.line } : Token)
          scan fuel false false { c with indents } (before ++ marks)
  | fuel + 1, false, blank, c, before =>
    let rest := c.rest.dropWhile isGap
    let rest := if rest.head? = some '#' then rest.dropWhile (· ≠ '\n') else rest
    match rest with
    | [] =>
      if c.opened.isEmpty then ⟨before.push { kind := .finish, line := c.line }, none⟩
      else ⟨before, some (.ended c.opened)⟩
    | '\n' :: cs =>
      let after := { c with rest := cs, line := c.line + 1 }
      if blank || !c.opened.isEmpty then scan fuel true false after before
      else scan fuel true false after (before.push { kind := .lineEnd, line := c.line })
    | '\\' :: cs =>
      match c.joined cs with
      | .error fault => ⟨before, some fault⟩
      | .ok after => scan fuel false blank after before
    | d :: cs =>
      match { c with rest }.next d cs with
      | .error message => ⟨before, some (.said message)⟩
      | .ok (token, after) => scan fuel false blank after (before.push token)

def Tokens.ofText (line : Nat) (cs : List Char) : Tokens :=
  Cursor.scan (2 * cs.length + 2) true false { rest := cs, line } #[]

end LintRelay.Expression
