import LintRelay.Expression.Grammar.Arguments
import LintRelay.Expression.Grammar.Lambda

/-!
# Rules for operations

Operations from those that bind most tightly to those that bind least: members and
calls, powers, signs, products, sums, shifts, bits, comparisons, denial, joining
words, and decisions. Quotations that follow each other are joined.
-/

namespace LintRelay.Expression

/-- How quotations that follow each other are joined, with what complaints about
them begin. -/
abbrev Joining := (label : String) → List Quotation → Except ReadFault Tree

namespace Grammar

open Reading

variable (self : Rule → Reading Tree)

def tooManyDigits (o : Decimal.Oversized) : String :=
  o.message ++ " - Consider hexadecimal for huge integer literals to avoid decimal " ++
    "conversion limits."

def number : Reading Tree := do
  let found ← token (·.kind = .number)
  match Numeral.ofText found.text.toList with
  | .ok n => pure (.number n)
  | .error o => tell (tooManyDigits o)

def quotation : Reading Quotation := do
  match (← token (·.isQuotation)).kind with
  | .quotation q => pure q
  | _ => unmatched

def quotations (join : Joining) : Reading Tree := do
  let found ← several quotation
  fun s =>
    match join s.label found with
    | .ok t => .ok t s
    | .error (.complaint message) => .error (.told message) s
    | .error .exhausted => .error .exhausted s

def atom : Reading Tree :=
  inRule <|
    Tree.name <$> name <|>
    Tree.constant <$> constant <|>
    (do
      ahead quotation
      self .quotations) <|>
    number <|>
    (do
      ahead (mark "(")
      inRule (tuple self <|> group self <|> generator self)) <|>
    (do
      ahead (mark "\x7b")
      inRule (table self <|> set self <|> gatheredTable self <|> gatheredSet self)) <|>
    (do
      mark "..."
      pure .ellipsis)

/-- The arguments of a call in brackets. -/
def callOf (t : Tree) : Reading Tree := do
  mark "("
  let found ← optional (self .arguments)
  mark ")"
  match found with
  | some (.call _ placed named) => pure (.call t placed named)
  | _ => pure (.call t [] [])

def primary : Reading Tree :=
  (do
    let t ← self .primary
    mark "."
    pure (.member t (← name))) <|>
  (do
    let t ← self .primary
    pure (.call t [← generator self] [])) <|>
  (do callOf self (← self .primary)) <|>
  atom self

def targetOwner : Reading Tree :=
  let going (p : Reading Tree) : Reading Tree := do
    let t ← p
    ahead ownerMark
    pure t
  (going do
    let t ← self .targetOwner
    mark "."
    pure (.member t (← name))) <|>
  (going do
    let t ← self .targetOwner
    pure (.call t [← generator self] [])) <|>
  (going do callOf self (← self .targetOwner)) <|>
  going (atom self)

def memberTarget : Reading Tree :=
  (do
    let t ← self .targetOwner
    mark "."
    let word ← name
    notAhead ownerMark
    pure (.member t word)) <|>
  targetAtom self

def target : Reading Tree :=
  (do
    mark "*"
    pure (.starred (← inRule (do
      notAhead (mark "*")
      self .target)))) <|>
  self .memberTarget

def waited : Reading Tree :=
  (do
    word "await"
    pure (.waiting (← self .primary))) <|>
  self .primary

def power : Reading Tree :=
  inRule <|
    (do
      let base ← self .waited
      mark "**"
      pure (.binary "**" base (← self .factor))) <|>
    self .waited

def factor : Reading Tree :=
  let signed (text : String) : Reading Tree := do
    mark text
    pure (.unary text (← self .factor))
  signed "+" <|> signed "-" <|> signed "~" <|> power self

/-- Operands of one rule with marks between them, each of another rule. -/
def operands (rule : Rule) (texts : List String) (inner : Rule) : Reading Tree :=
  texts.foldr (fun text others =>
    (do
      let left ← self rule
      mark text
      pure (.binary text left (← self inner))) <|> others) (self inner)

def compared : Reading (String × Tree) :=
  let through (text : String) (p : Reading Unit) : Reading (String × Tree) := inRule do
    p
    pure (text, ← self .bitOr)
  inRule <|
    through "==" (mark "==") <|>
    through "!=" (inRule (mark "!=")) <|>
    through "<=" (mark "<=") <|>
    through "<" (mark "<") <|>
    through ">=" (mark ">=") <|>
    through ">" (mark ">") <|>
    through "not in" (do word "not"; word "in") <|>
    through "in" (word "in") <|>
    through "is not" (do word "is"; word "not") <|>
    through "is" (word "is")

def comparison : Reading Tree :=
  inRule <|
    (do
      let left ← self .bitOr
      pure (.comparison left (← several (compared self)))) <|>
    self .bitOr

def inversion : Reading Tree :=
  (do
    word "not"
    pure (.unary "not" (← self .inversion))) <|>
  comparison self

/-- Operands with a word between them. -/
def joined (text : String) (inner : Rule) : Reading Tree :=
  (do
    let first ← self inner
    let more ← several (inRule (word text *> self inner))
    pure (.junction text (first :: more))) <|>
  self inner

def decision : Reading Tree :=
  (do
    let yes ← self .disjunction
    word "if"
    let test ← self .disjunction
    word "else"
    pure (.choice test yes (← self .expression))) <|>
  self .disjunction <|>
  lambda self

def isStatementName : Tree → Bool
  | .name word => word = "print" || word = "exec"
  | _ => false

def bareCall : Reading Tree := inRule do
  let word ← name
  notAhead (mark "(")
  let _ ← starExpressions self
  if isStatementName (.name word) then
    tell ("Missing parentheses in call to '" ++ word ++ "'. Did you mean " ++ word ++ "(...)?")
  else
    unmatched

/-- Two expressions after each other, of which the second one says nothing about
what is wrong with it. -/
def twoExpressions : Reading Tree := do
  notAhead (inRule ((name *> (do let _ ← quotation)) <|>
    (do let _ ← token (·.isSoftKeyword))))
  let first ← self .disjunction
  let _ ← inRule (quietly (decision self))
  pure first

/-- The complaints about an expression. Two expressions after each other are told of
in brackets only. -/
def badExpression : Reading Tree := inRule do
  match ← optional (twoExpressions self) with
  | some first =>
    if isStatementName first || (← depthBefore) = 0 then unmatched
    else tell "invalid syntax. Perhaps you forgot a comma?"
  | none => do
    let _ ← self .disjunction
    word "if"
    let _ ← self .disjunction
    notAhead (inRule (word "else" <|> mark ":"))
    tell "expected 'else' after 'if' expression"

/-- The complaints about the sign of an assignment in an expression. -/
def misnamed : Reading Tree :=
  let single : Reading Unit := notAhead (inRule (mark "=" <|> mark ":="))
  (do
    let t ← self .expression
    mark ":="
    let _ ← self .expression
    tell ("cannot use assignment expressions with " ++ t.sort)) <|>
  (do
    let _ ← name
    mark "="
    let _ ← self .bitOr
    single
    tell meantEquality) <|>
  (do
    notAhead (inRule (tuple self <|> generator self <|> Tree.constant <$> constant))
    let t ← self .bitOr
    mark "="
    let _ ← self .bitOr
    single
    tell ("cannot assign to " ++ t.sort ++ " here. Maybe you meant '==' instead of '='?"))

/-- What each rule says in terms of the others. -/
def body (join : Joining) (self : Rule → Reading Tree) : Rule → Reading Tree
  | .expression =>
    whenTelling (badExpression self) <|> whenTelling (bareCall self) <|> decision self
  | .starExpression =>
    (do
      mark "*"
      pure (.starred (← self .bitOr))) <|>
    self .expression
  | .disjunction => joined self "or" .conjunction
  | .conjunction => joined self "and" .inversion
  | .inversion => inversion self
  | .bitOr => operands self .bitOr ["|"] .bitXor
  | .bitXor => operands self .bitXor ["^"] .bitAnd
  | .bitAnd => operands self .bitAnd ["&"] .shift
  | .shift => operands self .shift ["<<", ">>"] .sum
  | .sum => operands self .sum ["+", "-"] .term
  | .term => operands self .term ["*", "/", "//", "%", "@"] .factor
  | .factor => factor self
  | .waited => waited self
  | .primary => primary self
  | .quotations => quotations join
  | .arguments => arguments self
  | .target => target self
  | .memberTarget => memberTarget self
  | .targetOwner => targetOwner self
  | .misnamed => misnamed self

def answer (join : Joining) : Rule → Reading Tree :=
  ofRule (body join) (maxLevel + 1)

/-- A whole text: expressions with commas between them, and the ends of lines. -/
def wholeText (join : Joining) : Reading Tree := inRule do
  let self := answer join
  let t ← inRule <|
    (do
      let first ← self .expression
      let more ← several (inRule (comma *> self .expression))
      let _ ← optional comma
      pure (.tuple (first :: more))) <|>
    (do
      let first ← self .expression
      comma
      pure (.tuple [first])) <|>
    self .expression
  let _ ← many (token (·.kind = .lineEnd))
  let _ ← token (·.kind = .finish)
  pure t

def quotedExpression (join : Joining) : Reading Tree :=
  inRule (starExpressions (answer join))

end Grammar

end LintRelay.Expression
