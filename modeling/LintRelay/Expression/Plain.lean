import LintRelay.Expression.OfText

/-!
# Plain values

An expression stands for a plain value if it is made of numbers, quotations, words
for truth and nothing, and tuples, sets and tables of these. What could be worked
out but is written in another way has no plain value.
-/

namespace LintRelay.Expression

/-- Why a text has no plain value: it is no expression, or the expression has none. -/
inductive PlainFault where
  | malformed (complaint : String)
  | valueless (complaint : String)
  deriving DecidableEq, Repr, Inhabited

namespace Tree

/-- The complaint about a set or table in a place where items are told apart. -/
def unhashable (kind : String) : String :=
  "unhashable type: '" ++ kind ++ "'"

def noPlainValue : String := "malformed node or string"

def numeral? : Tree → Option Numeral
  | number n => some n
  | _ => none

/-- The number that an expression with at most one sign is without it. -/
def signedNumeral? : Tree → Option Numeral
  | unary mark t => if mark = "+" ∨ mark = "-" then t.numeral? else none
  | t => t.numeral?

/-- An item of a set or a key of a table, of which the kind is given if it cannot be
told apart from others. -/
def asItem : Option String → Except String Unit
  | some kind => .error (unhashable kind)
  | none => .ok ()

/-- The sum of a real number and an imaginary one. -/
def evaluateSum (left right : Tree) : Except String (Option String) :=
  match left.signedNumeral?, right.numeral? with
  | some (.whole n), some .imaginary =>
    if tooLargeForReal ≤ n then .error "int too large to convert to float" else .ok none
  | some .real, some .imaginary => .ok none
  | _, _ => .error noPlainValue

mutual

/-- Evaluate an expression as far as faults go. The answer is the kind of a part
that keeps the value from being told apart from others, if there is one. -/
def evaluate : Tree → Except String (Option String)
  | number _ | quotation _ | constant _ | ellipsis => .ok none
  | call (name "set") [] [] => .ok (some "set")
  | tuple items => evaluateAll items
  | set items => do
    evaluateItems items
    return some "set"
  | table entries => do
    evaluateEntries entries
    return some "dict"
  | binary mark left right =>
    if mark = "+" ∨ mark = "-" then evaluateSum left right else .error noPlainValue
  | t => if t.signedNumeral?.isSome then .ok none else .error noPlainValue

def evaluateAll : List Tree → Except String (Option String)
  | [] => .ok none
  | t :: ts => do
    let kind ← evaluate t
    let others ← evaluateAll ts
    return kind <|> others

def evaluateItems : List Tree → Except String Unit
  | [] => .ok ()
  | t :: ts => do
    asItem (← evaluate t)
    evaluateItems ts

/-- Evaluate the entries of a table, none of which can be a table to be put in. -/
def evaluateEntries : List (Option Tree × Tree) → Except String Unit
  | [] => .ok ()
  | (none, _) :: _ => .error (noPlainValue ++ ": None")
  | (some key, value) :: rest => do
    let kind ← evaluate key
    let _ ← evaluate value
    asItem kind
    evaluateEntries rest

end

end Tree

/-- The most expressions within each other. -/
def maxDepth : Nat := 2930

/-- Why a text has no plain value, if it has none. -/
def plainFault? (cs : List Char) : Option PlainFault :=
  let cs := cs.dropWhile fun c => c = ' ' || c = '\t'
  if cs.contains '\x00' then
    some (.valueless "source code string cannot contain null bytes")
  else
    match Tree.ofText cs with
    | .error (.complaint message) => some (.malformed message)
    | .error .exhausted => some (.valueless "")
    | .ok t =>
      if maxDepth < t.depth then
        some (.valueless "maximum recursion depth exceeded during ast construction")
      else
        match t.evaluate with
        | .error message => some (.valueless message)
        | .ok _ => none

end LintRelay.Expression
