import LintRelay.Expression.Numeral

/-!
# Expressions

What a text in the notation of expressions stands for, as far as its parts go.
Square brackets are not part of the notation: where these expressions are written,
a square bracket ends the text.
-/

namespace LintRelay.Expression

/-- What is made of the items that a clause with `for` goes through. -/
inductive Gathering where
  | generator
  | set
  | table
  deriving DecidableEq, Repr, Inhabited

inductive Tree where
  | name (word : String)
  | constant (word : String)
  | ellipsis
  | number (n : Numeral)
  | quotation (isBytes : Bool)
  | template
  | tuple (items : List Tree)
  | set (items : List Tree)
  | table (entries : List (Option Tree × Tree))
  | starred (inner : Tree)
  | member (owner : Tree) (word : String)
  | call (callee : Tree) (arguments : List Tree) (named : List (Option String × Tree))
  | unary (mark : String) (operand : Tree)
  | binary (mark : String) (left right : Tree)
  | junction (word : String) (operands : List Tree)
  | comparison (left : Tree) (others : List (String × Tree))
  | choice (test yes no : Tree)
  | lambda (body : Tree)
  | assignment (word : String) (value : Tree)
  | gathering (kind : Gathering) (parts : List Tree)
  | waiting (inner : Tree)
  | yielded (inner : Option Tree)
  deriving Repr, Inhabited

namespace Tree

/-- What an expression is called where it cannot stand. -/
def sort : Tree → String
  | name _ => "name"
  | constant word => word
  | ellipsis => "ellipsis"
  | number _ | quotation _ => "literal"
  | template => "f-string expression"
  | tuple _ => "tuple"
  | set _ => "set display"
  | table _ => "dict literal"
  | starred _ => "starred"
  | member _ _ => "attribute"
  | call _ _ _ => "function call"
  | unary _ _ | binary _ _ _ | junction _ _ => "expression"
  | comparison _ _ => "comparison"
  | choice _ _ _ => "conditional expression"
  | lambda _ => "lambda"
  | assignment _ _ => "named expression"
  | gathering .generator _ => "generator expression"
  | gathering .set _ => "set comprehension"
  | gathering .table _ => "dict comprehension"
  | waiting _ => "await expression"
  | yielded _ => "yield expression"

mutual

/-- The part of an expression that keeps a clause with `for` from giving it values. -/
def strayTarget? : Tree → Option Tree
  | name _ | member _ _ => none
  | tuple items => strayTargetIn? items
  | starred inner => inner.strayTarget?
  | comparison left (("in", _) :: _) => left.strayTarget?
  | comparison _ _ => none
  | t => some t

def strayTargetIn? : List Tree → Option Tree
  | [] => none
  | t :: ts => t.strayTarget? <|> strayTargetIn? ts

end

mutual

/-- How many expressions stand within each other in one. -/
def depth : Tree → Nat
  | name _ | constant _ | ellipsis | number _ | quotation _ | template | yielded none => 1
  | tuple ts | set ts | junction _ ts | gathering _ ts => depthAll ts + 1
  | table entries => depthEntries entries + 1
  | starred t | member t _ | unary _ t | lambda t | assignment _ t | waiting t
  | yielded (some t) => t.depth + 1
  | call t ts named => max t.depth (max (depthAll ts) (depthNamed named)) + 1
  | binary _ a b => max a.depth b.depth + 1
  | comparison a others => max a.depth (depthOthers others) + 1
  | choice a b c => max a.depth (max b.depth c.depth) + 1

def depthAll : List Tree → Nat
  | [] => 0
  | t :: ts => max t.depth (depthAll ts)

def depthEntries : List (Option Tree × Tree) → Nat
  | [] => 0
  | (none, t) :: rest => max t.depth (depthEntries rest)
  | (some k, t) :: rest => max k.depth (max t.depth (depthEntries rest))

def depthNamed : List (Option String × Tree) → Nat
  | [] => 0
  | (_, t) :: rest => max t.depth (depthNamed rest)

def depthOthers : List (String × Tree) → Nat
  | [] => 0
  | (_, t) :: rest => max t.depth (depthOthers rest)

end

end Tree

end LintRelay.Expression
