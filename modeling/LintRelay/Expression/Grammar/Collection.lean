import LintRelay.Expression.Reading

/-!
# Rules for collections

Tuples, sets and tables, what is gathered by clauses with `for`, and the targets of
such clauses.
-/

namespace LintRelay.Expression.Grammar

open Reading

variable (self : Rule → Reading Tree)

def starExpressions : Reading Tree :=
  let one := self .starExpression
  inRule <|
    (do
      let first ← one
      let more ← several (inRule (comma *> one))
      let _ ← optional comma
      pure (.tuple (first :: more))) <|>
    (do
      let first ← one
      comma
      pure (.tuple [first])) <|>
    one

/-- An expression that gives a value away. -/
def yieldExpression : Reading Tree :=
  inRule <|
    (do
      word "yield"
      word "from"
      pure (.yielded (some (← self .expression)))) <|>
    (do
      word "yield"
      pure (.yielded (← optional (starExpressions self))))

/-- A value that gets a name. -/
def assignment : Reading Tree := inRule do
  let target ← name
  mark ":="
  pure (.assignment target (← self .expression))

/-- An expression that no value is assigned to. -/
def unassigned : Reading Tree := do
  let t ← self .expression
  notAhead (mark ":=")
  pure t

def namedExpression : Reading Tree :=
  inRule (assignment self <|> whenTelling (self .misnamed) <|> unassigned self)

/-- A value that gets a name, or an expression, where only one thing is wrong with
the other. -/
def plainOrAssigned : Reading Tree :=
  inRule (assignment self <|> unassigned self)

def starNamedExpression : Reading Tree :=
  inRule <|
    (do
      mark "*"
      pure (.starred (← self .bitOr))) <|>
    namedExpression self

def starNamedExpressions : Reading (List Tree) := inRule do
  let found ← parted comma (starNamedExpression self)
  let _ ← optional comma
  pure found

def starredExpression : Reading Tree := inRule do
  mark "*"
  pure (.starred (← self .expression))

def entry : Reading (Option Tree × Tree) := inRule do
  let key ← self .expression
  mark ":"
  pure (some key, ← self .expression)

def starredEntry : Reading (Option Tree × Tree) :=
  inRule <|
    (do
      mark "**"
      pure (none, ← self .bitOr)) <|>
    entry self

def entries : Reading (List (Option Tree × Tree)) := inRule do
  let found ← parted comma (starredEntry self)
  let _ ← optional comma
  pure found

/-- What follows the owner of a member that is a target. -/
def ownerMark : Reading Unit :=
  inRule (mark "(" <|> mark "[" <|> mark ".")

def targetsInBrackets : Reading (List Tree) :=
  inRule <|
    (do
      let first ← self .target
      let more ← several (inRule (comma *> self .target))
      let _ ← optional comma
      pure (first :: more)) <|>
    (do
      let first ← self .target
      comma
      pure [first])

/-- A name, or targets in brackets. -/
def targetAtom : Reading Tree :=
  inRule <|
    Tree.name <$> name <|>
    (do
      mark "("
      let t ← self .memberTarget
      mark ")"
      pure t) <|>
    (do
      mark "("
      let found ← optional (targetsInBrackets self)
      mark ")"
      pure (.tuple (found.getD [])))

def targets : Reading Tree :=
  inRule <|
    (do
      let t ← self .target
      notAhead comma
      pure t) <|>
    (do
      let first ← self .target
      let more ← many (inRule (comma *> self .target))
      let _ ← optional comma
      pure (.tuple (first :: more)))

/-- The complaint about a target that cannot have a value. -/
def badTarget : Reading (List Tree) := inRule do
  let _ ← optional (word "async")
  word "for"
  match (← starExpressions self).strayTarget? with
  | some t => tell ("cannot assign to " ++ t.sort)
  | none => unmatched

/-- The beginning of a clause, after which there is no way back. -/
def clauseHead : Reading Unit := do
  word "for"
  let _ ← targets self
  word "in"

def clauseRest : Reading (List Tree) := do
  let source ← self .disjunction
  let tests ← many (inRule (word "if" *> self .disjunction))
  pure (source :: tests)

/-- A clause with `for` and its conditions. -/
def clause : Reading (List Tree) := inRule do
  match ← optional ((word "async" *> clauseHead self) <|> clauseHead self) with
  | some _ => clauseRest self
  | none => whenTelling (badTarget self)

def clauses : Reading (List Tree) :=
  inRule (List.flatten <$> several (clause self))

/-- The complaints about what is gathered by clauses. -/
def badGathering : Reading Tree :=
  inRule <|
    (do
      inRule (mark "[" <|> mark "(" <|> mark "\x7b")
      let _ ← starredExpression self
      let _ ← clauses self
      tell "iterable unpacking cannot be used in comprehension") <|>
    (do
      inRule (mark "[" <|> mark "\x7b")
      let _ ← starNamedExpression self
      comma
      let _ ← starNamedExpressions self
      let _ ← clauses self
      tell "did you forget parentheses around the comprehension target?") <|>
    (do
      inRule (mark "[" <|> mark "\x7b")
      let _ ← starNamedExpression self
      comma
      let _ ← clauses self
      tell "did you forget parentheses around the comprehension target?")

def tuple : Reading Tree := inRule do
  mark "("
  let found ← optional (inRule do
    let first ← starNamedExpression self
    comma
    let more ← optional (starNamedExpressions self)
    pure (first :: more.getD []))
  mark ")"
  pure (.tuple (found.getD []))

def badGroup : Reading Tree :=
  inRule <|
    (do
      mark "("
      let _ ← starredExpression self
      mark ")"
      tell "cannot use starred expression here") <|>
    (do
      mark "("
      mark "**"
      let _ ← self .expression
      mark ")"
      tell "cannot use double starred expression here")

def group : Reading Tree :=
  inRule <|
    (do
      mark "("
      let t ← inRule (yieldExpression self <|> namedExpression self)
      mark ")"
      pure t) <|>
    whenTelling (badGroup self)

/-- What clauses give one by one. -/
def generator : Reading Tree :=
  inRule <|
    (do
      mark "("
      let t ← plainOrAssigned self
      let parts ← clauses self
      mark ")"
      pure (.gathering .generator (t :: parts))) <|>
    whenTelling (badGathering self)

def set : Reading Tree := inRule do
  mark "\x7b"
  let items ← starNamedExpressions self
  mark "\x7d"
  pure (.set items)

def gatheredSet : Reading Tree :=
  inRule <|
    (do
      mark "\x7b"
      let t ← namedExpression self
      let parts ← clauses self
      mark "\x7d"
      pure (.gathering .set (t :: parts))) <|>
    whenTelling (badGathering self)

def badValue : Reading Tree :=
  (do
    let _ ← self .expression
    mark ":"
    mark "*"
    let _ ← self .bitOr
    tell "cannot use a starred expression in a dictionary value") <|>
  (do
    let _ ← self .expression
    mark ":"
    ahead (inRule (mark "\x7d" <|> comma))
    tell "expression expected after dictionary key and ':'")

def badEntry : Reading Tree :=
  inRule <|
    (do
      let _ ← self .expression
      notAhead (mark ":")
      tell "':' expected after dictionary key") <|>
    badValue self

def badEntries : Reading Tree :=
  inRule <|
    (do
      let _ ← parted comma (starredEntry self)
      comma
      badEntry self) <|>
    badValue self

def table : Reading Tree :=
  inRule <|
    (do
      mark "\x7b"
      let found ← optional (entries self)
      mark "\x7d"
      pure (.table (found.getD []))) <|>
    (do
      mark "\x7b"
      let t ← badEntries self
      mark "\x7d"
      pure t)

/-- The complaint about a table that is gathered by clauses. -/
def badGatheredTable : Reading Tree := inRule do
  mark "\x7b"
  mark "**"
  let _ ← self .bitOr
  let _ ← clauses self
  mark "\x7d"
  tell "dict unpacking cannot be used in dict comprehension"

def gatheredTable : Reading Tree :=
  inRule <|
    (do
      mark "\x7b"
      let (key, value) ← entry self
      let parts ← clauses self
      mark "\x7d"
      pure (.gathering .table (key.toList ++ value :: parts))) <|>
    whenTelling (badGatheredTable self)

end LintRelay.Expression.Grammar
