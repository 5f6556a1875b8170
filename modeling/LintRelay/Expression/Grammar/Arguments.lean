import LintRelay.Expression.Grammar.Collection

/-!
# Rules for the arguments of a call

Arguments given by place come before those given by name, and starred ones before
doubly starred ones.
-/

namespace LintRelay.Expression.Grammar

open Reading

variable (self : Rule → Reading Tree)

inductive LateArgument where
  | placed (t : Tree)
  | named (word : Option String) (t : Tree)
  deriving Repr, Inhabited

/-- The call of something that is not known yet. -/
def callWith (placed : List Tree) (late : List LateArgument) : Tree :=
  .call (.name "")
    (placed ++ late.filterMap fun | .placed t => some t | .named _ _ => none)
    (late.filterMap fun | .placed _ => none | .named word t => some (word, t))

/-- The complaint about a single sign where two belong. -/
def meantEquality : String :=
  "invalid syntax. Maybe you meant '==' or ':=' instead of '='?"

/-- A word with a meaning of its own that stands for a value. -/
def constant : Reading String := do
  return (← token fun t => ["True", "False", "None"].any (t.isWord ·)).text

/-- The complaints about an argument that is given by name. -/
def badNamed : Reading LateArgument :=
  inRule <|
    (do
      let value ← inRule constant
      mark "="
      tell ("cannot assign to " ++ value)) <|>
    (do
      let _ ← name
      mark "="
      let _ ← self .expression
      let _ ← clauses self
      tell meantEquality) <|>
    (do
      notAhead (inRule (name *> mark "="))
      let _ ← self .expression
      mark "="
      tell "expression cannot contain assignment, perhaps you meant \"==\"?")

def namedArgument : Reading LateArgument := do
  let word ← name
  mark "="
  pure (.named (some word) (← self .expression))

def namedOrStarred : Reading LateArgument :=
  inRule <|
    whenTelling (badNamed self) <|>
    namedArgument self <|>
    LateArgument.placed <$> starredExpression self

/-- An argument that is given by name, or a doubly starred one. -/
def namedOrDoublyStarred : Reading LateArgument :=
  inRule <|
    whenTelling (badNamed self) <|>
    namedArgument self <|>
    (do
      mark "**"
      pure (.named none (← self .expression)))

/-- Arguments from the first one on that is given by name. -/
def lateArguments : Reading (List LateArgument) :=
  inRule <|
    (do
      let first ← parted comma (namedOrStarred self)
      comma
      let more ← parted comma (namedOrDoublyStarred self)
      pure (first ++ more)) <|>
    parted comma (namedOrStarred self) <|>
    parted comma (namedOrDoublyStarred self)

def placedArgument : Reading Tree :=
  inRule <|
    starredExpression self <|>
    (do
      let t ← plainOrAssigned self
      notAhead (mark "=")
      pure t)

def argumentList : Reading Tree :=
  inRule <|
    (do
      let placed ← parted comma (placedArgument self)
      let late ← optional (inRule (comma *> lateArguments self))
      pure (callWith placed (late.getD []))) <|>
    callWith [] <$> lateArguments self

/-- The complaint about clauses without brackets among other arguments. -/
def bareGenerator : String :=
  "Generator expression must be parenthesized"

def lateArgument : Tree → String
  | .call _ _ named =>
    if named.any (·.1.isNone) then "positional argument follows keyword argument unpacking"
    else "positional argument follows keyword argument"
  | _ => ""

def hasSeveralPlaced : Tree → Bool
  | .call _ (_ :: _ :: _) _ => true
  | _ => false

/-- The complaints about arguments. Clauses after arguments are no fault if they can
belong to a single one. -/
def badArguments : Reading Tree :=
  let gathered : Reading Unit := do
    let _ ← self .expression
    let _ ← clauses self
  inRule <|
    (do
      let _ ← argumentList self
      comma
      mark "*"
      tell "iterable argument unpacking follows keyword argument unpacking") <|>
    (do
      gathered
      comma
      let _ ← optional (inRule ((do let _ ← argumentList self) <|> gathered))
      tell bareGenerator) <|>
    (do
      let _ ← name
      mark "="
      gathered
      tell meantEquality) <|>
    (do
      match ← optional (do
        let found ← argumentList self
        let _ ← clauses self
        pure found) with
      | some found => if hasSeveralPlaced found then tell bareGenerator else unmatched
      | none =>
        (do
          let _ ← argumentList self
          comma
          gathered
          tell bareGenerator) <|>
        (do
          let found ← argumentList self
          comma
          let _ ← argumentList self
          tell (lateArgument found)))

def arguments : Reading Tree :=
  (do
    let found ← argumentList self
    let _ ← optional comma
    ahead (mark ")")
    pure found) <|>
  whenTelling (badArguments self)

end LintRelay.Expression.Grammar
