import LintRelay.Expression.Reading

/-!
# Rules for functions without a name

The parameters of a function: those that are given by place only, by place or by
name, and by name only, and those that take all the others. Only the value of the
function is kept.
-/

namespace LintRelay.Expression.Grammar

open Reading

variable (self : Rule → Reading Tree)

def parameter : Reading Unit := inRule do
  let _ ← name

/-- The value that a parameter has if none is given. -/
def usualValue : Reading Unit :=
  inRule <|
    (do
      mark "="
      let _ ← self .expression) <|>
    whenTelling (inRule do
      mark "="
      ahead (inRule (mark ")" <|> comma))
      tell "expected default value expression")

/-- What stands before the end of a parameter, and that end. -/
def ending (p : Reading Unit) : Reading Unit :=
  inRule ((do p; comma) <|> (do p; ahead (mark ":")))

/-- A parameter without a usual value. -/
def bare : Reading Unit :=
  ending parameter

def valued : Reading Unit :=
  ending (do parameter; usualValue self)

/-- A parameter that may have a usual value. -/
def either : Reading Unit :=
  ending do
    parameter
    let _ ← optional (usualValue self)

/-- The slash after parameters that are given by place only. -/
def slash (p : Reading Unit) : Reading Unit :=
  inRule <|
    (do
      p
      mark "/"
      comma) <|>
    (do
      p
      mark "/"
      ahead (mark ":"))

def bareSlash : Reading Unit :=
  slash do let _ ← several bare

def valuedSlash : Reading Unit :=
  slash do
    let _ ← many bare
    let _ ← several (valued self)

def badNamedRest : Reading Unit :=
  let start : Reading Unit := do
    mark "**"
    parameter
  let late : String := "arguments cannot follow var-keyword argument"
  inRule <|
    (do
      start
      mark "="
      tell "var-keyword argument cannot have default value") <|>
    (do
      start
      comma
      parameter
      tell late) <|>
    (do
      start
      comma
      inRule (mark "*" <|> mark "**" <|> mark "/")
      tell late)

/-- The parameter that takes all named ones. -/
def namedRest : Reading Unit :=
  inRule <|
    whenTelling badNamedRest <|>
    (do
      mark "**"
      bare)

def badStar : Reading Unit :=
  inRule <|
    (do
      mark "*"
      inRule (mark ":" <|> (do comma; inRule (mark ":" <|> mark "**")))
      tell "named arguments must follow bare *") <|>
    (do
      mark "*"
      parameter
      mark "="
      tell "var-positional argument cannot have default value") <|>
    (do
      mark "*"
      inRule (bare <|> comma)
      let _ ← many (either self)
      mark "*"
      inRule (bare <|> comma)
      tell "* argument may appear only once")

def star : Reading Unit :=
  inRule <|
    whenTelling (badStar self) <|>
    (do
      mark "*"
      bare
      let _ ← many (either self)
      let _ ← optional namedRest) <|>
    (do
      mark "*"
      comma
      let _ ← several (either self)
      let _ ← optional namedRest) <|>
    namedRest

def parameters : Reading Unit :=
  let rest : Reading Unit := do let _ ← optional (star self)
  inRule <|
    (do
      bareSlash
      let _ ← many bare
      let _ ← many (valued self)
      rest) <|>
    (do
      valuedSlash self
      let _ ← many (valued self)
      rest) <|>
    (do
      let _ ← several bare
      let _ ← many (valued self)
      rest) <|>
    (do
      let _ ← several (valued self)
      rest) <|>
    star self

def badParameters : Reading Unit :=
  let slashed : Reading Unit := inRule (bareSlash <|> valuedSlash self)
  inRule <|
    (do
      let _ ← many bare
      inRule (valuedSlash self <|> (do let _ ← several (valued self)))
      bare
      tell "non-default argument follows default argument") <|>
    (do
      let _ ← many bare
      mark "("
      let _ ← parted comma parameter
      let _ ← optional comma
      mark ")"
      tell "Lambda expression parameters cannot be parenthesized") <|>
    (do
      mark "/"
      comma
      tell "at least one argument must precede /") <|>
    (do
      slashed
      let _ ← many (either self)
      mark "/"
      tell "/ may appear only once") <|>
    (do
      let _ ← optional slashed
      let _ ← many (either self)
      mark "*"
      inRule (comma <|> bare)
      let _ ← many (either self)
      mark "/"
      tell "/ must be ahead of *") <|>
    (do
      let _ ← several (either self)
      mark "/"
      mark "*"
      tell "expected comma between / and *")

def lambda : Reading Tree := inRule do
  word "lambda"
  let _ ← optional (inRule (whenTelling (badParameters self) <|> parameters self))
  mark ":"
  pure (.lambda (← self .expression))

end LintRelay.Expression.Grammar
