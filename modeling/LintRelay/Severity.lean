/-!
# Severities

How grave a diagnostic is, and the number by which an editor knows it.
-/

namespace LintRelay

/-- How grave a diagnostic is. -/
inductive Severity where
  | error
  | warning
  | information
  | hint
  deriving DecidableEq, Repr, Inhabited

namespace Severity

def named : List (String × Severity) :=
  [("error", error), ("warning", warning), ("information", information), ("hint", hint)]

def name : Severity → String
  | error => "error"
  | warning => "warning"
  | information => "information"
  | hint => "hint"

/-- The number of a severity, smaller for graver ones. -/
def code : Severity → Nat
  | error => 1
  | warning => 2
  | information => 3
  | hint => 4

/-- The severity of a name; an unknown one counts as a warning. -/
def ofName (s : String) : Severity :=
  ((named.find? (·.1 = s)).map (·.2)).getD warning

def codeOfName (s : String) : Nat :=
  (ofName s).code

end Severity

end LintRelay
