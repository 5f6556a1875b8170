/-!
# Configuration

How the linter is run, where suggestions come from, and how documents are
validated. Each part has defaults.
-/

namespace LintRelay

/-- How the external linter is invoked. No timeout means to wait for it. -/
structure LinterConfig where
  binary : String := "api-linter"
  timeout : Option Float := some 30.0
  extraArgs : List String := []
  deriving Inhabited

/-- The remote service that suggests fixes. -/
structure SuggestionConfig where
  enabled : Bool := false
  endpoint : String := "https://api.openai.com/v1/chat/completions"
  model : String := "gpt-3.5-turbo"
  temperature : Float := 0.7
  apiKeyEnv : String := "OPENAI_API_KEY"
  timeout : Option Float := some 30.0
  maxWorkers : Nat := 4
  deriving Inhabited

/-- What a failed linter does to the diagnostics that are shown. -/
inductive FailurePolicy where
  | keepStale
  | clear
  deriving DecidableEq, Repr, Inhabited

def FailurePolicy.named : List (String × FailurePolicy) :=
  [("keep-stale", keepStale), ("clear", clear)]

def FailurePolicy.name : FailurePolicy → String
  | keepStale => "keep-stale"
  | clear => "clear"

structure ValidationConfig where
  validateOnChange : Bool := false
  debounceSeconds : Float := 0.0
  onLinterFailure : FailurePolicy := .keepStale
  relatedInformation : Bool := true
  maxWorkers : Nat := 4
  deriving Inhabited

/-- The settings of one document: how many findings get suggestions. -/
structure DocumentSettings where
  maxProblems : Nat := 1000
  deriving DecidableEq, Repr, Inhabited

structure Config where
  linter : LinterConfig := {}
  suggestions : SuggestionConfig := {}
  validation : ValidationConfig := {}
  defaults : DocumentSettings := {}
  deriving Inhabited

end LintRelay
