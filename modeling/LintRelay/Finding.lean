import LintRelay.Position

/-!
# Findings

What the linter says about a file, and its grouping into one report per file.
-/

namespace LintRelay

/-- One issue that the linter reports. An empty `ruleId` or `ruleDocUri` means
that the linter named none. -/
structure Finding where
  message : String
  range : Range := Range.zero
  ruleId : String := ""
  ruleDocUri : String := ""
  suggestion : Option String := none
  deriving DecidableEq, Inhabited

def Finding.withSuggestion (f : Finding) (suggestion : Option String) : Finding :=
  { f with suggestion }

/-- The findings of one file, in the order in which they were reported. -/
structure FileReport where
  filePath : String
  findings : List Finding := []
  deriving DecidableEq, Inhabited

def FileReport.allFindings (reports : List FileReport) : List Finding :=
  reports.flatMap FileReport.findings

end LintRelay
