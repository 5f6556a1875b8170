import LintRelay.Finding
import LintRelay.Severity
import LintRelay.Value

/-!
# Diagnostics

What an editor shows for a finding. Every finding becomes one diagnostic at
warning level; where the editor can show related information, the diagnostic
carries the suggestion, if there is one, and a reference to the rule.
-/

namespace LintRelay

/-- A secondary message at a place in a document. -/
structure RelatedInformation where
  uri : String
  range : Range
  message : String
  deriving DecidableEq, Inhabited

/-- A message at a place in a document. -/
structure Diagnostic where
  range : Range
  message : String
  severity : Severity := .warning
  source : String := "api-linter"
  code : Option String := none
  codeDescription : Option String := none
  related : List RelatedInformation := []
  deriving DecidableEq, Inhabited

/-- A text that is there. -/
def nonEmpty? (s : String) : Option String :=
  if s = "" then none else some s

def Finding.ruleReference (f : Finding) : String :=
  f.ruleId ++ " : " ++ f.ruleDocUri

namespace Diagnostic

def relatedTo (uri : String) (f : Finding) : List RelatedInformation :=
  let at' (message : String) : RelatedInformation := ⟨uri, f.range, message⟩
  ((f.suggestion.bind nonEmpty?).toList ++ [f.ruleReference]).map at'

def ofFinding (uri : String) (related : Bool) (source : String) (f : Finding) : Diagnostic :=
  { range := f.range
    message := f.message
    source
    code := nonEmpty? f.ruleId
    codeDescription := nonEmpty? f.ruleDocUri
    related := if related then relatedTo uri f else [] }

def ofFindings (uri : String) (related : Bool) (fs : List Finding) : List Diagnostic :=
  fs.map (ofFinding uri related "api-linter")

end Diagnostic

def Range.toLsp (r : Range) : Value :=
  let place (p : Position) : Value :=
    .table [("line", .nat p.line), ("character", .nat p.column)]
  .table [("start", place r.start), ("end", place r.stop)]

def RelatedInformation.toLsp (i : RelatedInformation) : Value :=
  .table [
    ("location", .table [("uri", .text i.uri), ("range", i.range.toLsp)]),
    ("message", .text i.message)]

/-- A diagnostic as editors exchange it; what it lacks is left out. -/
def Diagnostic.toLsp (d : Diagnostic) : Value :=
  let code := d.code.toList.map fun c => ("code", Value.text c)
  let description := d.codeDescription.toList.map fun href =>
    ("codeDescription", Value.table [("href", .text href)])
  let related :=
    if d.related = [] then []
    else [("relatedInformation", Value.list (d.related.map RelatedInformation.toLsp))]
  .table ([
    ("range", d.range.toLsp),
    ("severity", .nat d.severity.code),
    ("source", .text d.source),
    ("message", .text d.message)] ++ code ++ description ++ related)

end LintRelay
