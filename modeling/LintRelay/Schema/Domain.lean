import LintRelay.Diagnostic
import LintRelay.Document
import LintRelay.Schema.Record
import LintRelay.Schema.Scalar
import LintRelay.Suggestion.Service

/-!
# The fields of findings, documents and diagnostics

Which values are read as positions, findings, reports, documents, diagnostics
and requests, and how each is written as a value.
-/

namespace LintRelay

open LintRelay.Schema

def Position.record : Record Position where
  name := "Position"
  initial := {}
  fields := [
    .given "line" (intFrom 0) fun x p => { p with line := x },
    .given "column" (intFrom 0) fun x p => { p with column := x }]

def Position.toValue (p : Position) : Value :=
  .table [("line", .nat p.line), ("column", .nat p.column)]

/-- Why two positions make no range. -/
def Range.backwards (start stop : Position) : String :=
  s!"range end ({stop.line}, {stop.column}) precedes start ({start.line}, {start.column})"

/-- The range between two positions, which must be in order. -/
def Range.check (start stop : Position) : Checked Range :=
  match Range.between? start stop with
  | some r => .ok r
  | none => reject (.refused (Range.backwards start stop))

def Range.ends : Record (Position × Position) where
  name := "Range"
  initial := ({}, {})
  fields := [
    .given "start" Position.record.decode fun x e => (x, e.2),
    .given "end" Position.record.decode fun x e => (e.1, x)]

def Range.decode (v : Value) : Checked Range := do
  let (start, stop) ← Range.ends.decode v
  Range.check start stop

def Range.toValue (r : Range) : Value :=
  .table [("start", r.start.toValue), ("end", r.stop.toValue)]

def Position.ofCoordinates (line column : Value) : Checked Position :=
  Position.record.decode (.table [("line", line), ("column", column)])

def Range.ofCoordinates (a b c d : Value) : Checked Range := do
  let start ← Position.ofCoordinates a b
  let stop ← Position.ofCoordinates c d
  Range.check start stop

def Finding.record : Record Finding where
  name := "Finding"
  initial := { message := "" }
  fields := [
    .needed "message" text fun x f => { f with message := x },
    .given "range" Range.decode fun x f => { f with range := x },
    .given "rule_id" text fun x f => { f with ruleId := x },
    .given "rule_doc_uri" text fun x f => { f with ruleDocUri := x },
    .given "suggestion" (optional text) fun x f => { f with suggestion := x }]

def Finding.toValue (f : Finding) : Value :=
  .table [
    ("message", .text f.message),
    ("range", f.range.toValue),
    ("rule_id", .text f.ruleId),
    ("rule_doc_uri", .text f.ruleDocUri),
    ("suggestion", .ofText? f.suggestion)]

def FileReport.record : Record FileReport where
  name := "FileReport"
  initial := { filePath := "" }
  fields := [
    .needed "file_path" text fun x r => { r with filePath := x },
    .given "findings" (listOf .notTuple Finding.record.decode) fun x r => { r with findings := x }]

def FileReport.toValue (r : FileReport) : Value :=
  .table [("file_path", .text r.filePath), ("findings", .list (r.findings.map Finding.toValue))]

def Document.record : Record Document where
  name := "TextDocument"
  initial := { uri := "" }
  fields := [
    .needed "uri" Schema.text fun x d => { d with uri := x },
    .given "text" Schema.text fun x d => { d with text := x },
    .given "version" int fun x d => { d with version := x }]

def Document.toValue (d : Document) : Value :=
  .table [("uri", .text d.uri), ("text", .text d.text), ("version", .int d.version)]

def RelatedInformation.record : Record RelatedInformation where
  name := "RelatedInformation"
  initial := default
  fields := [
    .needed "uri" text fun x i => { i with uri := x },
    .needed "range" Range.decode fun x i => { i with range := x },
    .needed "message" text fun x i => { i with message := x }]

def RelatedInformation.toValue (i : RelatedInformation) : Value :=
  .table [("uri", .text i.uri), ("range", i.range.toValue), ("message", .text i.message)]

def Diagnostic.record : Record Diagnostic where
  name := "DiagnosticRecord"
  initial := { range := Range.zero, message := "" }
  fields := [
    .needed "range" Range.decode fun x d => { d with range := x },
    .needed "message" text fun x d => { d with message := x },
    .given "severity" (choice Severity.named) fun x d => { d with severity := x },
    .given "source" text fun x d => { d with source := x },
    .given "code" (optional text) fun x d => { d with code := x },
    .given "code_description" (optional text) fun x d => { d with codeDescription := x },
    .given "related" (listOf .notTuple RelatedInformation.record.decode) fun x d =>
      { d with related := x }]

def Diagnostic.toValue (d : Diagnostic) : Value :=
  .table [
    ("range", d.range.toValue),
    ("message", .text d.message),
    ("severity", .text d.severity.name),
    ("source", .text d.source),
    ("code", .ofText? d.code),
    ("code_description", .ofText? d.codeDescription),
    ("related", .list (d.related.map RelatedInformation.toValue))]

def SuggestionRequest.record : Record SuggestionRequest where
  name := "SuggestionRequest"
  initial := { documentText := "", rangeText := "", finding := { message := "" } }
  fields := [
    .needed "document_text" text fun x r => { r with documentText := x },
    .needed "finding_range_text" text fun x r => { r with rangeText := x },
    .needed "finding" Finding.record.decode fun x r => { r with finding := x }]

def SuggestionRequest.toValue (r : SuggestionRequest) : Value :=
  .table [
    ("document_text", .text r.documentText),
    ("finding_range_text", .text r.rangeText),
    ("finding", r.finding.toValue)]

end LintRelay
