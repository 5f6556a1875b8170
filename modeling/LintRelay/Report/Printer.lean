import LintRelay.Report.Scanner

/-!
# Writing a report

Findings in the layout that the scanner reads. A missing suggestion is written
as the placeholder, so that a reader sees where one belongs. A finding whose place
has numbers that are too long cannot be written.
-/

namespace LintRelay.Report

open LintRelay.Text

def indentation (levels : Nat) : String :=
  String.ofList (List.replicate (2 * levels) ' ')

def positionLines (indent : Nat) (heading : Marker) (p : Position) : List String :=
  [indentation indent ++ heading.name ++ ":",
    indentation (indent + 1) ++ s!"line_number: {p.line}",
    indentation (indent + 1) ++ s!"column_number: {p.column}"]

def writtenSuggestion (f : Finding) : String :=
  match f.suggestion with
  | none | some "" => placeholder
  | some s => s

/-- The entries of a problem item, without a final line feed each. An entry
that holds a line feed of its own is written as it is. -/
def findingEntries (f : Finding) (indent : Nat) : List String :=
  let message :=
    match lines f.message with
    | [] => [""]
    | ls => ls
  let inner := indentation (indent + 1)
  [strippedEnd (indentation indent ++ "- message: " ++ message.headD "")] ++
    message.tail.map (inner ++ ·) ++
    [inner ++ "suggestion: " ++ writtenSuggestion f, inner ++ "location:"] ++
    positionLines (indent + 2) .startPosition f.range.start ++
    positionLines (indent + 2) .endPosition f.range.stop ++
    [strippedEnd (inner ++ "rule_id: " ++ f.ruleId),
      strippedEnd (inner ++ "rule_doc_uri: " ++ f.ruleDocUri)]

/-- A problem item, without a final line feed. -/
def renderFinding (f : Finding) (indent : Nat) : String :=
  unlines (findingEntries f indent)

def isWritable (r : Range) : Bool :=
  [r.start, r.stop].all fun p => Decimal.isWritable p.line && Decimal.isWritable p.column

/-- A problem item, if the numbers of its place can be written. -/
def writeFinding (f : Finding) (indent : Nat) : Except Decimal.Unwritable String :=
  if isWritable f.range then .ok (renderFinding f indent) else .error {}

theorem writeFinding_eq_ok_iff {f : Finding} {indent : Nat} {item : String} :
    writeFinding f indent = .ok item ↔
      isWritable f.range = true ∧ item = renderFinding f indent := by
  rw [writeFinding]
  split
  · rename_i h
    simp only [h, true_and, Except.ok.injEq]
    exact eq_comm
  · rename_i h
    simp only [h, Bool.false_eq_true, false_and, reduceCtorEq]

/-- The section of one file, without a final line feed. -/
def renderReport (r : FileReport) : String :=
  unlines (["- file_path: " ++ r.filePath, indentation 1 ++ "problems:"] ++
    r.findings.map (renderFinding · 2))

def render (reports : List FileReport) : String :=
  unlines (reports.map renderReport)

/-- The sections of several files, if the numbers of all places in them can be written. -/
def write (reports : List FileReport) : Except Decimal.Unwritable String :=
  if reports.all (·.findings.all (isWritable ·.range)) then .ok (render reports) else .error {}

end LintRelay.Report
