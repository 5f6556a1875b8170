import LintRelay.Document
import LintRelay.Finding
import LintRelay.Uri.File

/-!
# Reports of a document

The reports that describe a document, found by their paths. Where the document
has no path, or none of the reports matches it, all reports are kept.
-/

namespace LintRelay

/-- Whether a report's path describes the file at a path: an absolute one is
the same, a relative one ends it. -/
def FileReport.describes (path : Path) (r : FileReport) : Bool :=
  let candidate := Path.ofString r.filePath
  if candidate.isAbsolute then candidate = path
  else candidate.parts ≠ [] && candidate.parts.isSuffixOf path.parts

def Document.reports (d : Document) (reports : List FileReport) : List FileReport :=
  match Uri.toPath d.uri with
  | .error _ => reports
  | .ok path =>
    let matching := reports.filter (·.describes path)
    if matching = [] then reports else matching

def Document.findings (d : Document) (reports : List FileReport) : List Finding :=
  FileReport.allFindings (d.reports reports)

end LintRelay
