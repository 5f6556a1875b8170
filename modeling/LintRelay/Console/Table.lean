import LintRelay.Console.Basic
import LintRelay.Publication

/-!
# Tables of diagnostics

A published set as a table with one row per diagnostic. An empty set is not
shown, and neither is one with a place whose numbers are too long.
-/

namespace LintRelay.Console

/-- A column: its header, and what becomes of text that does not fit. -/
structure Column where
  title : String
  oneLine : Bool
  overflow : String
  deriving DecidableEq, Repr, Inhabited

/-- A part of a text, from one character up to another, that is shown dim. -/
structure DimSpan where
  start : Nat
  stop : Nat
  deriving DecidableEq, Repr, Inhabited

/-- A row: where a diagnostic is, its rule, and its message with what goes with
it. -/
structure Row where
  location : String
  code : String
  text : String
  dim : List DimSpan
  deriving DecidableEq, Repr, Inhabited

structure Table where
  heavy : Bool
  title : String
  rows : List Row
  deriving DecidableEq, Repr, Inhabited

def columns : List Column :=
  [⟨"Location", true, "ellipsis"⟩, ⟨"Rule", false, "fold"⟩, ⟨"Message", false, "fold"⟩]

/-- The lines under a message, one for each thing that goes with it. -/
def relatedLine (i : RelatedInformation) : List Char :=
  shown ("\n  " ++ i.message).toList

def spansFrom : (position : Nat) → List (List Char) → List DimSpan
  | _, [] => []
  | position, line :: rest =>
    ⟨position, position + line.length⟩ :: spansFrom (position + line.length) rest

/-- Where a diagnostic begins, if the numbers can be written. -/
def placeText (p : Position) : Except Decimal.Unwritable String :=
  if Decimal.isWritable p.line && Decimal.isWritable p.column then .ok s!"{p.line}:{p.column}"
  else .error {}

def rowOf (colour marks : Bool) (d : Diagnostic) : Except Decimal.Unwritable Row :=
  let body := shown d.message.toList
  let lines := d.related.map relatedLine
  (placeText d.range.start).map fun place =>
    { location := shownMark Tone.warning.mark marks ++ place
      code := d.code.getD "-"
      text := String.ofList (body ++ lines.flatten)
      dim := if colour then spansFrom body.length lines else [] }

def table? (colour marks : Bool) (p : Publication) : Except Decimal.Unwritable (Option Table) :=
  if p.diagnostics = [] then .ok none
  else (p.diagnostics.mapM (rowOf colour marks)).map fun rows => some ⟨colour, p.uri, rows⟩

def Row.toValue (r : Row) : Value :=
  .list [.text r.location, .text r.code, .text r.text,
    .list (r.dim.map fun s => .list [.nat s.start, .nat s.stop, .text "dim"])]

def Table.toValue (t : Table) : Value :=
  .table [
    ("box", .text (if t.heavy then "SIMPLE_HEAVY" else "SIMPLE")),
    ("title", .text t.title),
    ("columns", .list (columns.map fun c =>
      .list [.text c.title, .bool c.oneLine, .text c.overflow])),
    ("rows", .list (t.rows.map Row.toValue))]

/-- The lines of a row: where it is and its rule, and the message below. -/
def Row.lines (r : Row) : List String :=
  (r.location ++ "  " ++ r.code) :: (r.text.splitOn "\n").map ("    " ++ ·)

/-- A table in plain lines under its title. -/
def Table.render (t : Table) : String :=
  String.join ((t.title :: t.rows.flatMap Row.lines).map (· ++ "\n"))

end LintRelay.Console
