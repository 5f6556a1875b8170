import LintRelay.Report.Scanner

/-!
# The cells of the scanner

The scanner at work keeps its stage, the closed reports, the open section and the
open problem in cells of their own. An operation writes them one after the other.
Where a coordinate with too many digits stops it, what has been written until then
stays.
-/

namespace LintRelay.Report

open LintRelay.Text LintRelay.Decimal

/-- The fields of a problem that is still open. -/
structure Entry where
  line : Int
  message : List String := []
  suggestion : List String := []
  location : Option (List Token) := none
  ruleId : String := ""
  ruleDocUri : String := ""
  deriving DecidableEq, Inhabited

namespace Entry

def opened (line : Int) (message : String) : Entry :=
  { line, message := if message = "" ∨ isBlockIndicator message then [] else [message] }

def findingAt (e : Entry) (range : Range) : Finding :=
  { message := stripped (unlines e.message)
    range
    ruleId := e.ruleId
    ruleDocUri := e.ruleDocUri
    suggestion := normalSuggestion (unlines e.suggestion) }

def build (e : Entry) : Except Oversized (Finding × List Notice) := do
  match ← locate e.location with
  | .ok range => return (e.findingAt range, [])
  | .error anomaly => return (e.findingAt Range.zero, [.zeroRange e.line anomaly])

end Entry

/-- What the scanner keeps, and what it has remarked so far. -/
structure Cells where
  stage : Stage := .expectFileHeader
  reports : List FileReport := []
  file : Option FileReport := none
  problem : Option Entry := none
  remarks : List Notice := []
  deriving DecidableEq, Inhabited

/-- What is done to the cells, up to where it is stopped. -/
abbrev Operation (α : Type) : Type :=
  ExceptT Oversized (StateM Cells) α

def Operation.on {α : Type} (m : Operation α) (c : Cells) : Except Oversized α × Cells :=
  m.run.run c

namespace Cells

def enter (s : Stage) : Operation Unit :=
  modify fun c => { c with stage := s }

def write (e : Entry) : Operation Unit :=
  modify fun c => { c with problem := some e }

def remark (notices : List Notice) : Operation Unit :=
  modify fun c => { c with remarks := c.remarks ++ notices }

/-- Close the open problem. Its finding goes to the open section. -/
def closeProblem : Operation Unit := do
  let c ← get
  match c.problem, c.file with
  | some e, some f =>
    match e.build with
    | .error x => throw x
    | .ok (finding, notices) => do
      remark notices
      modify fun c => { c with file := some { f with findings := f.findings ++ [finding] } }
  | _, _ => pure ()
  modify fun c => { c with problem := none }

def closeFile : Operation Unit := do
  closeProblem
  match (← get).file with
  | some f => modify fun c => { c with reports := c.reports ++ [f] }
  | none => pure ()
  modify fun c => { c with file := none }

def openFile (filePath : String) : Operation Unit := do
  closeFile
  modify fun c => { c with file := some { filePath } }
  enter .expectProblem

/-- Open a problem. Without a section there is no place for it. -/
def openProblem (line : Int) (message : String) : Operation Unit := do
  closeProblem
  match (← get).file with
  | none => do
    remark [.orphan line]
    enter .expectFileHeader
  | some _ => do
    write (.opened line message)
    enter .inMessage

def addLocation (e : Entry) (t : Token) : Operation Unit := do
  match (← get).stage, e.location with
  | .inLocation, some tokens => write { e with location := some (tokens ++ [t]) }
  | _, _ => pure ()

/-- Add free text to the part that is being written. -/
def addText (e : Entry) (text : String) : Operation Unit := do
  match (← get).stage with
  | .inMessage => write { e with message := e.message ++ [text] }
  | .inSuggestion => write { e with suggestion := e.suggestion ++ [text] }
  | _ => addLocation e ⟨.text, text⟩

/-- Take a token that belongs to the open problem. -/
def addToProblem (t : Token) (e : Entry) : Operation Unit :=
  match t.marker with
  | .filePath | .problems | .message => pure ()
  | .suggestion => do
    write { e with suggestion := if t.value = "" then [] else [t.value] }
    enter .inSuggestion
  | .location => do
    write { e with location := some [] }
    enter .inLocation
  | .startPosition | .endPosition | .lineNumber | .columnNumber => addLocation e t
  | .ruleId => do
    write { e with ruleId := t.value }
    enter .afterLocation
  | .ruleDocUri => do
    write { e with ruleDocUri := t.value }
    enter .afterLocation
  | .text => addText e t.value

/-- Take one token, which stands on the report line with index `line`. -/
def feed (line : Int) (t : Token) : Operation Unit := do
  match t.marker with
  | .filePath => openFile t.value
  | .problems => pure ()
  | .message => openProblem line t.value
  | _ =>
    match (← get).problem with
    | none => pure ()
    | some e => addToProblem t e

/-- Close what is open and hand over the reports. -/
def finish : Operation (List FileReport) := do
  closeFile
  enter .expectFileHeader
  let c ← get
  set { c with reports := [] }
  return c.reports

/-- Take several tokens in order, then finish. -/
def session : List (Int × Token) → Operation (List FileReport)
  | [] => finish
  | (line, t) :: rest => do
    feed line t
    session rest

inductive Call where
  | feed (line : Int) (t : Token)
  | finish
  deriving DecidableEq

/-- What a call does. Only `finish` hands something over. -/
def Call.run : Call → Operation (Option (List FileReport))
  | feed line t => do
    Cells.feed line t
    return none
  | finish => return some (← Cells.finish)

/-- The cells after some calls, those that were stopped included. -/
def after (c : Cells) (calls : List Call) : Cells :=
  calls.foldl (fun c call => (call.run.on c).2) c

def answers (c : Cells) : List Call → List (Except Oversized (Option (List FileReport)))
  | [] => []
  | call :: calls => (call.run.on c).1 :: answers (call.run.on c).2 calls

end Cells

end LintRelay.Report
