import LintRelay.Decimal.Numeral
import LintRelay.Finding
import LintRelay.Log
import LintRelay.Report.Token
import LintRelay.Text.Quoted

/-!
# Scanning a report

The scanner takes the tokens of a report one by one. A `file_path` opens a file
section, a `message` opens a problem in it, and the keys and text that follow
belong to that problem until the next one opens. A problem whose location cannot
be read gets the zero range, and the scanner notes why.

Only one thing stops it: a coordinate with more digits than are read. Then the
scanner is left as it was.
-/

namespace LintRelay.Report

open LintRelay.Text LintRelay.Decimal

/-- Why a problem gets the zero range. -/
inductive Anomaly where
  | missing
  | layout (markers : List Marker)
  | notCoordinate (marker : Marker) (value : String)
  | backwards (start stop : Position)
  deriving DecidableEq, Repr

inductive Notice where
  | zeroRange (line : Int) (anomaly : Anomaly)
  | orphan (line : Int)
  deriving DecidableEq, Repr

def Anomaly.message : Anomaly → String
  | .missing => "missing location block"
  | .layout markers =>
    "unexpected location layout " ++ bracketed (markers.map fun m => quoted m.name)
  | .notCoordinate marker value =>
    marker.name ++ " is not a non-negative integer: " ++ quoted value
  | .backwards start stop =>
    s!"invalid range: Value error, range end ({stop.line}, {stop.column}) precedes start " ++
      s!"({start.line}, {start.column})"

/-- The log record of a notice; lines are counted from one there. -/
def Notice.log : Notice → LogRecord
  | .zeroRange line anomaly =>
    ⟨.debug, s!"problem at report line {line + 1}: " ++ anomaly.message ++
      "; using the zero range"⟩
  | .orphan line =>
    ⟨.debug, s!"problem at report line {line + 1} precedes any file_path header; skipping"⟩

/-- The text that stands where the linter has no suggestion. -/
def placeholder : String := "TODO"

/-- The headers that announce text on the following lines. -/
def blockIndicators : List String := ["|", "|-", "|+", ">", ">-", ">+"]

/-- A value that only announces the text on the following lines. -/
def isBlockIndicator (value : String) : Bool :=
  stripped value ∈ blockIndicators

/-- The trimmed suggestion, unless it is empty or the placeholder. -/
def normalSuggestion (value : String) : Option String :=
  let s := stripped value
  if s = "" ∨ s = placeholder then none else some s

/-- The number that a coordinate's text denotes; `none` if it is no numeral. -/
def coordinate? (value : String) : Except Oversized (Option Nat) :=
  let cs := trim value.toList
  if isNumeral cs then some <$> readDigits cs else .ok none

/-- The markers of a well-formed location, in order. -/
def locationLayout : List Marker :=
  [.startPosition, .lineNumber, .columnNumber, .endPosition, .lineNumber, .columnNumber]

/-- The coordinates among the tokens, up to the first that is none. -/
def coordinates : List Token → Except Oversized (Except Anomaly (List Nat))
  | [] => .ok (.ok [])
  | t :: ts =>
    if t.marker = .lineNumber ∨ t.marker = .columnNumber then do
      match ← coordinate? t.value with
      | none => return .error (.notCoordinate t.marker t.value)
      | some n => return (n :: ·) <$> (← coordinates ts)
    else
      coordinates ts

def locate (location : Option (List Token)) : Except Oversized (Except Anomaly Range) :=
  match location with
  | none => .ok (.error .missing)
  | some tokens =>
    if tokens.map Token.marker = locationLayout then do
      match ← coordinates tokens with
      | .error a => return .error a
      | .ok [a, b, c, d] =>
        match Range.between? ⟨a, b⟩ ⟨c, d⟩ with
        | some r => return .ok r
        | none => return .error (.backwards ⟨a, b⟩ ⟨c, d⟩)
      | .ok _ => return .error (.layout locationLayout)
    else
      .ok (.error (.layout (tokens.map Token.marker)))

/-- The part of a problem that free text belongs to. -/
inductive Part where
  | message
  | suggestion
  | location
  | rule
  deriving DecidableEq, Repr, Inhabited

/-- A problem that is still open. -/
structure Draft where
  line : Int
  message : List String := []
  suggestion : List String := []
  location : Option (List Token) := none
  ruleId : String := ""
  ruleDocUri : String := ""
  part : Part := .message
  deriving DecidableEq, Inhabited

namespace Draft

def opened (line : Int) (message : String) : Draft :=
  { line, message := if message = "" ∨ isBlockIndicator message then [] else [message] }

def locating (d : Draft) (t : Token) : Draft :=
  { d with location := d.location.map (· ++ [t]) }

/-- Add free text to the part that is being written. -/
def addText (d : Draft) (text : String) : Draft :=
  match d.part with
  | .message => { d with message := d.message ++ [text] }
  | .suggestion => { d with suggestion := d.suggestion ++ [text] }
  | .location => d.locating ⟨.text, text⟩
  | .rule => d

/-- Take a token that stands inside the problem. -/
def add (d : Draft) (t : Token) : Draft :=
  match t.marker with
  | .filePath | .problems | .message => d
  | .suggestion =>
    { d with suggestion := if t.value = "" then [] else [t.value], part := .suggestion }
  | .location => { d with location := some [], part := .location }
  | .startPosition | .endPosition | .lineNumber | .columnNumber =>
    if d.part = .location then d.locating t else d
  | .ruleId => { d with ruleId := t.value, part := .rule }
  | .ruleDocUri => { d with ruleDocUri := t.value, part := .rule }
  | .text => d.addText t.value

/-- The suggestion that the collected lines make up. -/
def finalSuggestion (d : Draft) : Option String :=
  normalSuggestion (unlines d.suggestion)

def finding (d : Draft) : Except Oversized (Finding × List Notice) := do
  let finished (range : Range) : Finding :=
    { message := stripped (unlines d.message)
      range
      ruleId := d.ruleId
      ruleDocUri := d.ruleDocUri
      suggestion := d.finalSuggestion }
  match ← locate d.location with
  | .ok range => return (finished range, [])
  | .error anomaly => return (finished Range.zero, [.zeroRange d.line anomaly])

end Draft

structure Section where
  filePath : String
  findings : List Finding := []
  problem : Option Draft := none
  deriving DecidableEq, Inhabited

/-- The scanner: the closed sections and the one that is open. A problem can
be open inside a section only. -/
structure Scanner where
  reports : List FileReport := []
  current : Option Section := none
  deriving DecidableEq, Inhabited

/-- What the scanner waits for or is in the middle of. -/
inductive Stage where
  | expectFileHeader
  | expectProblem
  | inMessage
  | inSuggestion
  | inLocation
  | afterLocation
  deriving DecidableEq, Repr, Inhabited

def Stage.name : Stage → String
  | expectFileHeader => "expect-file-header"
  | expectProblem => "expect-problem"
  | inMessage => "in-message"
  | inSuggestion => "in-suggestion"
  | inLocation => "in-location"
  | afterLocation => "after-location"

/-- The stage while a part of a problem is being written. -/
def Part.stage : Part → Stage
  | message => .inMessage
  | suggestion => .inSuggestion
  | location => .inLocation
  | rule => .afterLocation

def Section.closeProblem (s : Section) : Except Oversized (Section × List Notice) :=
  match s.problem with
  | none => .ok (s, [])
  | some d => do
    let (finding, notices) ← d.finding
    return ({ s with findings := s.findings ++ [finding], problem := none }, notices)

namespace Scanner

def stage (s : Scanner) : Stage :=
  match s.current with
  | none => .expectFileHeader
  | some section' =>
    match section'.problem with
    | none => .expectProblem
    | some d => d.part.stage

def closeFile (s : Scanner) : Except Oversized (Scanner × List Notice) :=
  match s.current with
  | none => .ok (s, [])
  | some open' => do
    let (closed, notices) ← open'.closeProblem
    return (⟨s.reports ++ [⟨closed.filePath, closed.findings⟩], none⟩, notices)

/-- Take one token, which stands on the report line with index `line`. -/
def feed (s : Scanner) (line : Int) (t : Token) : Except Oversized (Scanner × List Notice) :=
  match t.marker, s.current with
  | .filePath, _ => do
    let (closed, notices) ← s.closeFile
    return ({ closed with current := some { filePath := t.value } }, notices)
  | .message, none => .ok (s, [.orphan line])
  | .message, some open' => do
    let (closed, notices) ← open'.closeProblem
    return ({ s with current := some { closed with problem := some (.opened line t.value) } },
      notices)
  | _, none => .ok (s, [])
  | _, some open' =>
    .ok ({ s with current := some { open' with problem := open'.problem.map (·.add t) } }, [])

/-- Take several tokens in order, up to one that stops the scanner. -/
def feedAll (s : Scanner) : List (Nat × Token) → List Notice × Except Oversized Scanner
  | [] => ([], .ok s)
  | (line, t) :: rest =>
    match s.feed line t with
    | .error e => ([], .error e)
    | .ok (next, notices) =>
      let (later, last) := next.feedAll rest
      (notices ++ later, last)

/-- Close what is open and hand over the reports; the scanner starts anew. -/
def finish (s : Scanner) : Except Oversized (List FileReport × Scanner × List Notice) := do
  let (closed, notices) ← s.closeFile
  return (closed.reports, {}, notices)

end Scanner

/-- What the scanner makes of a linter's output: its remarks, and the reports
unless a coordinate stopped it. -/
structure Parsed where
  notices : List Notice
  reports : Except Oversized (List FileReport)

def parseLines (lines : List String) : Parsed :=
  match Scanner.feedAll {} (indexedTokens lines) with
  | (notices, .error e) => ⟨notices, .error e⟩
  | (notices, .ok scanner) =>
    match scanner.finish with
    | .error e => ⟨notices, .error e⟩
    | .ok (reports, _, later) => ⟨notices ++ later, .ok reports⟩

def parse (output : String) : Parsed :=
  parseLines (lines output)

end LintRelay.Report
