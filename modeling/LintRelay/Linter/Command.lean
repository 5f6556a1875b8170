import LintRelay.Decimal.Reading
import LintRelay.Decimal.Rounded
import LintRelay.Fault
import LintRelay.Path
import LintRelay.Text.Lines
import LintRelay.Text.Utf8

/-!
# Running a command

A command is run by its absolute path, with its output captured as text. A
process that takes too long counts as one that ended with status 124, and the
captured part of its output is kept. Output of a process that has ended is text or
it cannot be read; what was captured of it before loses the bytes that are no text.
-/

namespace LintRelay

open LintRelay.Text

structure CommandOptions where
  cwd : Option String := none
  environment : Option (List (String × String)) := none
  check : Bool := true
  timeout : Option Number := none
  discardInput : Bool := true
  deriving Inhabited

structure NegativeTimeout where
  deriving DecidableEq, Repr

def NegativeTimeout.message (_ : NegativeTimeout) : String :=
  "timeout must be non-negative"

def CommandOptions.withTimeout (o : CommandOptions) (timeout : Option Number) :
    Except NegativeTimeout CommandOptions :=
  if timeout.any Number.isNegative then .error {} else .ok { o with timeout }

/-- A process as it is started. -/
structure Invocation where
  args : List String
  cwd : Option String
  environment : Option (List (String × String))
  timeout : Option Number
  discardInput : Bool
  deriving Inhabited

/-- Output that was captured before a process was stopped. -/
inductive Captured where
  | text (s : String)
  | bytes (b : List UInt8)
  deriving Inhabited

def Captured.toText : Captured → String
  | .text s => s
  | .bytes b => String.ofList (Utf8.decodeSkipping b)

/-- What becomes of a process. -/
inductive Launch where
  | finished (status : Int) (stdout stderr : Option String)
  | expired (stdout stderr : Option Captured)
  | refused (fault : Fault)
  deriving Inhabited

/-- The output of a process that has ended, with uniform line ends, if it is text. -/
def outputText? (bytes : List UInt8) : Option String :=
  (Utf8.decode? bytes).map fun cs => String.ofList (uniformReturns cs)

/-- What becomes of a process that has ended after it wrote these bytes. -/
def Launch.ofBytes (status : Int) (stdout stderr : List UInt8) : Launch :=
  match outputText? stdout, outputText? stderr with
  | some out, some err => .finished status (some out) (some err)
  | _, _ => .refused (.ofKind "UnicodeDecodeError" [])

/-- The system that commands run on. -/
structure Machine where
  /-- The absolute path of a command's name. -/
  which : String → Option String
  /-- Whether there is a file at a path. -/
  fileExists : Path → Bool
  /-- What becomes of a process. -/
  launch : Invocation → Launch

/-- Why running a command fails. -/
inductive CommandError where
  | noArguments
  | notOnPath (name : String)
  | absent (path : String)
  | noDeadline
  | hugeDeadline
  | exited (process : Completed)
  | fault (fault : Fault)
  deriving Inhabited

namespace CommandError

def notOnPathText (name : String) : String :=
  "Executable '" ++ name ++ "' was not found on PATH"

/-- The words for a path where nothing is. -/
def absentText (path : String) : String :=
  "Executable '" ++ path ++ "' does not exist"

def toFault : CommandError → Fault
  | exited p => .ofProcess p
  | fault f => f
  | noArguments => .saying "ValueError" "subprocess command requires at least one argument"
  | notOnPath name => .saying "FileNotFoundError" (notOnPathText name)
  | absent path => .saying "FileNotFoundError" (absentText path)
  | noDeadline => .saying "TypeError" "unsupported format string passed to NoneType.__format__"
  | hugeDeadline => .saying "OverflowError" "int too large to convert to float"

/-- A fault of the system as a failure; a process that did not end well is one
as such. -/
def ofFault (f : Fault) : CommandError :=
  match f.detail with
  | .exited p => exited p
  | _ => fault f

end CommandError

def timeoutStatus : Int := 124

/-- A number of seconds as a float; a whole number that is too large is none. -/
def Number.toFloat? : Number → Option Float
  | .float x => some x
  | .int n =>
    let x := Decimal.nearest (n < 0) n.natAbs 0
    if Decimal.isFinite x then some x else none

/-- The note on a timeout, after what the process had written. -/
def timeoutNote (stderr : Option String) (seconds : Float) : String :=
  let note := "Command timed out after " ++ Decimal.renderOnePlace seconds ++ "s"
  match stderr with
  | none | some "" => note
  | some s => s ++ "\n" ++ note

def Machine.locate (m : Machine) : List String → Except CommandError (List String)
  | [] => .error .noArguments
  | name :: rest =>
    let path := Path.ofString name
    if path.isAbsolute then
      if m.fileExists path then .ok (path.render :: rest) else .error (.absent name)
    else
      match m.which name with
      | some found => .ok (found :: rest)
      | none => .error (.notOnPath name)

/-- The process that a launch amounts to. -/
def completedBy (args : List String) (timeout : Option Number) :
    Launch → Except CommandError Completed
  | .finished status stdout stderr => .ok ⟨args, status, stdout, stderr⟩
  | .expired stdout stderr =>
    match timeout.map Number.toFloat? with
    | none => .error .noDeadline
    | some none => .error .hugeDeadline
    | some (some seconds) =>
      .ok ⟨args, timeoutStatus, some ((stdout.map Captured.toText).getD ""),
        some (timeoutNote (stderr.map Captured.toText) seconds)⟩
  | .refused f => .error (.ofFault f)

/-- A process that must end well. -/
def checkStatus (check : Bool) (p : Completed) : Except CommandError Completed :=
  if check ∧ p.status ≠ 0 then .error (.exited p) else .ok p

/-- A run of a command: the process that was started, if any, and what came of
it. -/
structure CommandRun where
  started : Option Invocation
  result : Except CommandError Completed

def Machine.run (m : Machine) (args : List String) (o : CommandOptions) : CommandRun :=
  match m.locate args with
  | .error e => ⟨none, .error e⟩
  | .ok located =>
    let invocation : Invocation := ⟨located, o.cwd, o.environment, o.timeout, o.discardInput⟩
    ⟨some invocation,
      completedBy located o.timeout (m.launch invocation) >>= checkStatus o.check⟩

end LintRelay
