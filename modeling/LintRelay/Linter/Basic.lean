import LintRelay.Document
import LintRelay.Linter.Command
import LintRelay.Log
import LintRelay.Uri.File

/-!
# The linter

Linting a document runs the external linter on its file. Everything that can go
wrong outside becomes a failure of the linter, with the command, the status and
the error output where there are any.
-/

namespace LintRelay

structure Linter where
  binary : String := "api-linter"
  timeout : Option Number := none
  extraArgs : List String := []
  cwd : Option String := none
  deriving Inhabited

/-- Why there is no linter output. -/
inductive LintError where
  | failed (failure : LinterFailure)
  | unexpected (fault : Fault)
  deriving Inhabited

namespace LintError

/-- A fault as a reason; a failed run of the linter is one as such. -/
def ofFault (f : Fault) : LintError :=
  match f.detail with
  | .linter failure => failed failure
  | _ => unexpected f

def toFault : LintError → Fault
  | failed failure => .ofLinter failure
  | unexpected fault => fault

end LintError

/-- The way in which commands are run. -/
abbrev Runner := List String → CommandOptions → CommandRun

/-- A lint: what was logged, the process that was started, and the output. -/
structure LintRun where
  log : List LogRecord := []
  started : Option Invocation := none
  result : Except LintError String

namespace Linter

def command (l : Linter) (path : Path) : List String :=
  l.binary :: l.extraArgs ++ [path.render]

/-- How a process failed, if there are words for it. -/
def exitReason (l : Linter) (status : Int) : Except Decimal.Unwritable String :=
  match l.timeout with
  | some t =>
    if status = timeoutStatus then t.write.map fun seconds => "timed out after " ++ seconds ++ "s"
    else .ok s!"exited with status {status}"
  | none => .ok s!"exited with status {status}"

/-- A failure of the linter in the words of a fault, unless something comes up in finding
these. -/
def telling (command : List String) (before : String) (f : Fault) : LintError :=
  match f.message with
  | .ok words => .failed { message := before ++ words, command }
  | .error fault => .ofFault fault

/-- A failed command as a failure of the linter. Only faults that have nothing
to do with the system are unexpected, and what there are no words for. -/
def failureOf (l : Linter) (command : List String) : CommandError → LintError
  | .notOnPath name => .failed { message := CommandError.notOnPathText name, command }
  | .absent path => .failed { message := CommandError.absentText path, command }
  | .exited p =>
    match l.exitReason p.status with
    | .error e => .unexpected (Fault.unusable e.message)
    | .ok reason =>
      .failed {
        message := l.binary ++ " " ++ reason
        command
        status := some p.status
        stderr := p.stderr }
  | .fault f =>
    match f.family with
    | .missingFile => telling command "" f
    | .system => telling command ("could not launch " ++ l.binary ++ ": ") f
    | _ => .ofFault f
  | e => .unexpected e.toFault

/-- The file of a document, seen from a directory. -/
def target (cwd : Path) (d : Document) : Except LinterFailure Path :=
  match Uri.toPath d.uri with
  | .error e => .error { message := e.message }
  | .ok path => (Path.resolve cwd path).mapError fun e => { message := e.message }

/-- Lint a document whose path is seen from `cwd`. -/
def lint (l : Linter) (cwd : Path) (run : Runner) (d : Document) : LintRun :=
  match target cwd d with
  | .error failure => { result := .error (.failed failure) }
  | .ok path =>
    let command := l.command path
    match ({ cwd := l.cwd } : CommandOptions).withTimeout l.timeout with
    | .error e => { result := .error (.unexpected (Fault.unusable e.message)) }
    | .ok options =>
      let ran := run command options
      { log := [⟨.debug, "running " ++ " ".intercalate command⟩]
        started := ran.started
        result :=
          match ran.result with
          | .error e => .error (l.failureOf command e)
          | .ok process => .ok (process.stdout.getD "") }

end Linter

end LintRelay
