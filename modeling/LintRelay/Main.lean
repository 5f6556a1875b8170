import LintRelay.CommandLine.Run

/-!
# The program

The command line program: it reads what a command may need, runs the command and
writes what comes of it. Neither programs are started nor requests sent from
here; a host that does both runs the commands in a world of its own.
-/

namespace LintRelay.CommandLine

def entryAt (path : Path) : IO (Option FileEntry) := do
  try
    return some (.file (← IO.FS.readBinFile path.render).toList)
  catch
    | .noFileOrDirectory .. => return none
    | .invalidArgument .. => return some .tooLong
    | _ => return some .directory

def filesAt (paths : List Path) : IO Files := do
  let entries ← paths.mapM fun path => do return (path, ← entryAt path)
  return fun path => (entries.find? (·.1 = path)).bind (·.2)

/-- The variables of the process. -/
def environment : IO Environment := do
  let bytes := (← IO.FS.readBinFile "/proc/self/environ").toList
  return .ofBlock (Text.Utf8.decodeReplacing bytes)

/-- A stream up to its end. -/
partial def readAll (stream : IO.FS.Stream) : IO String := do
  let line ← stream.getLine
  if line.isEmpty then return "" else return line ++ (← readAll stream)

def bareMachine : Machine where
  which _ := none
  fileExists _ := false
  launch _ := .refused (.ofKind "FileNotFoundError" [.int 2, .text "No such file or directory"])

/-- The network when there is none. -/
def noTransport : Transport := fun _ => .error (.ofKind "URLError" [.text "no network"])

def worldFor (command : Command) : IO World := do
  let cwd := Path.ofString (← IO.currentDir).toString
  let environment ← environment
  let home (user : String) : Option String := if user = "" then environment "HOME" else none
  let input ← if command.readsInput then readAll (← IO.getStdin) else pure ""
  return {
    cwd
    home
    environment
    files := ← filesAt (command.paths cwd home)
    machine := bareMachine
    transport := noTransport
    input
    whole? := Schema.wholeNumber?
    terminal := ← (← IO.getStdout).isTty
    room := { toml := 988, walk := 992, lookup := 2 }
    depth := 988 }

/-- A run without the log records that only matter to those who look for them. -/
def quiet (r : Run) : Run :=
  { r with log := r.log.filter fun record => LogLevel.warning.rank ≤ record.level.rank }

/-- Write what comes of a run, and end with its status. -/
def finish (r : Run) : IO UInt32 := do
  for record in r.log do
    IO.eprintln record.render
  for block in r.output do
    IO.print block.render
  if let some e := r.usage then
    IO.eprintln ("Error: " ++ e.message)
  if let some f := r.failure then
    IO.eprintln (f.kind ++ ": " ++ f.message.getD "")
  return r.status.toUInt32

end LintRelay.CommandLine

open LintRelay LintRelay.CommandLine in
/-- Run the command that the words of the command line ask for. -/
def main (words : List String) : IO UInt32 := do
  match Command.ofWords Schema.wholeNumber? words with
  | .error e => finish (.misused e)
  | .ok command =>
    let ran := command.run (← worldFor command)
    finish (if command.readsReport then quiet ran else ran)
