import LintRelay.CommandLine.Arguments

/-!
# Commands

What a command line asks for: to check a file, or to read the output of the
linter.
-/

namespace LintRelay.CommandLine

structure CheckOptions where
  file : String
  config : Option String := none
  suggest : Option Bool := none
  maxProblems : Option Nat := none
  json : Bool := false
  colour : Bool := true
  marks : Bool := true
  verbose : Bool := false
  deriving DecidableEq, Repr, Inhabited

/-- How linter output is read; a dash is standard input. -/
structure ParseOptions where
  source : String := "-"
  json : Bool := false
  deriving DecidableEq, Repr, Inhabited

inductive Command where
  | check (options : CheckOptions)
  | parse (options : ParseOptions)
  | help
  deriving DecidableEq, Repr, Inhabited

def helpOption : OptionSpec := ⟨["--help"], false⟩

def checkSpecs : List OptionSpec := [
  ⟨["--config", "-c"], true⟩, ⟨["--suggest"], false⟩, ⟨["--no-suggest"], false⟩,
  ⟨["--max-problems"], true⟩, ⟨["--json"], false⟩, ⟨["--no-color"], false⟩,
  ⟨["--no-emoji"], false⟩, ⟨["--verbose", "-v"], false⟩, helpOption]

def parseSpecs : List OptionSpec := [⟨["--json"], false⟩, helpOption]

/-- Whether suggestions are asked for; the last of both flags counts. -/
def suggestOf (a : Arguments) : Option Bool :=
  ((a.options.filter fun g => g.name = "--suggest" || g.name = "--no-suggest").getLast?).map
    (·.name = "--suggest")

def checkCommand (whole? : String → Option Int) (words : List String) :
    Except UsageError Command := do
  let a ← arguments checkSpecs words
  if a.isOn "--help" then
    return .help
  let maxProblems ← (a.value? "--max-problems").mapM (countOf whole? "--max-problems")
  let config ← (a.value? "--config").mapM (pathOf "--config")
  match a.operands with
  | [] => throw (.missingOperand "FILE")
  | [file] =>
    return .check {
      file := ← pathOf "FILE" file
      config
      suggest := suggestOf a
      maxProblems
      json := a.isOn "--json"
      colour := !a.isOn "--no-color"
      marks := !a.isOn "--no-emoji"
      verbose := a.isOn "--verbose" }
  | _ :: extra => throw (.extraOperands extra)

def parseCommand (words : List String) : Except UsageError Command := do
  let a ← arguments parseSpecs words
  if a.isOn "--help" then
    return .help
  match a.operands with
  | [] => return .parse { json := a.isOn "--json" }
  | [source] => return .parse { source, json := a.isOn "--json" }
  | _ :: extra => throw (.extraOperands extra)

def commandOf (whole? : String → Option Int) (name : String) (words : List String) :
    Except UsageError Command :=
  if name = "check" then checkCommand whole? words
  else if name = "parse" then parseCommand words
  else .error (.noSuchCommand name)

/-- The words from the name of a command on, and whether the options before it
ask for help. -/
def leading : List String → Except UsageError (Bool × List String)
  | [] => .ok (false, [])
  | word :: words =>
    if word = "--" then
      .ok (false, words)
    else if isOption word.toList then
      match optionsIn [helpOption] words.head? word.toList with
      | .error e => .error e
      | .ok _ => (leading words).map fun (_, words) => (true, words)
    else
      .ok (false, word :: words)

def Command.ofWords (whole? : String → Option Int) (words : List String) :
    Except UsageError Command :=
  match leading words with
  | .error e => .error e
  | .ok (true, _) => .ok .help
  | .ok (false, []) => .error .noCommand
  | .ok (false, name :: words) => commandOf whole? name words

end LintRelay.CommandLine
