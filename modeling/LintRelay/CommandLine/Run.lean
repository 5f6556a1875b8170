import LintRelay.CommandLine.Command
import LintRelay.Config.Load
import LintRelay.Console.Escapes
import LintRelay.Console.Table
import LintRelay.Report.Printer
import LintRelay.Schema.Domain
import LintRelay.Validation.Alone
import LintRelay.Validation.Build
import LintRelay.Value.Json

/-!
# Running a command

What a command writes, and the status that it ends with: 0 when there is nothing
to report, 1 when there are problems, 2 when the configuration or the command
line cannot be used. All that a command needs from outside is given to it. A suggestion
is shown as text: half of a pair of units in it as the character for what is no text.
-/

namespace LintRelay.CommandLine

open LintRelay.Text LintRelay.Console

/-- What a command finds outside. -/
structure World where
  cwd : Path
  files : Files
  /-- The directory of a user; the user without a name is the one who runs. -/
  home : String → Option String
  environment : Environment
  machine : Machine
  transport : Transport
  input : String
  /-- How a word of the command line is read as a whole number. -/
  whole? : String → Option Int
  terminal : Bool := false
  /-- The room for loading the configuration. -/
  room : Config.Room
  /-- The number of brackets that may be open at once in an answer of the service. -/
  depth : Nat

inductive Block where
  | text (s : String)
  | table (t : Table)
  deriving DecidableEq, Inhabited

/-- Why a command breaks off. -/
structure Failure where
  kind : String
  message : Option String
  deriving DecidableEq, Repr, Inhabited

structure Run where
  status : Nat := 0
  output : List Block := []
  log : List LogRecord := []
  processes : List Invocation := []
  requests : List HttpRequest := []
  usage : Option UsageError := none
  failure : Option Failure := none
  deriving Inhabited

namespace Run

def misused (e : UsageError) : Run :=
  { status := 2, usage := some e }

def brokenOff (output : List Block) (kind message : String) : Run :=
  { status := 1, output, failure := some ⟨kind, some message⟩ }

/-- A run that breaks off at a file that is no text. -/
def notText : Run :=
  { status := 1, failure := some ⟨"UnicodeDecodeError", none⟩ }

end Run

def fileText? (bytes : List UInt8) : Option String :=
  (Utf8.decode? bytes).map fun cs => String.ofList (uniformReturns cs)

def CheckOptions.line (o : CheckOptions) (w : World) (tone : Tone) (text : String) : Block :=
  .text (message tone text o.marks (some o.colour) w.terminal)

def CheckOptions.override (o : CheckOptions) (c : Config) : Config :=
  { c with
    suggestions := { c.suggestions with enabled := o.suggest.getD c.suggestions.enabled }
    defaults := (o.maxProblems.map DocumentSettings.mk).getD c.defaults }

/-- The blocks for a published set, if its numbers can be written. -/
def CheckOptions.blocks (o : CheckOptions) (p : Publication) :
    Except Decimal.Unwritable (List Block) :=
  if o.json then p.jsonLine.map fun line => [.text line]
  else (table? o.colour o.marks p).map fun table => (table.map Block.table).toList

/-- The sink of a check refuses what it cannot write. -/
def CheckOptions.sink (o : CheckOptions) : Sink := fun p =>
  match o.blocks p with
  | .ok _ => none
  | .error e => some (Fault.unusable e.message)

def CheckOptions.written (o : CheckOptions) (p : Publication) : List Block :=
  (o.blocks p).toOption.getD []

def CheckOptions.keeps (o : CheckOptions) (r : LogRecord) : Bool :=
  o.verbose || LogLevel.warning.rank ≤ r.level.rank

def CheckOptions.fileName (o : CheckOptions) : String :=
  (Path.ofString o.file).render

/-- Those whom the pass over the file asks. -/
def collaborators (w : World) (linter : Linter) (service : Option CompletionService) :
    Collaborators where
  lint d :=
    let run := linter.lint w.cwd w.machine.run d
    (run.log, run.result)
  settings _ := .error (.unavailable (.saying "ConfigurationUnavailable" ""))
  suggest request :=
    match service with
    | some s => (s.suggest w.depth w.environment w.transport request).map (some ∘ Symbol.toText)
    | none => .ok none

def startedFor (w : World) (linter : Linter) : PassDemand → Option Invocation
  | .lint d => (linter.lint w.cwd w.machine.run d).started
  | _ => none

def sentFor (w : World) (service : Option CompletionService) : PassDemand → Option HttpRequest
  | .suggest _ request => service.bind (·.sent? w.environment request)
  | _ => none

def conclusion (w : World) (o : CheckOptions) (outcome : PassOutcome) : Nat × List Block :=
  match outcome.status, outcome.error with
  | .linterFailed, some e | .cleared, some e =>
    let details :=
      match e.stderr with
      | none | some "" => []
      | some stderr => if o.json then [] else [o.line w .info (stripped stderr)]
    (1, o.line w .failure ("api-linter failed: " ++ e.message) :: details)
  | _, _ =>
    match outcome.diagnostics.length with
    | 0 => (0, if o.json then [] else [o.line w .success ("No problems found in " ++ o.fileName)])
    | n =>
      let noun := if n = 1 then "problem" else "problems"
      (1, if o.json then [] else
        [o.line w .warning (s!"{n} " ++ noun ++ " found in " ++ o.fileName)])

def checkDocument (w : World) (o : CheckOptions) (c : Config) (d : Document)
    (header : List Block) : Run :=
  match c.suggestions.build with
  | .error e => .brokenOff header "ValueError" e.message
  | .ok service =>
    match c.orchestrator false service.isSome with
    | .error e => .brokenOff header "ValueError" e.message
    | .ok orchestrator =>
      let linter := c.linter.build (some w.cwd.render)
      let ran := orchestrator.validate o.sink (collaborators w linter service) d
      let output := header ++ ran.shared.board.history.events.flatMap o.written
      let (status, lines, failure) :=
        match ran.pass.result? with
        | some (.ok outcome) =>
          let (status, lines) := conclusion w o outcome
          (status, lines, none)
        | some (.error e) => (1, [], some ⟨e.fault.kind, e.fault.message.toOption⟩)
        | none => (1, [], none)
      { status
        output := output ++ lines
        log := ran.log.filter o.keeps
        processes := ran.asked.filterMap (startedFor w linter)
        requests := ran.asked.filterMap (sentFor w service)
        failure }

def checkFile (w : World) (o : CheckOptions) (c : Config) (target : Path) : Run :=
  match w.files target with
  | some (.file bytes) =>
    match fileText? bytes, Uri.ofPath w.cwd target with
    | none, _ => .notText
    | _, .error e => .brokenOff [] e.kind e.message
    | some text, .ok uri =>
      let document : Document := { uri, text }
      if o.json then
        checkDocument w o c document []
      else
        let header := header ("api-linter " ++ o.fileName) o.colour w.terminal
        match header.fault with
        | some e => .brokenOff [.text header.text] e.kind e.message
        | none => checkDocument w o c document [.text header.text]
  | some .tooLong => .brokenOff [] "OSError" target.tooLongMessage
  | _ => .misused (.notReadable o.fileName)

def check (w : World) (o : CheckOptions) : Run :=
  match Config.load w.room w.files w.environment w.cwd (o.config.map Path.ofString) with
  | .error e =>
    if e.isConfigError then { status := 2, output := [o.line w .failure e.message] }
    else if e = .notText then .notText
    else .brokenOff [] e.kind e.message
  | .ok config =>
    match (Path.ofString o.file).expandHome w.home >>= w.cwd.resolve with
    | .error e => .brokenOff [] e.kind e.message
    | .ok target => checkFile w o (o.override config) target

def reportsText (w : World) (o : ParseOptions) (reports : List FileReport) :
    Except Decimal.Unwritable (List Block) :=
  if o.json then
    (Json.renderIndented (.list (reports.map FileReport.toValue))).map fun text =>
      [.text (text ++ "\n")]
  else
    (Report.write reports).map fun text =>
      let shown := if w.terminal then text else String.ofList (withoutSequences text.toList)
      if text = "" then [] else [.text (shown ++ "\n")]

def parseText (w : World) (o : ParseOptions) (text : String) : Run :=
  let parsed := Report.parse text
  let log := parsed.notices.map Report.Notice.log
  match parsed.reports with
  | .error e => { Run.brokenOff [] "ValueError" e.message with log }
  | .ok reports =>
    match reportsText w o reports with
    | .error e => { Run.brokenOff [] "ValueError" e.message with log }
    | .ok output => { output, log }

/-- Read linter output from where the command line says. -/
def parse (w : World) (o : ParseOptions) : Run :=
  if o.source = "-" then
    parseText w o (String.ofList (uniformReturns w.input.toList))
  else
    match (Path.ofString o.source).expandHome w.home with
    | .error e => .brokenOff [] e.kind e.message
    | .ok path =>
      match w.files path with
      | some (.file bytes) =>
        match fileText? bytes with
        | none => .notText
        | some text => parseText w o text
      | some .tooLong => .brokenOff [] "OSError" path.tooLongMessage
      | _ => .misused (.notReadable o.source)

def usageText : String :=
  "Usage: aiplint check [OPTIONS] FILE\n       aiplint parse [--json] [FILE|-]\n"

/-- The files that a command may look at. -/
def Command.paths (cwd : Path) (home : String → Option String) : Command → List Path
  | .check o =>
    let asked := (o.config.map Path.ofString).toList
    let target := (Path.ofString o.file).expandHome home >>= cwd.resolve
    projectFile cwd :: settingsFile cwd :: asked ++ target.toOption.toList
  | .parse o => ((Path.ofString o.source).expandHome home).toOption.toList
  | .help => []

def Command.readsReport : Command → Bool
  | .parse _ => true
  | _ => false

def Command.readsInput : Command → Bool
  | .parse o => o.source = "-"
  | _ => false

def Block.render : Block → String
  | .text s => s
  | .table t => t.render

def Command.run (w : World) : Command → Run
  | .check o => CommandLine.check w o
  | .parse o => CommandLine.parse w o
  | .help => { output := [.text usageText] }

def run (w : World) (words : List String) : Run :=
  match Command.ofWords w.whole? words with
  | .error e => .misused e
  | .ok command => command.run w

end LintRelay.CommandLine
