import LintRelay.Linter.Basic
import LintRelay.Report.Scanner
import LintRelay.Settings.Cache
import LintRelay.Suggestion.Enrichment
import LintRelay.Validation.Board
import LintRelay.Validation.Selection

/-!
# A validation pass

A pass lints a document, reads the report, asks for suggestions and publishes
the diagnostics. It goes from point to point by actions: `proceed` is a step of
its own, the other actions are answers from outside. Between any two actions
other passes may act, and at several points the pass looks whether it has been
superseded by a newer one.
-/

namespace LintRelay

structure PassContext where
  relatedInformation : Bool := true
  debounce : Number := .float 0.0
  onLinterFailure : FailurePolicy := .keepStale
  suggestions : Bool := false
  deriving Inhabited

inductive PassStatus where
  | published
  | superseded
  | linterFailed
  | cleared
  deriving DecidableEq, Repr, Inhabited

def PassStatus.name : PassStatus → String
  | published => "published"
  | superseded => "superseded"
  | linterFailed => "linter-failed"
  | cleared => "cleared"

structure PassOutcome where
  uri : String
  status : PassStatus
  diagnostics : List Diagnostic := []
  error : Option LinterFailure := none
  deriving DecidableEq, Inhabited

def PassOutcome.isPublished (o : PassOutcome) : Bool :=
  o.status = .published || o.status = .cleared

/-- Why nothing comes of a pass. -/
inductive PassError where
  | delay (fault : Fault)
  | settings (fault : Fault)
  | linter (fault : Fault)
  | report (e : Decimal.Oversized)
  | enrichment (fault : Fault)
  | sink (fault : Fault)
  deriving Inhabited

def PassError.fault : PassError → Fault
  | delay fault | settings fault | linter fault | enrichment fault | sink fault => fault
  | report e => Fault.unusable e.message

inductive Pass.Point where
  | queued
  | begun
  | dozing
  | woken
  | reading (r : SettingsRead)
  | settled (s : DocumentSettings)
  | linting (s : DocumentSettings)
  | linted (s : DocumentSettings) (output : String)
  | parsing (s : DocumentSettings) (output : String)
  | parsed (s : DocumentSettings) (findings : List Finding)
  | enriching (e : Enrichment)
  | publishing (ds : List Diagnostic)
  | clearing (failure : LinterFailure)
  | failing (failure : LinterFailure)
  | failed (failure : LinterFailure)
  | leaving (result : Except PassError PassOutcome)
  | ended (result : Except PassError PassOutcome)
  deriving Inhabited

structure Pass where
  document : Document
  token : Nat := 0
  point : Pass.Point := .queued
  deriving Inhabited

structure Shared where
  board : Board := {}
  settings : SettingsCache := {}

instance : Inhabited Shared := ⟨{}⟩

/-- What can happen to a pass. -/
inductive PassAction where
  /-- The pass takes its next step. -/
  | proceed
  /-- The debounce delay is over. -/
  | wake
  /-- The provider answers with settings. -/
  | fetched (answer : Except SettingsError DocumentSettings)
  /-- The linter answers. -/
  | linted (answer : Except LintError String)
  /-- A job polls whether the pass has been superseded. -/
  | poll (job : Nat)
  /-- The service replies to a job. -/
  | replied (job : Nat) (reply : SuggestReply)
  /-- The delay, the settings or the enrichment break off with a fault that is
  not told as an answer. -/
  | interrupted (fault : Fault)
  deriving Inhabited

inductive PassDemand where
  | sleep (seconds : Number)
  | fetch (key : String)
  | lint (document : Document)
  | poll (job : Nat)
  | suggest (job : Nat) (request : SuggestionRequest)
  deriving Inhabited

namespace Pass

def move (p : Pass) (point : Point) : Pass :=
  { p with point }

structure Change where
  shared : Shared
  pass : Pass
  log : List LogRecord := []
  deriving Inhabited

def stay (sh : Shared) (p : Pass) (point : Point) : Change :=
  ⟨sh, p.move point, []⟩

def supersededChange (sh : Shared) (p : Pass) : Change :=
  ⟨sh, p.move (.leaving (.ok ⟨p.document.uri, .superseded, [], none⟩)),
    [⟨.debug, "validation of " ++ p.document.uri ++ " superseded by a newer pass"⟩]⟩

/-- Enter a stage and go on, unless superseded. -/
def enter (sh : Shared) (p : Pass) (s : ValidationStage) (next : Point) : Change :=
  match sh.board.advance p.document.uri p.token s with
  | (board, true) => ⟨{ sh with board }, p.move next, []⟩
  | (_, false) => supersededChange sh p

/-- Publish a set, and leave with an outcome unless superseded. -/
def publishAs (sink : Sink) (sh : Shared) (p : Pass) (ds : List Diagnostic)
    (outcome : PassOutcome) (log : List LogRecord) : Change :=
  match sh.board.publish sink p.document.uri p.token ds with
  | (board, .ok true) => ⟨{ sh with board }, p.move (.leaving (.ok outcome)), log⟩
  | (_, .ok false) => supersededChange sh p
  | (board, .error fault) => ⟨{ sh with board }, p.move (.leaving (.error (.sink fault))), []⟩

def read (sh : Shared) (p : Pass) (s : DocumentSettings) (output : String) : Change :=
  let parsed := Report.parse output
  let log := parsed.notices.map Report.Notice.log
  match parsed.reports with
  | .error e => ⟨sh, p.move (.leaving (.error (.report e))), log⟩
  | .ok reports => ⟨sh, p.move (.parsed s (p.document.findings reports)), log⟩

/-- Go on when all jobs have ended. -/
def collect (ctx : PassContext) (sh : Shared) (p : Pass) (e : Enrichment) : Change :=
  if e.isOver then
    match e.collected with
    | .error fault => ⟨sh, p.move (.leaving (.error (.enrichment fault))), e.result.log⟩
    | .ok result =>
      ⟨sh, p.move (.publishing
        (Diagnostic.ofFindings p.document.uri ctx.relatedInformation result.findings)), result.log⟩
  else
    ⟨sh, p, []⟩

def afterFailure (ctx : PassContext) (sh : Shared) (p : Pass) (failure : LinterFailure) : Change :=
  let log : List LogRecord :=
    [⟨.warning, "api-linter failed for " ++ p.document.uri ++ ": " ++ failure.message⟩]
  match ctx.onLinterFailure with
  | .clear => ⟨sh, p.move (.clearing failure), log⟩
  | .keepStale => ⟨sh, p.move (.failing failure), log⟩

/-- The next step of a pass itself. -/
def proceed (ctx : PassContext) (sink : Sink) (sh : Shared) (p : Pass) : Change :=
  let uri := p.document.uri
  match p.point with
  | .queued =>
    let (board, token) := sh.board.begin' uri
    ⟨{ sh with board }, { p with token, point := .begun }, []⟩
  | .begun =>
    if ctx.debounce.isPositive then stay sh p .dozing else stay sh p (.reading { key := uri })
  | .woken =>
    if sh.board.isCurrent uri p.token then stay sh p (.reading { key := uri })
    else supersededChange sh p
  | .reading r =>
    match r.point with
    | .done s => stay sh p (.settled s)
    | .broken _ fault => stay sh p (.leaving (.error (.settings fault)))
    | _ =>
      let (settings, r) := r.step sh.settings
      ⟨{ sh with settings }, p.move (.reading r), []⟩
  | .settled s => enter sh p .linting (.linting s)
  | .linted s output => enter sh p .parsing (.parsing s output)
  | .parsing s output => read sh p s output
  | .parsed s findings =>
    enter sh p .enriching
      (.enriching (.start ctx.suggestions findings p.document.text s.maxProblems))
  | .enriching e => collect ctx sh p e
  | .publishing ds =>
    publishAs sink sh p ds ⟨uri, .published, ds, none⟩
      [⟨.debug, s!"published {ds.length} diagnostics for " ++ uri⟩]
  | .clearing failure => publishAs sink sh p [] ⟨uri, .cleared, [], some failure⟩ []
  | .failing failure =>
    ⟨{ sh with board := sh.board.finish uri p.token }, p.move (.failed failure), []⟩
  | .failed failure =>
    if sh.board.isCurrent uri p.token then
      stay sh p (.leaving (.ok ⟨uri, .linterFailed, [], some failure⟩))
    else
      supersededChange sh p
  | .leaving result =>
    ⟨{ sh with board := sh.board.finish uri p.token }, p.move (.ended result), []⟩
  | .dozing | .linting _ | .ended _ => ⟨sh, p, []⟩

/-- What an action does. An action that does not fit the point where the pass
stands does nothing. -/
def act (ctx : PassContext) (sink : Sink) (sh : Shared) (p : Pass) : PassAction → Change
  | .proceed => proceed ctx sink sh p
  | .wake =>
    match p.point with
    | .dozing => stay sh p .woken
    | _ => ⟨sh, p, []⟩
  | .fetched answer =>
    match p.point with
    | .reading r =>
      let (r, log) := r.fetched answer
      ⟨sh, p.move (.reading r), log⟩
    | _ => ⟨sh, p, []⟩
  | .linted answer =>
    match p.point, answer with
    | .linting s, .ok output => stay sh p (.linted s output)
    | .linting _, .error (.failed failure) => afterFailure ctx sh p failure
    | .linting _, .error (.unexpected fault) => stay sh p (.leaving (.error (.linter fault)))
    | _, _ => ⟨sh, p, []⟩
  | .poll job =>
    match p.point with
    | .enriching e =>
      stay sh p (.enriching (e.poll job (!sh.board.isCurrent p.document.uri p.token)))
    | _ => ⟨sh, p, []⟩
  | .replied job reply =>
    match p.point with
    | .enriching e => stay sh p (.enriching (e.reply job reply))
    | _ => ⟨sh, p, []⟩
  | .interrupted fault =>
    match p.point with
    | .dozing => stay sh p (.leaving (.error (.delay fault)))
    | .reading _ => stay sh p (.leaving (.error (.settings fault)))
    | .enriching _ => stay sh p (.leaving (.error (.enrichment fault)))
    | _ => ⟨sh, p, []⟩

/-- What a pass waits for, unless its next step is its own. Jobs are worked on
in the order of the findings. -/
def demand? (ctx : PassContext) (p : Pass) : Option PassDemand :=
  match p.point with
  | .dozing => some (.sleep ctx.debounce)
  | .reading ⟨key, .fetching _⟩ => some (.fetch key)
  | .linting _ => some (.lint p.document)
  | .enriching e =>
    match e.next? with
    | none => none
    | some job =>
      match e.jobs[job]?, e.request? job with
      | some .asked, some request => some (.suggest job request)
      | _, _ => some (.poll job)
  | _ => none

def result? (p : Pass) : Option (Except PassError PassOutcome) :=
  match p.point with
  | .ended result => some result
  | _ => none

end Pass

end LintRelay
