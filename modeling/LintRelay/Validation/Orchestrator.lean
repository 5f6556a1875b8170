import LintRelay.Document
import LintRelay.Validation.Pass

/-!
# The orchestrator

The orchestrator follows what happens in an editor: it keeps the documents that
are open and schedules a pass wherever an event asks for one. Scheduled passes
are started by workers, in any order and at any time.

A host may hand its own store of documents to the orchestrator. A store that holds
documents at that moment is shared from then on; where the host's store is empty, the
orchestrator keeps one of its own beside it.
-/

namespace LintRelay

/-- The host's store, and the one beside it where it is not shared. -/
structure SharedDocuments where
  host : DocumentStore := {}
  own : Option DocumentStore := some {}
  deriving DecidableEq, Repr, Inhabited

namespace SharedDocuments

/-- Take over a host's store. -/
def adopt (host : DocumentStore) : SharedDocuments :=
  ⟨host, if host.documents = [] then some {} else none⟩

def current (s : SharedDocuments) : DocumentStore :=
  s.own.getD s.host

def change (s : SharedDocuments) (f : DocumentStore → DocumentStore) : SharedDocuments :=
  match s.own with
  | none => { s with host := f s.host }
  | some own => { s with own := some (f own) }

def changeHost (s : SharedDocuments) (f : DocumentStore → DocumentStore) : SharedDocuments :=
  { s with host := f s.host }

end SharedDocuments

/-- What an editor can do. -/
structure HostCapabilities where
  documentConfiguration : Bool := false
  relatedInformation : Bool := true
  deriving DecidableEq, Repr, Inhabited

structure ValidationPolicy where
  validateOnChange : Bool := false
  debounceSeconds : Number := .float 0.0
  onLinterFailure : FailurePolicy := .keepStale
  deriving Inhabited

inductive EditorEvent where
  | opened (d : Document)
  | changed (d : Document)
  | saved (d : Document)
  | closed (uri : String)
  | configurationChanged (settings : Option DocumentSettings)
  deriving DecidableEq, Repr, Inhabited

structure NoWorkers where
  deriving DecidableEq, Repr

def NoWorkers.message (_ : NoWorkers) : String :=
  "max_workers must be at least 1"

/-- A pool of workers has at least one. -/
def checkWorkers (count : Int) : Except NoWorkers Unit :=
  if count < 1 then .error {} else .ok ()

structure ShutDown where
  deriving DecidableEq, Repr

def ShutDown.message (_ : ShutDown) : String :=
  "cannot schedule new futures after shutdown"

structure Orchestrator where
  capabilities : HostCapabilities := {}
  policy : ValidationPolicy := {}
  suggestions : Bool := false
  documents : SharedDocuments := {}
  shared : Shared := {}
  /-- The passes that no worker has started yet. -/
  queue : List Pass := []
  isShutDown : Bool := false

instance : Inhabited Orchestrator := ⟨{}⟩

namespace Orchestrator

def context (o : Orchestrator) : PassContext :=
  { relatedInformation := o.capabilities.relatedInformation
    debounce := o.policy.debounceSeconds
    onLinterFailure := o.policy.onLinterFailure
    suggestions := o.suggestions }

def stageOf (o : Orchestrator) (uri : String) : Option ValidationStage :=
  o.shared.board.stage uri

/-- Make all passes over a document worthless. -/
def supersede (o : Orchestrator) (uri : String) : Orchestrator :=
  { o with shared := { o.shared with board := o.shared.board.supersede uri } }

def changeSettings (o : Orchestrator) (f : SettingsCache → SettingsCache) : Orchestrator :=
  { o with shared := { o.shared with settings := f o.shared.settings } }

def changeDocuments (o : Orchestrator) (f : DocumentStore → DocumentStore) : Orchestrator :=
  { o with documents := o.documents.change f }

def changeHost (o : Orchestrator) (f : DocumentStore → DocumentStore) :
    Orchestrator :=
  { o with documents := o.documents.changeHost f }

def trigger (o : Orchestrator) (d : Document) : Orchestrator × Except ShutDown Nat :=
  if o.isShutDown then (o, .error {})
  else ({ o with queue := o.queue ++ [{ document := d }] }, .ok 1)

/-- Schedule a pass over every snapshot; the number of them. -/
def triggerAll (o : Orchestrator) : List Document → Orchestrator × Except ShutDown Nat
  | [] => (o, .ok 0)
  | d :: ds =>
    match o.trigger d with
    | (o, .error e) => (o, .error e)
    | (o, .ok n) =>
      match o.triggerAll ds with
      | (o, .error e) => (o, .error e)
      | (o, .ok m) => (o, .ok (n + m))

def revalidateAll (o : Orchestrator) : Orchestrator × Except ShutDown Nat :=
  o.triggerAll o.documents.current.documents

/-- What the host does to the documents and the settings in one step; its other steps are
to make passes worthless and to schedule them. -/
inductive HostStep where
  | put (d : Document)
  | close (uri : String)
  | forget (key : String)
  | forgetAll
  | setGlobal (s : DocumentSettings)
  deriving DecidableEq, Repr

def take (o : Orchestrator) : HostStep → Orchestrator
  | .put d => o.changeDocuments (·.put d)
  | .close uri => o.changeDocuments (·.close uri)
  | .forget key => o.changeSettings (·.remove key)
  | .forgetAll => o.changeSettings (·.invalidateAll)
  | .setGlobal s => o.changeSettings (·.updateGlobal s)

/-- Follow an event, and schedule the passes that it asks for. Its parts lie under locks of
their own, so that others can come between them; each part is a move of a session too, and
`Session.step_handle` says that an event is no more than these. -/
def handle (o : Orchestrator) : EditorEvent → Orchestrator × Except ShutDown Nat
  | .opened d | .saved d => (o.changeDocuments (·.put d)).trigger d
  | .changed d =>
    let o := o.changeDocuments (·.put d)
    if o.policy.validateOnChange then o.trigger d else (o, .ok 0)
  | .closed uri =>
    (((o.supersede uri).changeDocuments (·.close uri)).changeSettings (·.remove uri), .ok 0)
  | .configurationChanged settings =>
    let o :=
      if o.capabilities.documentConfiguration then o.changeSettings (·.invalidateAll)
      else
        match settings with
        | some s => o.changeSettings (·.updateGlobal s)
        | none => o
    o.revalidateAll

def shutDown (o : Orchestrator) : Orchestrator :=
  { o with isShutDown := true }

def act (o : Orchestrator) (sink : Sink) (p : Pass) (a : PassAction) :
    Orchestrator × Pass × List LogRecord :=
  let change := p.act o.context sink o.shared a
  ({ o with shared := change.shared }, change.pass, change.log)

end Orchestrator

end LintRelay
