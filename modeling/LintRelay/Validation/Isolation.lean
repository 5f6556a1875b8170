import LintRelay.Validation.Session

/-!
# What concerns one document

The steps of an orchestrator that concern one document, and what is left of a session
when everything that concerns other documents is taken out of it: the other documents'
passes, documents, sets and settings, and the moves that are about them. Calls and events
that are about every document stay.
-/

namespace LintRelay

/-! ## Steps -/

/-- A step that concerns one document; where a set goes to the sink, with how the sink
behaves at that moment. -/
inductive DocumentStep where
  /-- A pass takes its token. -/
  | begins (uri : String)
  /-- A pass enters a stage. -/
  | enters (uri : String) (token : Nat) (stage : ValidationStage)
  /-- A pass publishes a set. -/
  | publishes (sink : Sink) (uri : String) (token : Nat) (set : List Diagnostic)
  /-- A pass leaves its stage. -/
  | finishes (uri : String) (token : Nat)
  /-- All passes over the document become worthless. -/
  | supersedes (uri : String)
  /-- The document is opened or updated. -/
  | puts (d : Document)
  /-- The document is closed. -/
  | closes (uri : String)

inductive StepAnswer where
  | nothing
  | token (token : Nat)
  /-- Whether the token was the current one. -/
  | current (b : Bool)
  | refused (fault : Fault)

namespace DocumentStep

def uri : DocumentStep → String
  | begins uri | enters uri _ _ | publishes _ uri _ _ | finishes uri _ | supersedes uri
  | closes uri => uri
  | puts d => d.uri

def onBoard (b : Board) : DocumentStep → Board × StepAnswer
  | begins uri => ((b.begin' uri).1, .token (b.begin' uri).2)
  | enters uri token stage =>
    ((b.advance uri token stage).1, .current (b.advance uri token stage).2)
  | publishes sink uri token set =>
    let published := b.publish sink uri token set
    match published.2 with
    | .ok current => (published.1, .current current)
    | .error fault => (published.1, .refused fault)
  | finishes uri token => (b.finish uri token, .nothing)
  | supersedes uri | closes uri => (b.supersede uri, .nothing)
  | puts _ => (b, .nothing)

def onDocuments (s : DocumentStore) : DocumentStep → DocumentStore
  | puts d => s.put d
  | closes uri => s.close uri
  | _ => s

def onSettings (c : SettingsCache) : DocumentStep → SettingsCache
  | closes uri => c.remove uri
  | _ => c

end DocumentStep

def Orchestrator.perform (o : Orchestrator) (x : DocumentStep) : Orchestrator × StepAnswer :=
  let (board, answer) := x.onBoard o.shared.board
  ({ o with
    documents := o.documents.change (x.onDocuments ·)
    shared := { board, settings := x.onSettings o.shared.settings } }, answer)

/-! ## One document of several -/

def Board.only (b : Board) (uri : String) : Board where
  generation u := if u = uri then b.generation u else 0
  stage u := if u = uri then b.stage u else none
  history := ⟨b.history.events.filter (·.uri = uri)⟩

def DocumentStore.only (s : DocumentStore) (uri : String) : DocumentStore :=
  ⟨s.documents.filter (·.uri = uri)⟩

def SharedDocuments.only (s : SharedDocuments) (uri : String) : SharedDocuments :=
  ⟨s.host.only uri, s.own.map (·.only uri)⟩

def SettingsCache.only (c : SettingsCache) (uri : String) : SettingsCache :=
  { c with entry := fun key => if key = uri then c.entry key else none }

def Orchestrator.only (o : Orchestrator) (uri : String) : Orchestrator :=
  { o with
    documents := o.documents.only uri
    shared := ⟨o.shared.board.only uri, o.shared.settings.only uri⟩
    queue := o.queue.filter (·.document.uri = uri) }

/-- The document that an event is about; none if it is about all of them. -/
def EditorEvent.uri? : EditorEvent → Option String
  | .opened d | .changed d | .saved d => some d.uri
  | .closed uri => some uri
  | .configurationChanged _ => none

/-- The document that a step for an event is about; none if it is about all of them. -/
def Orchestrator.HostStep.uri? : Orchestrator.HostStep → Option String
  | .put d => some d.uri
  | .close uri | .forget uri => some uri
  | .forgetAll | .setGlobal _ => none

/-- What is seen of a pass: everything but where it stands on its way. -/
structure PassView where
  document : Document
  token : Nat
  pooled : Bool
  stages : List ValidationStage
  result : Option (Except PassError PassOutcome)

/-- What is seen of a pass that was taken up. -/
def PassRecord.view (r : PassRecord) : PassView :=
  ⟨r.pass.document, r.pass.token, r.pooled, r.stages, r.pass.result?⟩

namespace Session

/-- The place of a pass among those over a document. -/
def placeAmong (s : Session) (uri : String) (i : Nat) : Nat :=
  (s.passes.take i).countP (·.uri = uri)

/-- The sets of a document that were handed over, by the places of the passes among those
over it. -/
def deliveriesOf (s : Session) (uri : String) : List Delivery :=
  (s.deliveries.filter (·.publication.uri = uri)).map fun d =>
    { d with pass := s.placeAmong uri d.pass }

/-- Whether a free worker takes a pass over a document from the queue. -/
def takesOver (s : Session) (uri : String) : Bool :=
  match s.orchestrator.queue with
  | [] => false
  | p :: _ => p.document.uri = uri && s.busy < s.workers

/-- What is left of a move when only one document counts. -/
def concerning (s : Session) (uri : String) : Move → List Move
  | .call d => if d.uri = uri then [.call d] else []
  | .trigger d => if d.uri = uri then [.trigger d] else []
  | .revalidateAll => [.revalidateAll]
  | .handle e => if e.uri?.all (· = uri) then [.handle e] else []
  | .part h => if h.uri?.all (· = uri) then [.part h] else []
  | .supersede u => if u = uri then [.supersede u] else []
  | .shutDown => [.shutDown]
  | .take => if s.takesOver uri then [.take] else []
  | .act i sink a =>
    match s.passes[i]? with
    | none => []
    | some r => if r.uri = uri then [.act (s.placeAmong uri i) sink a] else []

/-- What is left of a run when only one document counts. -/
def restrict (s : Session) (uri : String) : List Move → List Move
  | [] => []
  | m :: moves => s.concerning uri m ++ (s.step m).restrict uri moves

/-- The session with only what concerns a document. -/
def only (s : Session) (uri : String) : Session where
  orchestrator := s.orchestrator.only uri
  workers := s.workers
  passes := s.passes.filter (·.uri = uri)
  deliveries := s.deliveriesOf uri

end Session

end LintRelay
