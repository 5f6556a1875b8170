import LintRelay.Validation.Orchestrator

/-!
# Passes side by side

An orchestrator at work. A host calls it at any moment, free workers take the
scheduled passes from its queue in order, other threads validate on their own, and
all passes that have been taken up act in any order, one action at a time. Every
action is one step under the lock, so a run is any list of moves.

An event takes the orchestrator several steps, each under a lock of its own. They can be
made in one move, which leaves nothing in between, and as moves of their own, which does;
so where other moves come between the steps of an event is covered by the runs too. A host
that has handed its store of documents to the orchestrator also goes on working with it:
between any two moves it opens, updates and closes documents there.

Beyond what the orchestrator knows, a session remembers what its passes did: the
stages that each of them stored, and the sets that were handed to the sink. Both
are read off the actions themselves.
-/

namespace LintRelay

/-- A sink that refuses nothing. -/
def Sink.keeping : Sink :=
  fun _ => none

namespace Pass

/-- The sets that an action hands to the sink: those that a sink which refuses
nothing gets from it. -/
def offers (ctx : PassContext) (sh : Shared) (p : Pass) (a : PassAction) : List Publication :=
  (p.act ctx .keeping sh a).shared.board.history.events.drop sh.board.history.events.length

/-- The stages that an action stores for the document: the one that stands
afterwards where none stood before, and publishing while a set is with the sink. -/
def stores (ctx : PassContext) (sh : Shared) (p : Pass) (a : PassAction) :
    List ValidationStage :=
  let blank := { sh with board := sh.board.setStage p.document.uri none }
  ((p.act ctx .keeping blank a).shared.board.stage p.document.uri).toList ++
    (p.offers ctx sh a).map fun _ => .publishing

end Pass

/-- A set that was handed to the sink. -/
structure Delivery where
  /-- The place of the pass among those that were taken up. -/
  pass : Nat
  /-- The token of the pass. -/
  token : Nat
  /-- The generation of the document at that moment. -/
  generation : Nat
  publication : Publication
  /-- Whether the sink took the set. -/
  taken : Bool
  deriving DecidableEq, Inhabited

structure PassRecord where
  pass : Pass
  /-- Whether a worker of the pool runs it, and not the caller. -/
  pooled : Bool
  /-- The stages that it stored, the latest last. -/
  stages : List ValidationStage := []
  deriving Inhabited

abbrev PassRecord.uri (r : PassRecord) : String :=
  r.pass.document.uri

def PassRecord.isBusy (r : PassRecord) : Bool :=
  r.pooled && r.pass.result?.isNone

structure Session where
  orchestrator : Orchestrator
  workers : Nat
  /-- The passes that were taken up, in that order. -/
  passes : List PassRecord := []
  /-- The sets that were handed to the sink, the latest last. -/
  deliveries : List Delivery := []

instance : Inhabited Session := ⟨⟨default, 0, [], []⟩⟩

/-- What can happen in a session. -/
inductive Session.Move where
  /-- A thread validates a snapshot on its own. -/
  | call (d : Document)
  /-- The host schedules a pass. -/
  | trigger (d : Document)
  /-- The host schedules a pass over every open document. -/
  | revalidateAll
  /-- Something happens in the editor, and all steps for it are made in one go. -/
  | handle (e : EditorEvent)
  /-- One of the steps for an event. -/
  | part (h : Orchestrator.HostStep)
  /-- The host makes all passes over a document worthless. -/
  | supersede (uri : String)
  /-- The host lets the workers go. -/
  | shutDown
  /-- A free worker takes the next pass from the queue. -/
  | take
  /-- A pass acts; the sink is as it behaves at that moment. -/
  | act (pass : Nat) (sink : Sink) (action : PassAction)

namespace Session

/-- A session at its beginning. Of an orchestrator only what it goes by and what it
keeps is taken over, nothing of passes that it ran. -/
def start (o : Orchestrator) (workers : Nat) : Session :=
  { orchestrator :=
      { o with shared := { o.shared with board := {} }, queue := [], isShutDown := false }
    workers }

def board (s : Session) : Board :=
  s.orchestrator.shared.board

def busy (s : Session) : Nat :=
  s.passes.countP PassRecord.isBusy

def host (s : Session) (f : Orchestrator → Orchestrator) : Session :=
  { s with orchestrator := f s.orchestrator }

/-- A free worker takes the next pass from the queue, if there are both. -/
def take (s : Session) : Session :=
  match s.orchestrator.queue with
  | [] => s
  | p :: queue =>
    if s.busy < s.workers then
      { s with
        orchestrator := { s.orchestrator with queue }
        passes := s.passes ++ [⟨p, true, []⟩] }
    else
      s

def act (s : Session) (i : Nat) (sink : Sink) (a : PassAction) : Session :=
  match s.passes[i]? with
  | none => s
  | some r =>
    let ctx := s.orchestrator.context
    let sh := s.orchestrator.shared
    let (orchestrator, pass, _) := s.orchestrator.act sink r.pass a
    { s with
      orchestrator
      passes := s.passes.set i { r with pass, stages := r.stages ++ r.pass.stores ctx sh a }
      deliveries := s.deliveries ++ (r.pass.offers ctx sh a).map fun x =>
        ⟨i, r.pass.token, sh.board.generation x.uri, x, (sink x).isNone⟩ }

def step (s : Session) : Move → Session
  | .call d => { s with passes := s.passes ++ [⟨{ document := d }, false, []⟩] }
  | .trigger d => s.host fun o => (o.trigger d).1
  | .revalidateAll => s.host fun o => o.revalidateAll.1
  | .handle e => s.host fun o => (o.handle e).1
  | .part h => s.host (·.take h)
  | .supersede uri => s.host (·.supersede uri)
  | .shutDown => s.host Orchestrator.shutDown
  | .take => s.take
  | .act i sink a => s.act i sink a

def run (s : Session) (moves : List Move) : Session :=
  moves.foldl step s

def partsOf (o : Orchestrator) : EditorEvent → List Move
  | .opened d | .saved d => [.part (.put d), .trigger d]
  | .changed d => .part (.put d) :: if o.policy.validateOnChange then [.trigger d] else []
  | .closed uri => [.supersede uri, .part (.close uri), .part (.forget uri)]
  | .configurationChanged settings =>
    (if o.capabilities.documentConfiguration then [.part .forgetAll]
      else settings.toList.map fun s => .part (.setGlobal s)) ++
    o.documents.current.documents.map .trigger

/-- The documents of the passes that are scheduled in a run, in the order in which
the host asked for them: those that each move adds to the queue. -/
def triggered (s : Session) : List Move → List Document
  | [] => []
  | m :: moves =>
    let next := s.step m
    (next.orchestrator.queue.drop s.orchestrator.queue.length).map Pass.document ++
      next.triggered moves

/-- All passes have ended. -/
def Settled (s : Session) : Prop :=
  s.orchestrator.queue = [] ∧ ∀ r ∈ s.passes, r.pass.result?.isSome

@[simp] theorem run_nil (s : Session) : s.run [] = s := rfl

@[simp] theorem run_cons (s : Session) (m : Move) (moves : List Move) :
    s.run (m :: moves) = (s.step m).run moves := rfl

theorem run_append (s : Session) (moves moves' : List Move) :
    s.run (moves ++ moves') = (s.run moves).run moves' := by
  rw [run, List.foldl_append]
  rfl

/-! ## A host that works with its own store -/

/-- What can happen where the host works with its own store as well. -/
inductive HostedMove where
  /-- A move of the session. -/
  | session (m : Move)
  /-- The host opens or updates a document in its store. -/
  | put (d : Document)
  /-- The host closes a document in its store. -/
  | close (uri : String)

def hostedStep (s : Session) : HostedMove → Session
  | .session m => s.step m
  | .put d => s.host (·.changeHost (·.put d))
  | .close uri => s.host (·.changeHost (·.close uri))

/-- A run in which the host works with its own store as well. -/
def hostedRun (s : Session) (moves : List HostedMove) : Session :=
  moves.foldl hostedStep s

end Session

end LintRelay
