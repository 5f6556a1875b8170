import LintRelay.Proofs.Validation.Events
import LintRelay.Validation.Session

/-!
# Whether a store is shared

A host hands its store of documents to the orchestrator and goes on working with it. The
two are owners of one store exactly if it held a document when it was handed over: then
every change that one of them makes is seen by the other, also after all documents have
been closed. An empty store stays the host's alone, and what is revalidated is never more
than what the orchestrator has been told itself.
-/

namespace LintRelay

namespace Session

/-- What a move tells the store that both owners share: an event that the orchestrator
handles, or what the host does itself. -/
def HostedMove.tells? : HostedMove → Option EditorEvent
  | .session m => m.event?
  | .put d => some (.opened d)
  | .close uri => some (.closed uri)

/-- The event that the orchestrator handles in a move. -/
def HostedMove.handles? : HostedMove → Option EditorEvent
  | .session m => m.event?
  | .put _ | .close _ => none

/-- What the host does to its store in a move. -/
def HostedMove.does? : HostedMove → Option EditorEvent
  | .session _ => none
  | .put d => some (.opened d)
  | .close uri => some (.closed uri)

/-- The host and the orchestrator have the same documents, and a new configuration
revalidates those of the host. -/
structure SharesDocuments (s : Session) : Prop where
  current_eq : s.orchestrator.documents.current = s.orchestrator.documents.host
  queue_eq : s.orchestrator.isShutDown = false → ∀ settings,
    (s.step (.handle (.configurationChanged settings))).orchestrator.queue =
      s.orchestrator.queue ++
        s.orchestrator.documents.host.documents.map fun d => { document := d }

end Session

/-! ## Who changes which store -/

namespace SharedDocuments

theorem change_id (s : SharedDocuments) : s.change (fun documents => documents) = s := by
  obtain ⟨host, own⟩ := s
  cases own <;> rfl

theorem adopt_of_ne_nil {store : DocumentStore} (h : store.documents ≠ []) :
    adopt store = ⟨store, none⟩ := by
  rw [adopt, if_neg h]

theorem adopt_of_nil {store : DocumentStore} (h : store.documents = []) :
    adopt store = ⟨{}, some {}⟩ := by
  obtain ⟨documents⟩ := store
  obtain rfl : documents = [] := h
  rfl

/-- What a move makes of the documents of both. -/
def follow (s : SharedDocuments) (m : Session.HostedMove) : SharedDocuments :=
  (m.handles?.elim s fun e => s.change (·.follow e)).changeHost fun host =>
    m.does?.elim host host.follow

variable (store own : DocumentStore) (moves : List Session.HostedMove)

/-- Both owners of a shared store write to it. -/
theorem foldl_follow_of_shared :
    moves.foldl follow ⟨store, none⟩ =
      ⟨(moves.filterMap Session.HostedMove.tells?).foldl DocumentStore.follow store, none⟩ := by
  induction moves generalizing store with
  | nil => rfl
  | cons m moves ih =>
      have hstep : follow ⟨store, none⟩ m = ⟨m.tells?.elim store store.follow, none⟩ := by
        cases m with
        | session m => cases h : m.event? <;>
            simp [follow, Session.HostedMove.handles?, Session.HostedMove.does?,
              Session.HostedMove.tells?, h, change, changeHost]
        | put d | close uri => rfl
      rw [List.foldl_cons, hstep, ih]
      cases h : m.tells? <;> simp [h]

/-- Each owner of two stores writes to the one that is its own. -/
theorem foldl_follow_of_apart :
    moves.foldl follow ⟨store, some own⟩ =
      ⟨(moves.filterMap Session.HostedMove.does?).foldl DocumentStore.follow store,
        some ((moves.filterMap Session.HostedMove.handles?).foldl DocumentStore.follow own)⟩ := by
  induction moves generalizing store own with
  | nil => rfl
  | cons m moves ih =>
      have hstep : follow ⟨store, some own⟩ m =
          ⟨m.does?.elim store store.follow, some (m.handles?.elim own own.follow)⟩ := by
        cases m with
        | session m => cases h : m.event? <;>
            simp [follow, Session.HostedMove.handles?, Session.HostedMove.does?, h, change,
              changeHost]
        | put d | close uri => rfl
      rw [List.foldl_cons, hstep, ih]
      cases h : m.does? <;> cases h' : m.handles? <;> simp [h, h']

end SharedDocuments

namespace Orchestrator

variable (o : Orchestrator)

theorem documents_triggerAll (ds : List Document) :
    (o.triggerAll ds).1.documents = o.documents := by
  obtain ⟨queue, hframe⟩ := o.triggerAll_frame ds
  rw [hframe]

theorem documents_follow (e : EditorEvent) :
    (o.follow e).documents = o.documents.change (·.follow e) := by
  cases e with
  | opened d | changed d | saved d | closed uri => rfl
  | configurationChanged settings =>
      have hsame : o.documents.change (·.follow (.configurationChanged settings)) = o.documents :=
        o.documents.change_id
      rw [hsame]
      simp only [follow]
      split
      · rfl
      · cases settings <;> rfl

theorem documents_handle (e : EditorEvent) :
    (o.handle e).1.documents = o.documents.change (·.follow e) := by
  rw [o.handle_eq, documents_triggerAll, documents_follow]

end Orchestrator

namespace Session

/-- Of the moves of a session only events and their steps reach the documents. -/
theorem documents_step (s : Session) (m : Move) :
    (s.step m).orchestrator.documents =
      m.event?.elim s.orchestrator.documents fun e =>
        s.orchestrator.documents.change (·.follow e) := by
  cases m with
  | trigger d =>
      have h := s.orchestrator.documents_triggerAll [d]
      rwa [s.orchestrator.triggerAll_singleton] at h
  | revalidateAll => exact s.orchestrator.documents_triggerAll _
  | handle e => exact s.orchestrator.documents_handle e
  | part h => cases h <;> rfl
  | call d | supersede uri | shutDown => rfl
  | take =>
      simp only [step, take]
      split
      next => rfl
      next => split <;> rfl
  | act i sink a =>
      simp only [step, act]
      split <;> rfl

theorem documents_hostedStep (s : Session) (m : HostedMove) :
    (s.hostedStep m).orchestrator.documents = s.orchestrator.documents.follow m := by
  cases m with
  | session m =>
      rw [hostedStep, documents_step, SharedDocuments.follow]
      rfl
  | put d | close uri => rfl

/-- **In a run, each of the two stores follows what its owners do.** -/
theorem documents_hostedRun (s : Session) (moves : List HostedMove) :
    (s.hostedRun moves).orchestrator.documents =
      moves.foldl SharedDocuments.follow s.orchestrator.documents := by
  induction moves generalizing s with
  | nil => rfl
  | cons m moves ih =>
      rw [List.foldl_cons, ← documents_hostedStep]
      exact ih (s.hostedStep m)

/-- While there are workers, a new configuration revalidates the documents that the
orchestrator has. -/
theorem queue_configurationChanged {s : Session} (hopen : s.orchestrator.isShutDown = false)
    (settings : Option DocumentSettings) :
    (s.step (.handle (.configurationChanged settings))).orchestrator.queue =
      s.orchestrator.queue ++
        s.orchestrator.documents.current.documents.map fun d => { document := d } := by
  obtain ⟨hdocuments, -, hqueue, hshutDown, -⟩ :=
    s.orchestrator.follow_eq (.configurationChanged settings)
  simp only [step, host]
  rw [s.orchestrator.handle_eq,
    (s.orchestrator.follow _).triggerAll_of_open _ (hshutDown.trans hopen), hdocuments, hqueue]
  rfl

/-- **A store is shared exactly if it is not empty when it is handed over.** Then, whatever
the session and its host do, both have the same documents, which follow what either of
them does, and a new configuration revalidates exactly these. Of a store that is empty the
host keeps what it does itself, and the orchestrator the events that it handles, which is
what a new configuration revalidates. -/
theorem store_is_shared_iff_not_empty (o : Orchestrator) (store : DocumentStore) (workers : Nat) :
    let first := start { o with documents := .adopt store } workers
    ((∀ moves, (first.hostedRun moves).SharesDocuments) ↔ store.documents ≠ []) ∧
    ∀ moves,
      let s := first.hostedRun moves
      let host := s.orchestrator.documents.host
      let current := s.orchestrator.documents.current
      (store.documents ≠ [] →
        host = (moves.filterMap HostedMove.tells?).foldl DocumentStore.follow store) ∧
      (store.documents = [] →
        host = (moves.filterMap HostedMove.does?).foldl DocumentStore.follow {} ∧
        current = (moves.filterMap HostedMove.handles?).foldl DocumentStore.follow {}) ∧
      (s.orchestrator.isShutDown = false → ∀ settings,
        (s.step (.handle (.configurationChanged settings))).orchestrator.queue =
          s.orchestrator.queue ++ current.documents.map fun d => { document := d }) := by
  intro first
  have hrun : ∀ moves, (first.hostedRun moves).orchestrator.documents =
      moves.foldl SharedDocuments.follow (.adopt store) := first.documents_hostedRun
  have hshared : store.documents ≠ [] → ∀ moves,
      (first.hostedRun moves).orchestrator.documents =
        ⟨(moves.filterMap HostedMove.tells?).foldl DocumentStore.follow store, none⟩ := by
    intro hne moves
    rw [hrun, SharedDocuments.adopt_of_ne_nil hne, SharedDocuments.foldl_follow_of_shared]
  have hapart : store.documents = [] → ∀ moves,
      (first.hostedRun moves).orchestrator.documents =
        ⟨(moves.filterMap HostedMove.does?).foldl DocumentStore.follow {},
          some ((moves.filterMap HostedMove.handles?).foldl DocumentStore.follow {})⟩ := by
    intro hnil moves
    rw [hrun, SharedDocuments.adopt_of_nil hnil, SharedDocuments.foldl_follow_of_apart]
  refine ⟨⟨fun hshares hnil => ?_, fun hne moves => ?_⟩, fun moves => ⟨fun hne => ?_, fun hnil => ?_,
    fun hopen => queue_configurationChanged hopen⟩⟩
  · -- what the host opens first is not seen by the orchestrator
    have hsame := (hshares [.put default]).current_eq
    rw [hapart hnil] at hsame
    cases hsame
  · have hsame : (first.hostedRun moves).orchestrator.documents.current =
        (first.hostedRun moves).orchestrator.documents.host := by
      rw [hshared hne]
      rfl
    exact ⟨hsame, fun hopen settings => hsame ▸ queue_configurationChanged hopen settings⟩
  · rw [hshared hne]
  · rw [hapart hnil]
    exact ⟨rfl, rfl⟩

end Session

end LintRelay
