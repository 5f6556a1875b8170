import LintRelay.Proofs.Validation.Effects

/-!
# What a move can do

A move makes a document's passes worthless, takes up a pass, lets one pass act, or
touches nothing that passes share. What holds at the beginning and is kept by each
of these holds after every run. The first thing that does is the order of tokens:
none is ahead of its document's generation, and no two passes share one.
-/

namespace LintRelay

/-! ## Calls of the host -/

namespace Orchestrator

/-- What a call of the host does to the passes: it schedules some. -/
structure Schedules (o o' : Orchestrator) : Prop where
  context : o'.context = o.context
  queue : ∃ ds : List Document, o'.queue = o.queue ++ ds.map fun d => { document := d }

theorem Schedules.refl (o : Orchestrator) : o.Schedules o :=
  ⟨rfl, [], by simp⟩

theorem Schedules.trans {o o' o'' : Orchestrator} (h : o.Schedules o') (h' : o'.Schedules o'') :
    o.Schedules o'' := by
  obtain ⟨hcontext, front, hfront⟩ := h
  obtain ⟨hcontext', back, hback⟩ := h'
  refine ⟨hcontext'.trans hcontext, front ++ back, ?_⟩
  rw [hback, hfront, List.map_append, List.append_assoc]

variable (o : Orchestrator)

theorem schedules_trigger (d : Document) :
    o.Schedules (o.trigger d).1 ∧ (o.trigger d).1.shared = o.shared := by
  rw [trigger]
  split
  · exact ⟨.refl o, rfl⟩
  · exact ⟨⟨rfl, [d], rfl⟩, rfl⟩

theorem schedules_triggerAll (ds : List Document) :
    o.Schedules (o.triggerAll ds).1 ∧ (o.triggerAll ds).1.shared = o.shared := by
  induction ds generalizing o with
  | nil => exact ⟨.refl o, rfl⟩
  | cons d ds ih =>
      have hfirst := o.schedules_trigger d
      rw [triggerAll]
      split
      next o' _ hd =>
        rw [hd] at hfirst
        exact hfirst
      next o' _ hd =>
        rw [hd] at hfirst
        have hrest := ih o'
        have hboth : o.Schedules (o'.triggerAll ds).1 ∧
            (o'.triggerAll ds).1.shared = o.shared :=
          ⟨hfirst.1.trans hrest.1, hrest.2.trans hfirst.2⟩
        split
        next hds => rwa [hds] at hboth
        next hds => rwa [hds] at hboth

theorem triggerAll_cons (d : Document) (ds : List Document) :
    (o.triggerAll (d :: ds)).1 = ((o.trigger d).1.triggerAll ds).1 := by
  have hgone : o.isShutDown = true → ∀ ds, (o.triggerAll ds).1 = o := by
    intro hshut ds
    cases ds with
    | nil => rfl
    | cons d ds => simp only [triggerAll, trigger, hshut, if_true]
  rw [triggerAll]
  split
  next o' _ hd =>
    rw [trigger] at hd
    split at hd
    next hshut =>
      obtain rfl : o = o' := congrArg Prod.fst hd
      rw [trigger, if_pos hshut]
      exact (hgone hshut ds).symm
    next => cases hd
  next o' _ hd =>
    rw [hd]
    split
    next hds => exact (congrArg Prod.fst hds).symm
    next hds => exact (congrArg Prod.fst hds).symm

theorem schedules_changeDocuments (f : DocumentStore → DocumentStore) :
    o.Schedules (o.changeDocuments f) :=
  ⟨rfl, [], (List.append_nil _).symm⟩

theorem schedules_changeSettings (f : SettingsCache → SettingsCache) :
    o.Schedules (o.changeSettings f) :=
  ⟨rfl, [], (List.append_nil _).symm⟩

theorem schedules_supersede (uri : String) : o.Schedules (o.supersede uri) :=
  ⟨rfl, [], (List.append_nil _).symm⟩

/-- An event in the editor schedules passes; only a closed document is superseded. -/
theorem schedules_handle (e : EditorEvent) :
    o.Schedules (o.handle e).1 ∧ (o.handle e).1.shared.board =
      match e with
      | .closed uri => o.shared.board.supersede uri
      | _ => o.shared.board := by
  cases e with
  | opened d | saved d =>
      have h := (o.changeDocuments (·.put d)).schedules_trigger d
      exact ⟨(o.schedules_changeDocuments _).trans h.1, congrArg Shared.board h.2⟩
  | changed d =>
      have h := (o.changeDocuments (·.put d)).schedules_trigger d
      simp only [handle]
      split
      · exact ⟨(o.schedules_changeDocuments _).trans h.1, congrArg Shared.board h.2⟩
      · exact ⟨o.schedules_changeDocuments _, rfl⟩
  | closed uri => exact ⟨⟨rfl, [], (List.append_nil _).symm⟩, rfl⟩
  | configurationChanged settings =>
      have hrevalidated : ∀ o', o.Schedules o' → o'.shared.board = o.shared.board →
          o.Schedules o'.revalidateAll.1 ∧
            o'.revalidateAll.1.shared.board = o.shared.board := by
        intro o' hschedules hboard
        have h := o'.schedules_triggerAll o'.documents.current.documents
        exact ⟨hschedules.trans h.1, (congrArg Shared.board h.2).trans hboard⟩
      simp only [handle]
      split
      · exact hrevalidated _ (o.schedules_changeSettings _) rfl
      · split
        · exact hrevalidated _ (o.schedules_changeSettings _) rfl
        · exact hrevalidated _ (.refl o) rfl

/-- A step for an event schedules nothing, and leaves the passes alone. -/
theorem schedules_take (h : HostStep) :
    o.Schedules (o.take h) ∧ (o.take h).shared.board = o.shared.board := by
  cases h with
  | put d => exact ⟨o.schedules_changeDocuments (·.put d), rfl⟩
  | close uri => exact ⟨o.schedules_changeDocuments (·.close uri), rfl⟩
  | forget key => exact ⟨o.schedules_changeSettings (·.remove key), rfl⟩
  | forgetAll => exact ⟨o.schedules_changeSettings (·.invalidateAll), rfl⟩
  | setGlobal settings => exact ⟨o.schedules_changeSettings (·.updateGlobal settings), rfl⟩

end Orchestrator

/-! ## Moves -/

namespace Session

theorem run_triggers (s : Session) (ds : List Document) :
    s.run (ds.map .trigger) = s.host fun o => (o.triggerAll ds).1 := by
  induction ds generalizing s with
  | nil => rfl
  | cons d ds ih =>
      rw [List.map_cons, run_cons, ih]
      show s.host (fun o => ((o.trigger d).1.triggerAll ds).1) = _
      simp only [host, Orchestrator.triggerAll_cons]

/-- **An event takes several steps.** What the orchestrator makes of an event is what its
steps make of it one after another; what is said of every run is said of the runs in which
other moves come between them. -/
theorem step_handle (s : Session) (e : EditorEvent) :
    s.step (.handle e) = s.run (partsOf s.orchestrator e) := by
  cases e with
  | opened | saved | closed => rfl
  | changed d =>
      simp only [step, host, Orchestrator.handle, partsOf]
      show _ = (s.host (·.changeDocuments (·.put d))).run _
      cases hpolicy : s.orchestrator.policy.validateOnChange <;>
        simp [Orchestrator.changeDocuments, hpolicy, step, host]
  | configurationChanged settings =>
      simp only [partsOf, run_append]
      rw [run_triggers]
      simp only [step, host, Orchestrator.handle, Orchestrator.revalidateAll]
      cases s.orchestrator.capabilities.documentConfiguration with
      | true => rfl
      | false => cases settings <;> rfl

/-- A move that makes all passes over a document worthless. -/
def Move.Supersedes (m : Move) (uri : String) : Prop :=
  m = .supersede uri ∨ m = .handle (.closed uri)

/-- What a move does to the board, to the passes that were taken up and to the sets
that were handed over. -/
inductive Effect (workers : Nat) (m : Move) (b : Board) (rs : List PassRecord)
    (ds : List Delivery) : Board → List PassRecord → List Delivery → Prop where
  /-- Nothing that passes share is touched. -/
  | rests : Effect workers m b rs ds b rs ds
  /-- All passes over a document become worthless. -/
  | supersedes (uri : String) (hmove : m.Supersedes uri) :
      Effect workers m b rs ds (b.supersede uri) rs ds
  /-- A pass is taken up, by a caller or by a free worker. -/
  | joins (r : PassRecord) (hqueued : r.pass.point = .queued) (hstages : r.stages = [])
      (hmove : (m = .call r.pass.document ∧ r.pooled = false) ∨
        (r.pooled = true ∧ rs.countP PassRecord.isBusy < workers)) :
      Effect workers m b rs ds b (rs ++ [r]) ds
  /-- A pass acts. -/
  | acts (i : Nat) (r : PassRecord) (sink : Sink) {b' : Board} {p : Pass}
      {st : List ValidationStage} {xs : List Publication} (hget : rs[i]? = some r)
      (heffect : Pass.Effect sink b r.pass b' p st xs) :
      Effect workers m b rs ds b' (rs.set i { r with pass := p, stages := r.stages ++ st })
        (ds ++ xs.map fun x =>
          ⟨i, r.pass.token, b.generation x.uri, x, (sink x).isNone⟩)

/-- No pass in the queue has begun. -/
def QueueWaits (s : Session) : Prop :=
  ∀ p ∈ s.orchestrator.queue, p.point = .queued

theorem queueWaits_start (o : Orchestrator) (workers : Nat) : (start o workers).QueueWaits := by
  simp [QueueWaits, start]

/-- What a move makes of a session. -/
structure Steps (m : Move) (s s' : Session) : Prop where
  waits : s'.QueueWaits
  workers : s'.workers = s.workers
  context : s'.orchestrator.context = s.orchestrator.context
  effect : Effect s.workers m s.board s.passes s.deliveries s'.board s'.passes s'.deliveries

section

variable {s : Session} (hs : s.QueueWaits) (m : Move)

include hs

theorem steps_host (f : Orchestrator → Orchestrator)
    (hf : s.orchestrator.Schedules (f s.orchestrator)) {b : Board}
    (hboard : (f s.orchestrator).shared.board = b)
    (heffect : Effect s.workers m s.board s.passes s.deliveries b s.passes s.deliveries) :
    Steps m s (s.host f) := by
  refine ⟨fun p hp => ?_, rfl, hf.context, by rwa [← hboard] at heffect⟩
  obtain ⟨ds, hqueue⟩ := hf.queue
  rw [host, hqueue, List.mem_append, List.mem_map] at hp
  rcases hp with hp | ⟨d, -, rfl⟩
  · exact hs p hp
  · rfl

theorem steps_take : Steps m s s.take := by
  rw [take]
  split
  next => exact ⟨hs, rfl, rfl, .rests⟩
  next p queue hqueue =>
    have hwaits : ∀ p' ∈ p :: queue, p'.point = .queued := hqueue ▸ hs
    split
    next hfree =>
      refine ⟨fun p' hp' => hwaits p' (List.mem_cons_of_mem p hp'), rfl, rfl, ?_⟩
      exact .joins _ (hwaits p List.mem_cons_self) rfl (.inr ⟨rfl, hfree⟩)
    next => exact ⟨hs, rfl, rfl, .rests⟩

theorem steps_act (i : Nat) (sink : Sink) (a : PassAction) : Steps m s (s.act i sink a) := by
  rw [act]
  split
  next => exact ⟨hs, rfl, rfl, .rests⟩
  next r hget => exact ⟨hs, rfl, rfl, .acts i r sink hget Pass.effect_act⟩

/-- **What a move can do.** -/
theorem steps_step : Steps m s (s.step m) := by
  cases m with
  | call d => exact ⟨hs, rfl, rfl, .joins _ rfl rfl (.inl ⟨rfl, rfl⟩)⟩
  | trigger d =>
      have h := s.orchestrator.schedules_trigger d
      exact steps_host hs _ (fun o => (o.trigger d).1) h.1 (congrArg Shared.board h.2) .rests
  | revalidateAll =>
      have h := s.orchestrator.schedules_triggerAll s.orchestrator.documents.current.documents
      exact steps_host hs _ (fun o => o.revalidateAll.1) h.1 (congrArg Shared.board h.2) .rests
  | handle e =>
      have h := s.orchestrator.schedules_handle e
      refine steps_host hs _ (fun o => (o.handle e).1) h.1 h.2 ?_
      cases e with
      | closed uri => exact .supersedes uri (.inr rfl)
      | _ => exact .rests
  | part h =>
      have hpart := s.orchestrator.schedules_take h
      exact steps_host hs _ (·.take h) hpart.1 hpart.2 .rests
  | supersede uri =>
      exact steps_host hs _ (·.supersede uri) (s.orchestrator.schedules_supersede uri) rfl
        (.supersedes uri (.inl rfl))
  | shutDown => exact ⟨hs, rfl, rfl, .rests⟩
  | take => exact steps_take hs _
  | act i sink a => exact steps_act hs _ i sink a

end

/-- What every move of a run keeps, the run keeps. -/
theorem run_induction {P : Board → List PassRecord → List Delivery → Prop} {s : Session}
    (hs : s.QueueWaits) (hbase : P s.board s.passes s.deliveries) (moves : List Move)
    (hstep : ∀ {m b rs ds b' rs' ds'}, m ∈ moves → P b rs ds →
      Effect s.workers m b rs ds b' rs' ds' → P b' rs' ds') :
    P (s.run moves).board (s.run moves).passes (s.run moves).deliveries := by
  induction moves generalizing s with
  | nil => exact hbase
  | cons m moves ih =>
      have h := steps_step hs m
      refine ih h.waits (hstep List.mem_cons_self hbase h.effect) fun hm hp heffect => ?_
      rw [h.workers] at heffect
      exact hstep (List.mem_cons_of_mem m hm) hp heffect

/-- In a run, no pass in the queue begins, and what passes go by stays. -/
theorem run_keeps {s : Session} (hs : s.QueueWaits) (moves : List Move) :
    (s.run moves).QueueWaits ∧ (s.run moves).workers = s.workers ∧
      (s.run moves).orchestrator.context = s.orchestrator.context := by
  induction moves generalizing s with
  | nil => exact ⟨hs, rfl, rfl⟩
  | cons m moves ih =>
      have h := steps_step hs m
      have hrest := ih h.waits
      exact ⟨hrest.1, hrest.2.1.trans h.workers, hrest.2.2.trans h.context⟩

end Session

end LintRelay
