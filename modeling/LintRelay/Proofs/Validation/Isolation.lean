import LintRelay.Proofs.Validation.Events
import LintRelay.Proofs.Validation.Locality

/-!
# Documents are isolated

A run has for each document the stages, outcomes and sets of the run that is left when
everything that concerns other documents is taken out of it. The two runs go side by
side: a move for the document is made in both, one for another document in the first
alone, where it is not seen. Only the tickets of the settings cache are others.
-/

namespace LintRelay

/-- The step by which the orchestrator follows an event that is about one document. -/
def EditorEvent.step? : EditorEvent → Option DocumentStep
  | .opened d | .changed d | .saved d => some (.puts d)
  | .closed uri => some (.closes uri)
  | .configurationChanged _ => none

theorem EditorEvent.uri?_eq (e : EditorEvent) : e.uri? = e.step?.map DocumentStep.uri := by
  cases e <;> rfl

theorem EditorEvent.uri_of_mem_asks {e : EditorEvent} {x : DocumentStep} (he : e.step? = some x)
    {validateOnChange : Bool} {ds : List Document} {d : Document}
    (hd : d ∈ e.asks validateOnChange ds) : d.uri = x.uri := by
  cases e with
  | opened d' | saved d' =>
      obtain rfl := Option.some.inj he
      obtain rfl := List.mem_singleton.mp hd
      rfl
  | changed d' =>
      obtain rfl := Option.some.inj he
      simp only [asks] at hd
      split at hd
      · obtain rfl := List.mem_singleton.mp hd
        rfl
      · cases hd
  | closed uri => cases hd
  | configurationChanged settings => cases he

/-! ## Orchestrators -/

namespace Orchestrator

variable (o : Orchestrator) (uri : String) (c : SettingsCache)

/-- The orchestrator with only what concerns a document, and with other settings. -/
def alone (o : Orchestrator) (uri : String) (c : SettingsCache) : Orchestrator :=
  { o.only uri with shared := ⟨o.shared.board.only uri, c⟩ }

theorem alone_perform (x : DocumentStep) :
    ((o.alone x.uri c).perform x).1 = (o.perform x).1.alone x.uri (x.onSettings c) := by
  have hdocuments := o.documents.only_change (x.onDocuments ·) x.uri fun s =>
    DocumentStep.only_onDocuments s x
  simp only [perform, alone, only, x.onBoard_only, hdocuments]

theorem alone_perform_of_ne {x : DocumentStep} (h : uri ≠ x.uri) :
    (o.perform x).1.alone uri c = o.alone uri c :=
  congrArg (fun o' : Orchestrator => { o' with shared := ⟨o'.shared.board, c⟩ })
    (o.only_perform_of_ne h)

theorem alone_triggerAll (ds : List Document) :
    ((o.alone uri c).triggerAll (ds.filter (·.uri = uri))).1 =
      (o.triggerAll ds).1.alone uri c := by
  have hgone : ∀ (o : Orchestrator) (ds : List Document), o.isShutDown = true →
      (o.triggerAll ds).1 = o := by
    intro o ds hgone
    cases ds with
    | nil => rfl
    | cons d ds => rw [triggerAll, trigger, if_pos hgone]
  by_cases h : o.isShutDown = true
  · rw [hgone o ds h, hgone (o.alone uri c) _ h]
  · have hopen : o.isShutDown = false := Bool.eq_false_iff.mpr h
    rw [triggerAll_of_open o ds hopen, triggerAll_of_open (o.alone uri c) _ hopen]
    simp only [alone, only, List.filter_append, List.filter_map]
    rfl

theorem perform_supersedes : (o.perform (.supersedes uri)).1 = o.supersede uri := by
  obtain ⟨capabilities, policy, suggestions, ⟨host, own⟩, shared, queue, isShutDown⟩ := o
  cases own <;> rfl

theorem follow_eq_perform {e : EditorEvent} {x : DocumentStep} (he : e.step? = some x) :
    o.follow e = (o.perform x).1 := by
  cases e with
  | configurationChanged settings => cases he
  | _ =>
      obtain rfl := Option.some.inj he
      rfl

end Orchestrator

/-! ## Sessions -/

/-- Two passes that were taken up, over one snapshot, and have come equally far. -/
structure PassRecord.Alike (same : Nat → Nat → Prop) (r r' : PassRecord) : Prop where
  pass : r.pass.Alike same r'.pass
  pooled : r'.pooled = r.pooled
  stages : r'.stages = r.stages

namespace Session

open SettingsCache

/-- The second session is the first one without everything that concerns other documents;
what passes still see of the settings is the same. -/
structure Mirrors (uri : String) (same : Nat → Nat → Prop) (s s' : Session) : Prop where
  orchestrator : s'.orchestrator = s.orchestrator.alone uri s'.orchestrator.shared.settings
  workers : s'.workers = s.workers
  settings : s.orchestrator.shared.settings.Mirrors uri same s'.orchestrator.shared.settings
  passes : List.Forall₂ (PassRecord.Alike same) (s.passes.filter (·.uri = uri)) s'.passes
  others : ∀ r ∈ s.passes, r.uri ≠ uri →
    s.orchestrator.shared.settings.Leaves uri same r.pass.point
  deliveries : s'.deliveries = s.deliveriesOf uri
  placed : ∀ d ∈ s.deliveries, d.pass < s.passes.length

theorem deliveriesOf_congr {s t : Session} {uri : String}
    (hdeliveries : t.deliveries = s.deliveries)
    (hplaces : ∀ d ∈ s.deliveries, t.placeAmong uri d.pass = s.placeAmong uri d.pass) :
    t.deliveriesOf uri = s.deliveriesOf uri := by
  rw [deliveriesOf, hdeliveries, deliveriesOf]
  refine List.map_congr_left fun d hd => ?_
  rw [hplaces d (List.mem_of_mem_filter hd)]

/-- A pass that was taken up when it has acted. -/
def after (s : Session) (r : PassRecord) (sink : Sink) (a : PassAction) : PassRecord :=
  { r with
    pass := (r.pass.act s.orchestrator.context sink s.orchestrator.shared a).pass
    stages := r.stages ++ r.pass.stores s.orchestrator.context s.orchestrator.shared a }

/-- The sets that a pass hands over when it acts. -/
def handsOver (s : Session) (i : Nat) (r : PassRecord) (sink : Sink) (a : PassAction) :
    List Delivery :=
  (r.pass.offers s.orchestrator.context s.orchestrator.shared a).map fun x =>
    ⟨i, r.pass.token, s.board.generation x.uri, x, (sink x).isNone⟩

section

variable {s : Session} {i : Nat} {r : PassRecord} (hget : s.passes[i]? = some r) (sink : Sink)
  (a : PassAction)

theorem uri_after (s : Session) (r : PassRecord) : (s.after r sink a).uri = r.uri :=
  congrArg Document.uri (Pass.document_act ..)

include hget

theorem act_eq : s.act i sink a =
    { s with
      orchestrator := { s.orchestrator with
        shared := (r.pass.act s.orchestrator.context sink s.orchestrator.shared a).shared }
      passes := s.passes.set i (s.after r sink a)
      deliveries := s.deliveries ++ s.handsOver i r sink a } := by
  simp only [act, hget]
  rfl

/-- When a pass has acted, the sets of its document are joined by those that it handed
over, and the sets of other documents stay. -/
theorem deliveriesOf_act (uri : String) : (s.act i sink a).deliveriesOf uri = s.deliveriesOf uri ++
    if r.uri = uri then s.handsOver (s.placeAmong uri i) r sink a else [] := by
  have hplaces : ∀ j, (s.act i sink a).placeAmong uri j = s.placeAmong uri j := by
    intro j
    rw [placeAmong, act_eq hget, countP_take_set hget (by rw [uri_after]), placeAmong]
  have hnew : ∀ d ∈ s.handsOver i r sink a, d.publication.uri = r.uri := by
    intro d hd
    obtain ⟨x, hx, rfl⟩ := List.mem_map.mp hd
    exact Pass.uri_of_offers hx
  simp only [deliveriesOf, hplaces]
  rw [act_eq hget, List.filter_append, List.map_append]
  refine congrArg (s.deliveriesOf uri ++ ·) ?_
  split
  next hr =>
    rw [List.filter_eq_self.mpr fun d hd => by simp [hnew d hd, hr], handsOver, List.map_map]
    rfl
  next hr =>
    rw [List.filter_eq_nil_iff.mpr fun d hd => by simp [hnew d hd, hr], List.map_nil]

end

namespace Mirrors

variable {uri : String} {same : Nat → Nat → Prop} {s s' : Session}

/-! ### What the host does -/

theorem host (h : Mirrors uri same s s') {f g : Orchestrator → Orchestrator}
    (hf : g s'.orchestrator = (f s.orchestrator).alone uri (g s'.orchestrator).shared.settings)
    (htickets : (f s.orchestrator).shared.settings.tickets =
      s.orchestrator.shared.settings.tickets)
    (hsettings : (f s.orchestrator).shared.settings.Mirrors uri same
      (g s'.orchestrator).shared.settings) :
    Mirrors uri same (s.host f) (s'.host g) where
  orchestrator := hf
  workers := h.workers
  settings := hsettings
  passes := h.passes
  others r hr hne := (Extends.of_tickets_eq htickets).leaves (h.others r hr hne)
  deliveries := h.deliveries
  placed := h.placed

theorem perform (h : Mirrors uri same s s') {x : DocumentStep} (hx : x.uri = uri) :
    Mirrors uri same (s.host fun o => (o.perform x).1) (s'.host fun o => (o.perform x).1) := by
  subst hx
  refine h.host ?_ ?_ ?_
  · rw [h.orchestrator]
    exact s.orchestrator.alone_perform _ x
  · cases x <;> rfl
  · cases x with
    | closes uri => exact h.settings.remove
    | _ => exact h.settings

theorem perform_other (h : Mirrors uri same s s') {x : DocumentStep} (hx : x.uri ≠ uri) :
    Mirrors uri same (s.host fun o => (o.perform x).1) s' := by
  refine h.host (g := id) ?_ ?_ ?_
  · rw [s.orchestrator.alone_perform_of_ne uri _ hx.symm]
    exact h.orchestrator
  · cases x <;> rfl
  · cases x with
    | closes u => exact h.settings.remove_other hx
    | _ => exact h.settings

theorem changeSettings (h : Mirrors uri same s s') {g : SettingsCache → SettingsCache}
    (htickets : (g s.orchestrator.shared.settings).tickets =
      s.orchestrator.shared.settings.tickets)
    (hsettings : (g s.orchestrator.shared.settings).Mirrors uri same
      (g s'.orchestrator.shared.settings)) :
    Mirrors uri same (s.host (·.changeSettings g)) (s'.host (·.changeSettings g)) :=
  h.host (congrArg (·.changeSettings g) h.orchestrator) htickets hsettings

theorem changeDocuments (h : Mirrors uri same s s') {g : DocumentStore → DocumentStore}
    (hg : ∀ store, (g store).only uri = g (store.only uri)) :
    Mirrors uri same (s.host (·.changeDocuments g)) (s'.host (·.changeDocuments g)) := by
  refine h.host ?_ rfl h.settings
  rw [h.orchestrator]
  simp only [Orchestrator.changeDocuments, Orchestrator.alone, Orchestrator.only,
    s.orchestrator.documents.only_change g uri hg]

theorem changeDocuments_other (h : Mirrors uri same s s') {g : DocumentStore → DocumentStore}
    (hg : ∀ store, (g store).only uri = store.only uri) :
    Mirrors uri same (s.host (·.changeDocuments g)) s' := by
  refine h.host (g := id) ?_ rfl h.settings
  refine h.orchestrator.trans ?_
  simp only [Orchestrator.changeDocuments, Orchestrator.alone, Orchestrator.only,
    s.orchestrator.documents.only_change_of_eq g uri hg]
  rfl

theorem forget_other (h : Mirrors uri same s s') {key : String} (hkey : key ≠ uri) :
    Mirrors uri same (s.host (·.changeSettings (·.remove key))) s' := by
  refine h.host (g := id) ?_ rfl (h.settings.remove_other hkey)
  exact h.orchestrator

/-- **A step for an event is taken in both** unless it is about another document. -/
theorem part (h : Mirrors uri same s s') (x : Orchestrator.HostStep) :
    Mirrors uri same (s.host (·.take x)) (s'.run (s.concerning uri (.part x))) := by
  rw [concerning]
  cases x with
  | put d =>
      by_cases hd : d.uri = uri
      · subst hd
        rw [if_pos (by simp [Orchestrator.HostStep.uri?])]
        exact h.changeDocuments (g := (·.put d)) fun store =>
          DocumentStep.only_onDocuments (x := .puts d) store
      · rw [if_neg (by simpa [Orchestrator.HostStep.uri?] using hd)]
        exact h.changeDocuments_other (g := (·.put d)) fun store =>
          DocumentStep.only_onDocuments_of_ne (x := .puts d) store (Ne.symm hd)
  | close u =>
      by_cases hu : u = uri
      · subst hu
        rw [if_pos (by simp [Orchestrator.HostStep.uri?])]
        exact h.changeDocuments (g := (·.close u)) fun store =>
          DocumentStep.only_onDocuments (x := .closes u) store
      · rw [if_neg (by simpa [Orchestrator.HostStep.uri?] using hu)]
        exact h.changeDocuments_other (g := (·.close u)) fun store =>
          DocumentStep.only_onDocuments_of_ne (x := .closes u) store (Ne.symm hu)
  | forget key =>
      by_cases hkey : key = uri
      · subst hkey
        rw [if_pos (by simp [Orchestrator.HostStep.uri?])]
        exact h.changeSettings (g := (·.remove key)) rfl h.settings.remove
      · rw [if_neg (by simpa [Orchestrator.HostStep.uri?] using hkey)]
        exact h.forget_other hkey
  | forgetAll =>
      exact h.changeSettings (g := SettingsCache.invalidateAll) rfl h.settings.invalidateAll
  | setGlobal given =>
      exact h.changeSettings (g := (·.updateGlobal given)) rfl (h.settings.updateGlobal given)

/-- Of the passes that are scheduled, those over the document are scheduled in both. -/
theorem triggerAll (h : Mirrors uri same s s') (ds : List Document) :
    Mirrors uri same (s.host fun o => (o.triggerAll ds).1)
      (s'.host fun o => (o.triggerAll (ds.filter (·.uri = uri))).1) := by
  obtain ⟨queue, hqueue⟩ := s.orchestrator.triggerAll_frame ds
  obtain ⟨queue', hqueue'⟩ := s'.orchestrator.triggerAll_frame (ds.filter (·.uri = uri))
  refine h.host ?_ (by rw [hqueue]) (by rw [hqueue, hqueue']; exact h.settings)
  have halone := s.orchestrator.alone_triggerAll uri s'.orchestrator.shared.settings ds
  rw [← h.orchestrator] at halone
  rw [hqueue'] at halone ⊢
  exact halone

theorem revalidateAll (h : Mirrors uri same s s') :
    Mirrors uri same (s.host (·.revalidateAll.1)) (s'.host (·.revalidateAll.1)) := by
  have hdocuments : s'.orchestrator.documents.current.documents =
      s.orchestrator.documents.current.documents.filter (·.uri = uri) := by
    rw [h.orchestrator]
    exact congrArg DocumentStore.documents (SharedDocuments.current_only ..)
  have hboth := h.triggerAll s.orchestrator.documents.current.documents
  rw [← hdocuments] at hboth
  exact hboth

/-- **An event about all documents is followed in both.** -/
theorem configurationChanged (h : Mirrors uri same s s') (settings : Option DocumentSettings) :
    Mirrors uri same (s.host fun o => (o.handle (.configurationChanged settings)).1)
      (s'.host fun o => (o.handle (.configurationChanged settings)).1) := by
  have hcapabilities : s'.orchestrator.capabilities = s.orchestrator.capabilities := by
    rw [h.orchestrator]
    rfl
  have hfollow : Mirrors uri same (s.host (·.follow (.configurationChanged settings)))
      (s'.host (·.follow (.configurationChanged settings))) := by
    simp only [Session.host, Orchestrator.follow, hcapabilities]
    split
    · exact h.changeSettings (g := SettingsCache.invalidateAll) rfl h.settings.invalidateAll
    · cases settings with
      | none => exact h
      | some given =>
          exact h.changeSettings (g := (·.updateGlobal given)) rfl (h.settings.updateGlobal given)
  exact hfollow.revalidateAll

/-- **An event about the document is followed in both**, one about another is not seen. -/
theorem handle (h : Mirrors uri same s s') {e : EditorEvent} {x : DocumentStep}
    (he : e.step? = some x) :
    Mirrors uri same (s.host fun o => (o.handle e).1)
      (if x.uri = uri then s'.host fun o => (o.handle e).1 else s') := by
  have hhandle : ∀ o : Orchestrator, (o.handle e).1 = ((o.perform x).1.triggerAll
      (e.asks o.policy.validateOnChange (o.perform x).1.documents.current.documents)).1 := by
    intro o
    rw [o.handle_eq, o.follow_eq_perform he]
  have hpolicy : s'.orchestrator.policy = s.orchestrator.policy := by
    rw [h.orchestrator]
    rfl
  -- an event about a document asks for passes over it, whatever else is open
  have hasks : ∀ v ds ds', e.asks v ds = e.asks v ds' := by
    intro v ds ds'
    cases e with
    | configurationChanged => cases he
    | _ => rfl
  let ds := e.asks s.orchestrator.policy.validateOnChange
    (s.orchestrator.perform x).1.documents.current.documents
  have hds : ∀ d ∈ ds, d.uri = x.uri := fun d hd => EditorEvent.uri_of_mem_asks he hd
  have hfirst : (s.host fun o => (o.handle e).1) =
      (s.host fun o => (o.perform x).1).host fun o => (o.triggerAll ds).1 := by
    simp only [Session.host, hhandle, ds]
  rw [hfirst]
  split
  next hx =>
    have hsecond : (s'.host fun o => (o.handle e).1) =
        (s'.host fun o => (o.perform x).1).host fun o =>
          (o.triggerAll (ds.filter (·.uri = uri))).1 := by
      have hall : ds.filter (·.uri = uri) = ds :=
        List.filter_eq_self.mpr fun d hd => by simp [hds d hd, hx]
      rw [hall]
      simp only [Session.host, hhandle, hpolicy, ds]
      rw [hasks]
    rw [hsecond]
    exact (h.perform hx).triggerAll ds
  next hx =>
    have hnone : ds.filter (·.uri = uri) = [] :=
      List.filter_eq_nil_iff.mpr fun d hd => by simp [hds d hd, hx]
    have hrest := (h.perform_other hx).triggerAll ds
    rw [hnone] at hrest
    exact hrest

/-! ### What passes do -/

theorem joins (h : Mirrors uri same s s') {r : PassRecord} (hqueued : r.pass.point = .queued) :
    Mirrors uri same { s with passes := s.passes ++ [r] }
      (if r.uri = uri then { s' with passes := s'.passes ++ [r] } else s') := by
  have hdeliveries : ({ s with passes := s.passes ++ [r] } : Session).deliveriesOf uri =
      s.deliveriesOf uri := by
    refine deliveriesOf_congr rfl fun d hd => ?_
    exact congrArg (List.countP _) (List.take_append_of_le_length (Nat.le_of_lt (h.placed d hd)))
  have hplaced : ∀ d ∈ s.deliveries, d.pass < (s.passes ++ [r]).length := by
    intro d hd
    rw [List.length_append]
    exact Nat.lt_add_right _ (h.placed d hd)
  have hothers : ∀ r' ∈ s.passes ++ [r], r'.uri ≠ uri →
      s.orchestrator.shared.settings.Leaves uri same r'.pass.point := by
    intro r' hr' hne
    rcases List.mem_append.mp hr' with hr' | hr'
    · exact h.others r' hr' hne
    · rw [List.mem_singleton.mp hr', hqueued]
      exact fun _ => Pass.Point.noConfusion
  split
  next hr =>
    refine { h with passes := ?_, others := hothers, placed := hplaced,
                    deliveries := h.deliveries.trans hdeliveries.symm }
    rw [List.filter_append, List.filter_cons_of_pos (by simpa using hr)]
    exact List.rel_append h.passes (.cons ⟨.of_queued hqueued, rfl, rfl⟩ .nil)
  next hr =>
    refine { h with passes := ?_, others := hothers, placed := hplaced,
                    deliveries := h.deliveries.trans hdeliveries.symm }
    rw [List.filter_append, List.filter_cons_of_neg (by simpa using hr), List.filter_nil,
      List.append_nil]
    exact h.passes

theorem busy_le (h : Mirrors uri same s s') : s'.busy ≤ s.busy := by
  have hbusy : s'.passes.map PassRecord.isBusy =
      (s.passes.filter (·.uri = uri)).map PassRecord.isBusy :=
    map_eq_of_forall₂ h.passes fun r r' hr => by
      rw [PassRecord.isBusy, PassRecord.isBusy, hr.pooled, hr.pass.result?_eq]
  have hcount := congrArg (List.countP id) hbusy
  rw [List.countP_map, List.countP_map] at hcount
  exact Nat.le_trans (Nat.le_of_eq hcount) (List.Sublist.countP_le List.filter_sublist)

theorem take (h : Mirrors uri same s s') (hwaits : s.QueueWaits) :
    Mirrors uri same s.take (s'.run (s.concerning uri .take)) := by
  have hqueue' : s'.orchestrator.queue =
      s.orchestrator.queue.filter (·.document.uri = uri) := by
    rw [h.orchestrator]
    rfl
  rw [Session.take, concerning, takesOver]
  cases hqueue : s.orchestrator.queue with
  | nil => exact h
  | cons p queue =>
      have hqueued : p.point = .queued := hwaits p (by rw [hqueue]; exact .head _)
      rw [hqueue] at hqueue'
      by_cases hfree : s.busy < s.workers
      · -- fewer passes keep fewer workers busy, so one is free in the second session as well
        have hfree' : s'.busy < s'.workers := by
          rw [h.workers]
          exact Nat.lt_of_le_of_lt h.busy_le hfree
        have hhost := h.host (f := fun o => { o with queue })
          (g := fun o => { o with queue := queue.filter (·.document.uri = uri) })
          (congrArg (fun o : Orchestrator =>
            { o with queue := queue.filter (·.document.uri = uri) }) h.orchestrator)
          rfl h.settings
        have hjoins := hhost.joins (r := ⟨p, true, []⟩) hqueued
        simp only [if_pos hfree]
        by_cases hp : p.document.uri = uri
        · rw [if_pos hp] at hjoins
          rw [List.filter_cons_of_pos (by simpa using hp)] at hqueue'
          simp only [hp, hfree, decide_true, Bool.and_self, if_true, run_cons, run_nil,
            Session.step, Session.take, hqueue', if_pos hfree']
          exact hjoins
        · rw [if_neg hp] at hjoins
          rw [List.filter_cons_of_neg (by simpa using hp)] at hqueue'
          simp only [hp, decide_false, Bool.false_and, Bool.false_eq_true, if_false, run_nil]
          simp only [Session.host, ← hqueue'] at hjoins
          exact hjoins
      · simp only [hfree, decide_false, Bool.and_false, Bool.false_eq_true,
          if_false, run_nil]
        exact h

/-- What was handed over was handed over by passes that were taken up. -/
theorem placed_act (h : Mirrors uri same s s') {i : Nat} {r : PassRecord}
    (hget : s.passes[i]? = some r) (sink : Sink) (a : PassAction) :
    ∀ d ∈ (s.act i sink a).deliveries, d.pass < (s.act i sink a).passes.length := by
  rw [act_eq hget, List.length_set]
  intro d hd
  rcases List.mem_append.mp hd with hd | hd
  · exact h.placed d hd
  · obtain ⟨x, -, rfl⟩ := List.mem_map.mp hd
    exact (List.getElem?_eq_some_iff.mp hget).1

/-- **A pass over the document does the same in both.** -/
theorem act_own (h : Mirrors uri same s s') {i : Nat} {r : PassRecord}
    (hget : s.passes[i]? = some r) (hr : r.uri = uri) (sink : Sink) (a : PassAction) :
    ∃ same', Mirrors uri same' (s.act i sink a) (s'.act (s.placeAmong uri i) sink a) := by
  subst hr
  obtain ⟨r', hget', hpass, hpooled, hstages⟩ := exists_getElem?_of_forall₂ h.passes
    (getElem?_filter_of_pos hget (by simp))
  have hplace : s'.passes[s.placeAmong r.uri i]? = some r' := hget'
  have hcontext : s'.orchestrator.context = s.orchestrator.context := by
    rw [h.orchestrator]
    rfl
  have hboard : s'.board = s.board.only r.uri := congrArg (·.shared.board) h.orchestrator
  obtain ⟨same', hextends, hboard', hsettings', hpass'⟩ :=
    hpass.act s.orchestrator.context sink a hboard h.settings
  obtain ⟨hstores, hoffers⟩ := hpass.stores_offers s.orchestrator.context a hboard
  have hafter : PassRecord.Alike same' (s.after r sink a) (s'.after r' sink a) := by
    rw [after, after, hcontext]
    exact ⟨hpass', hpooled, by rw [hstages, hstores]⟩
  -- the log of the sink is another one, but of the board a pass reads its document's part
  have hhandsOver : s'.handsOver (s.placeAmong r.uri i) r' sink a =
      s.handsOver (s.placeAmong r.uri i) r sink a := by
    rw [handsOver, handsOver, hcontext, hoffers, hpass.token_eq, hboard]
    refine List.map_congr_left fun x hx => ?_
    have hgeneration : (s.board.only r.uri).generation x.uri = s.board.generation x.uri :=
      if_pos (Pass.uri_of_offers hx)
    rw [hgeneration]
  have hact := act_eq hget sink a
  have hact' := act_eq hplace sink a
  rw [hcontext, hhandsOver] at hact'
  refine ⟨same', ?_⟩
  constructor
  case orchestrator =>
    rw [hact, hact']
    refine (congrArg (fun o : Orchestrator => { o with
      shared := (r'.pass.act s.orchestrator.context sink s'.orchestrator.shared a).shared })
      h.orchestrator).trans ?_
    simp only [Orchestrator.alone, Orchestrator.only, ← hboard']
  case workers =>
    rw [hact, hact']
    exact h.workers
  case settings =>
    rw [hact, hact']
    exact hsettings'
  case passes =>
    rw [hact, hact']
    simp only
    rw [filter_set_of_pos hget (by simp) (by simp [uri_after])]
    exact forall₂_set (h.passes.imp fun _ _ hr =>
      ⟨hr.pass.mono hextends, hr.pooled, hr.stages⟩) hafter _
  case others =>
    intro r₁ hr₁ hne
    rw [hact] at hr₁ ⊢
    rcases List.mem_or_eq_of_mem_set hr₁ with hr₁ | rfl
    · exact hextends.leaves (h.others r₁ hr₁ hne)
    · exact absurd (uri_after ..) hne
  case deliveries =>
    rw [deliveriesOf_act hget, if_pos rfl, hact', h.deliveries]
  case placed => exact h.placed_act hget sink a

theorem act_other (h : Mirrors uri same s s') {i : Nat} {r : PassRecord}
    (hget : s.passes[i]? = some r) (hr : r.uri ≠ uri) (sink : Sink) (a : PassAction) :
    Mirrors uri same (s.act i sink a) s' := by
  obtain ⟨hextends, hboard, hsettings, hleaves⟩ := Pass.act_other s.orchestrator.context sink a hr
    (h.others r (List.mem_of_getElem? hget) hr) h.settings
  constructor
  case orchestrator =>
    rw [act_eq hget]
    refine h.orchestrator.trans ?_
    simp only [Orchestrator.alone, Orchestrator.only, hboard]
  case workers =>
    rw [act_eq hget]
    exact h.workers
  case settings =>
    rw [act_eq hget]
    exact hsettings
  case passes =>
    rw [act_eq hget]
    simp only
    rw [filter_set_of_neg hget (by simpa using hr) (by simpa [uri_after] using hr)]
    exact h.passes
  case others =>
    intro r₁ hr₁ hne
    rw [act_eq hget] at hr₁ ⊢
    rcases List.mem_or_eq_of_mem_set hr₁ with hr₁ | rfl
    · exact hextends.leaves (h.others r₁ hr₁ hne)
    · exact hleaves
  case deliveries =>
    rw [deliveriesOf_act hget, if_neg hr, List.append_nil]
    exact h.deliveries
  case placed => exact h.placed_act hget sink a

theorem act (h : Mirrors uri same s s') (i : Nat) (sink : Sink) (a : PassAction) :
    ∃ same', Mirrors uri same' (s.act i sink a) (s'.run (s.concerning uri (.act i sink a))) := by
  cases hget : s.passes[i]? with
  | none =>
      refine ⟨same, ?_⟩
      simp only [concerning, Session.act, hget]
      exact h
  | some r =>
      by_cases hr : r.uri = uri
      · obtain ⟨same', hact⟩ := h.act_own hget hr sink a
        refine ⟨same', ?_⟩
        simp only [concerning, hget, if_pos hr]
        exact hact
      · refine ⟨same, ?_⟩
        simp only [concerning, hget, if_neg hr]
        exact h.act_other hget hr sink a

/-- **A move for the document is made in both, one for another document is not seen.** -/
theorem step (h : Mirrors uri same s s') (hwaits : s.QueueWaits) (m : Move) :
    ∃ same', Mirrors uri same' (s.step m) (s'.run (s.concerning uri m)) := by
  cases m with
  | call d =>
      have hjoins := h.joins (r := ⟨{ document := d }, false, []⟩) rfl
      refine ⟨same, ?_⟩
      simp only [concerning]
      split
      next hd =>
        rw [if_pos hd] at hjoins
        exact hjoins
      next hd =>
        rw [if_neg hd] at hjoins
        exact hjoins
  | trigger d =>
      have htriggered := h.triggerAll [d]
      simp only [Orchestrator.triggerAll_singleton] at htriggered
      refine ⟨same, ?_⟩
      rw [concerning]
      split
      next hd =>
        rw [List.filter_cons_of_pos (by simpa using hd)] at htriggered
        simp only [List.filter_nil, Orchestrator.triggerAll_singleton] at htriggered
        exact htriggered
      next hd =>
        rw [List.filter_cons_of_neg (by simpa using hd)] at htriggered
        exact htriggered
  | revalidateAll => exact ⟨same, h.revalidateAll⟩
  | handle e =>
      refine ⟨same, ?_⟩
      rw [concerning, e.uri?_eq]
      cases he : e.step? with
      | none =>
          cases e with
          | configurationChanged settings => exact h.configurationChanged settings
          | _ => cases he
      | some x =>
          have hhandle := h.handle he
          by_cases hx : x.uri = uri
          · rw [if_pos hx] at hhandle
            simp only [Option.map_some, hx, Option.all_some, decide_true, if_true]
            exact hhandle
          · rw [if_neg hx] at hhandle
            simp only [Option.map_some, hx, Option.all_some, decide_false, Bool.false_eq_true,
              if_false]
            exact hhandle
  | part x => exact ⟨same, h.part x⟩
  | supersede u =>
      refine ⟨same, ?_⟩
      rw [concerning]
      split
      next hu =>
        have hperform := h.perform (x := .supersedes u) hu
        simp only [Orchestrator.perform_supersedes] at hperform
        exact hperform
      next hu =>
        have hperform := h.perform_other (x := .supersedes u) hu
        simp only [Orchestrator.perform_supersedes] at hperform
        exact hperform
  | shutDown => exact ⟨same, h.host (congrArg Orchestrator.shutDown h.orchestrator) rfl h.settings⟩
  | take => exact ⟨same, h.take hwaits⟩
  | act i sink a => exact h.act i sink a

/-- **The two runs go side by side.** -/
theorem run (h : Mirrors uri same s s') (hwaits : s.QueueWaits) (moves : List Move) :
    ∃ same', Mirrors uri same' (s.run moves) (s'.run (s.restrict uri moves)) := by
  induction moves generalizing s s' same with
  | nil => exact ⟨same, h⟩
  | cons m moves ih =>
      -- a move may open an entry of the cache, so the tickets are matched anew after each
      obtain ⟨same₁, hstep⟩ := h.step hwaits m
      rw [restrict, run_append]
      exact ih hstep (steps_step hwaits m).waits

end Mirrors

theorem exists_mirrors_start (o : Orchestrator) (hasProvider : Bool) (global : DocumentSettings)
    (earlier : List SettingsSession.Move) (workers : Nat) (uri : String) :
    let settings := ((SettingsSession.start hasProvider global).run earlier).cache
    let first := start { o with shared.settings := settings } workers
    ∃ same, Mirrors uri same first (first.only uri) := by
  intro settings first
  obtain ⟨same, hsettings⟩ := SettingsCache.exists_mirrors_only hasProvider global earlier uri
  refine ⟨same, ?_⟩
  constructor
  case orchestrator => rfl
  case workers => rfl
  case settings => exact hsettings
  case passes => exact .nil
  case others => simp [first, start]
  case deliveries => rfl
  case placed => simp [first, start]

end Session

/-! ## Isolation -/

/-- The set that a document has now is one of its own sets. -/
theorem Board.current?_only (b : Board) (uri : String) :
    (b.only uri).history.current? uri = b.history.current? uri := by
  simp [only, PublicationHistory.current?, ← List.filter_reverse, List.find?_filter]

theorem Orchestrator.only_perform_comm (o : Orchestrator) {x y : DocumentStep}
    (h : x.uri ≠ y.uri) (hx : x.FindsOpen o.documents.current)
    (hy : y.FindsOpen o.documents.current) (u : String) :
    ((o.perform x).1.perform y).1.only u = ((o.perform y).1.perform x).1.only u := by
  let xy := ((o.perform x).1.perform y).1
  let yx := ((o.perform y).1.perform x).1
  obtain ⟨-, -, -, hsame⟩ := o.perform_comm h hx hy
  have hboard : xy.shared.board = { yx.shared.board with history := xy.shared.board.history } :=
    congrArg (·.shared.board) hsame
  have honly : xy.shared.board.only u = yx.shared.board.only u :=
    DocumentStep.only_onBoard_comm o.shared.board h u
  calc xy.only u
      = { yx.only u with shared.board :=
          { yx.shared.board with history := xy.shared.board.history }.only u } :=
        congrArg (·.only u) hsame
    _ = { yx.only u with shared.board := yx.shared.board.only u } := by rw [← hboard, honly]
    _ = yx.only u := rfl

/-- **Documents are isolated.** Steps for different documents can be taken in either order:
they answer the same and leave the same behind, of every document all of it; only the log of
the sink has the sets that both of them publish in the order of the steps. A step, and so an
action of a pass, leaves other documents as they are. And a run has for each document the
passes, with their stages and outcomes, and the sets of the run that is left when all that
concerns other documents is taken out. -/
theorem Session.documents_are_isolated :
    (∀ (o : Orchestrator) (x y : DocumentStep), x.uri ≠ y.uri →
      x.FindsOpen o.documents.current → y.FindsOpen o.documents.current →
      let log := o.shared.board.history.events
      let xy := (o.perform x).1.perform y
      let yx := (o.perform y).1.perform x
      xy.2 = (o.perform y).2 ∧ yx.2 = (o.perform x).2 ∧
      (∀ u, xy.1.only u = yx.1.only u) ∧
      xy.1 = { yx.1 with shared.board.history := xy.1.shared.board.history } ∧
      ∃ X Y, (o.perform x).1.shared.board.history.events = log ++ X ∧
        (o.perform y).1.shared.board.history.events = log ++ Y ∧
        xy.1.shared.board.history.events = log ++ X ++ Y ∧
        yx.1.shared.board.history.events = log ++ Y ++ X ∧
        (X = [] ∨ Y = [] → xy.1 = yx.1)) ∧
    (∀ (o : Orchestrator) (x : DocumentStep) (u : String), u ≠ x.uri →
      let o' := (o.perform x).1
      o'.only u = o.only u ∧
      o'.shared.board.generation u = o.shared.board.generation u ∧
      o'.stageOf u = o.stageOf u ∧
      o'.shared.board.history.current? u = o.shared.board.history.current? u) ∧
    (∀ (o : Orchestrator) (sink : Sink) (p : Pass) (a : PassAction),
      let o' := (o.act sink p a).1
      o'.shared.board = o.shared.board ∨ ∃ x : DocumentStep, x.uri = p.document.uri ∧
        o'.shared.board = (o.perform x).1.shared.board) ∧
    ∀ (o : Orchestrator) (hasProvider : Bool) (global : DocumentSettings)
      (earlier : List SettingsSession.Move) (workers : Nat) (uri : String) (moves : List Move),
      let settings := ((SettingsSession.start hasProvider global).run earlier).cache
      let first := start { o with shared.settings := settings } workers
      let s := first.run moves
      let s' := (first.only uri).run (first.restrict uri moves)
      s'.passes.map PassRecord.view = (s.passes.filter (·.uri = uri)).map PassRecord.view ∧
      s'.passes.map (·.pass.demand? o.context) =
        (s.passes.filter (·.uri = uri)).map (·.pass.demand? o.context) ∧
      s'.deliveries = s.deliveriesOf uri ∧
      s'.board = s.board.only uri ∧
      s'.orchestrator.documents = s.orchestrator.documents.only uri ∧
      s'.orchestrator.queue = s.orchestrator.queue.filter (·.document.uri = uri) := by
  refine ⟨?_, ?_, ?_, ?_⟩
  · intro o x y hne hx hy log xy yx
    obtain ⟨hanswer, hanswer', ⟨X, Y, hX, hY, hXY, hYX⟩, hsame⟩ := o.perform_comm hne hx hy
    refine ⟨hanswer, hanswer', o.only_perform_comm hne hx hy, hsame, X, Y, hX, hY, hXY, hYX, ?_⟩
    intro hone
    have hlog : xy.1.shared.board.history.events = yx.1.shared.board.history.events := by
      rw [hXY, hYX]
      rcases hone with rfl | rfl <;> simp
    have hhistory : xy.1.shared.board.history = yx.1.shared.board.history :=
      congrArg PublicationHistory.mk hlog
    exact hsame.trans (by rw [hhistory])
  · intro o x u hne o'
    have honly : o'.only u = o.only u := o.only_perform_of_ne hne
    have hboard : o'.shared.board.only u = o.shared.board.only u :=
      congrArg (·.shared.board) honly
    refine ⟨honly, ?_, ?_, ?_⟩
    · simpa [Board.only] using congrFun (congrArg Board.generation hboard) u
    · simpa [Board.only, Orchestrator.stageOf] using congrFun (congrArg Board.stage hboard) u
    · rw [← Board.current?_only, hboard, Board.current?_only]
  · intro o sink p a
    exact (Pass.effect_act (a := a)).document_step
  · intro o hasProvider global earlier workers uri moves settings first s s'
    obtain ⟨same, hfirst⟩ := exists_mirrors_start o hasProvider global earlier workers uri
    obtain ⟨same', h⟩ := hfirst.run (queueWaits_start _ _) moves
    refine ⟨map_eq_of_forall₂ h.passes ?_, map_eq_of_forall₂ h.passes ?_, h.deliveries, ?_, ?_, ?_⟩
    · intro r r' hr
      rw [PassRecord.view, PassRecord.view, hr.pass.document_eq, hr.pass.token_eq, hr.pooled,
        hr.stages, hr.pass.result?_eq]
    · exact fun r r' hr => hr.pass.demand?_eq o.context
    · exact congrArg (·.shared.board) h.orchestrator
    · exact congrArg (·.documents) h.orchestrator
    · exact congrArg (·.queue) h.orchestrator

/-- Two sets for different documents stand in the log of the sink as they came. -/
theorem Orchestrator.publishes_not_comm :
    ¬ ∀ (o : Orchestrator) (x y : DocumentStep), x.uri ≠ y.uri →
      x.FindsOpen o.documents.current → y.FindsOpen o.documents.current →
      ((o.perform x).1.perform y).1 = ((o.perform y).1.perform x).1 := by
  intro h
  let o : Orchestrator := ((({} : Orchestrator).perform (.begins "a")).1.perform (.begins "b")).1
  have hcomm := h o (.publishes .keeping "a" 1 []) (.publishes .keeping "b" 1 []) (by decide)
    trivial trivial
  have hlog := congrArg (·.shared.board.history.events) hcomm
  revert hlog
  decide

end LintRelay
