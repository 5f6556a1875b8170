import Mathlib.Data.List.Basic
import LintRelay.Proofs.Validation.Runs
import LintRelay.Validation.Isolation

/-!
# Steps for different documents

What a step does to its document it reads off that document alone, and it leaves all other
documents as they are. So two steps for different documents can be taken in either order.
Only the log of the sink tells which of two sets came first.
-/

namespace LintRelay

/-! ## One document of a board -/

namespace Board

variable (b : Board) (uri u : String) (token : Nat)

theorem only_setStage (s : Option ValidationStage) :
    (b.setStage uri s).only uri = (b.only uri).setStage uri s := by
  simp only [only, setStage, mk.injEq, true_and, and_true]
  funext v
  by_cases hv : v = uri <;> simp [hv]

theorem only_setStage_of_ne (h : u ≠ uri) (s : Option ValidationStage) :
    (b.setStage uri s).only u = b.only u := by
  simp only [only, setStage, mk.injEq, true_and, and_true]
  funext v
  by_cases hv : v = u
  · simp [hv, h]
  · simp [hv]

theorem only_supersede : (b.supersede uri).only uri = (b.only uri).supersede uri := by
  rw [supersede, only_setStage, supersede]
  simp only [only, setStage, mk.injEq, and_true]
  funext v
  by_cases hv : v = uri <;> simp [hv]

theorem only_supersede_of_ne (h : u ≠ uri) : (b.supersede uri).only u = b.only u := by
  rw [supersede, only_setStage_of_ne _ _ _ h]
  simp only [only, mk.injEq, and_true]
  funext v
  by_cases hv : v = u
  · simp [hv, h]
  · simp [hv]

theorem isCurrent_only : (b.only uri).isCurrent uri token = b.isCurrent uri token := by
  simp [isCurrent, only]

theorem only_advance (s : ValidationStage) :
    (b.only uri).advance uri token s =
      ((b.advance uri token s).1.only uri, (b.advance uri token s).2) := by
  rw [advance, isCurrent_only, advance]
  split
  · rw [only_setStage]
  · rfl

theorem only_advance_of_ne (h : u ≠ uri) (s : ValidationStage) :
    (b.advance uri token s).1.only u = b.only u := by
  rw [advance]
  split
  · exact b.only_setStage_of_ne uri u h _
  · rfl

theorem only_finish : (b.only uri).finish uri token = (b.finish uri token).only uri := by
  rw [finish, isCurrent_only, finish]
  split
  · rw [only_setStage]
  · rfl

theorem only_finish_of_ne (h : u ≠ uri) : (b.finish uri token).only u = b.only u := by
  rw [finish]
  split
  · exact b.only_setStage_of_ne uri u h _
  · rfl

variable (sink : Sink) (set : List Diagnostic)

theorem only_history_publish :
    { b with history := b.history.publish ⟨uri, set⟩ }.only uri =
      { b.only uri with history := (b.only uri).history.publish ⟨uri, set⟩ } := by
  simp [only, PublicationHistory.publish]

theorem only_history_publish_of_ne (h : u ≠ uri) :
    { b with history := b.history.publish ⟨uri, set⟩ }.only u = b.only u := by
  simp [only, PublicationHistory.publish, Ne.symm h]

theorem only_publish :
    (b.only uri).publish sink uri token set =
      ((b.publish sink uri token set).1.only uri, (b.publish sink uri token set).2) := by
  have hleft : ((b.only uri).handingOver uri).setStage uri none =
      ((b.handingOver uri).setStage uri none).only uri := by
    rw [handingOver, handingOver, only_setStage, only_setStage]
  rw [publish, isCurrent_only, publish]
  split
  · simp only [hleft]
    cases sink ⟨uri, set⟩ with
    | none => simp only [only_history_publish]
    | some fault => rfl
  · rfl

theorem only_publish_of_ne (h : u ≠ uri) :
    (b.publish sink uri token set).1.only u = b.only u := by
  have hleft : ((b.handingOver uri).setStage uri none).only u = b.only u := by
    rw [only_setStage_of_ne _ _ _ h, handingOver, only_setStage_of_ne _ _ _ h]
  rw [publish]
  split
  · simp only
    split
    · exact hleft
    · exact (only_history_publish_of_ne _ _ _ _ h).trans hleft
  · rfl

end Board

/-! ## Steps and the board -/

namespace DocumentStep

variable (b : Board) (x y : DocumentStep) {u : String}

/-- **A step reads and changes its own document.** -/
theorem onBoard_only :
    x.onBoard (b.only x.uri) = ((x.onBoard b).1.only x.uri, (x.onBoard b).2) := by
  cases x with
  | begins uri =>
      have hgeneration : (b.only uri).generation uri = b.generation uri := if_pos rfl
      simp only [onBoard, DocumentStep.uri, Board.begin', b.only_supersede uri, hgeneration]
  | enters uri token stage => simp only [onBoard, DocumentStep.uri, b.only_advance uri]
  | publishes sink uri token set =>
      simp only [onBoard, DocumentStep.uri, b.only_publish uri]
      split <;> rfl
  | finishes uri token => simp only [onBoard, DocumentStep.uri, b.only_finish uri]
  | supersedes uri | closes uri => simp only [onBoard, DocumentStep.uri, b.only_supersede uri]
  | puts d => rfl

/-- **A step leaves the other documents as they are.** -/
theorem onBoard_only_of_ne (h : u ≠ x.uri) : (x.onBoard b).1.only u = b.only u := by
  cases x with
  | begins uri | supersedes uri | closes uri => exact b.only_supersede_of_ne uri u h
  | enters uri token stage => exact b.only_advance_of_ne uri u token h stage
  | publishes sink uri token set =>
      have hpublish := b.only_publish_of_ne uri u token sink set h
      simp only [onBoard]
      split <;> exact hpublish
  | finishes uri token => exact b.only_finish_of_ne uri u token h
  | puts d => rfl

/-- What a step answers it reads off its own document. -/
theorem answer_of_only_eq {b b' : Board} (h : b'.only x.uri = b.only x.uri) :
    (x.onBoard b').2 = (x.onBoard b).2 := by
  have hb := congrArg Prod.snd (x.onBoard_only b)
  have hb' := congrArg Prod.snd (x.onBoard_only b')
  rw [h] at hb'
  exact hb'.symm.trans hb

/-- What a step makes of its document it reads off that document. -/
theorem only_onBoard_of_only_eq {b b' : Board} (h : b'.only x.uri = b.only x.uri) :
    (x.onBoard b').1.only x.uri = (x.onBoard b).1.only x.uri := by
  have hb := congrArg Prod.fst (x.onBoard_only b)
  have hb' := congrArg Prod.fst (x.onBoard_only b')
  rw [h] at hb'
  exact hb'.symm.trans hb

variable {x y}

/-- Of each document, two steps for different documents make the same in either order. -/
theorem only_onBoard_comm (h : x.uri ≠ y.uri) (u : String) :
    (y.onBoard (x.onBoard b).1).1.only u = (x.onBoard (y.onBoard b).1).1.only u := by
  by_cases hx : u = x.uri
  · subst hx
    rw [y.onBoard_only_of_ne _ h]
    exact (x.only_onBoard_of_only_eq (y.onBoard_only_of_ne b h)).symm
  · rw [x.onBoard_only_of_ne _ hx]
    by_cases hy : u = y.uri
    · subst hy
      exact y.only_onBoard_of_only_eq (x.onBoard_only_of_ne b hx)
    · rw [y.onBoard_only_of_ne _ hy, x.onBoard_only_of_ne _ hx, y.onBoard_only_of_ne _ hy]

/-! ## What a step adds to the log -/

/-- The sets that a step adds to the log of the sink. -/
def adds (b : Board) : DocumentStep → List Publication
  | publishes sink uri token set =>
    if b.generation uri = token ∧ (sink ⟨uri, set⟩).isNone then [⟨uri, set⟩] else []
  | _ => []

theorem events_onBoard (b : Board) (x : DocumentStep) :
    (x.onBoard b).1.history.events = b.history.events ++ x.adds b := by
  cases x with
  | publishes sink uri token set =>
      have hboard : ((publishes sink uri token set).onBoard b).1 =
          (b.publish sink uri token set).1 := by
        simp only [onBoard]
        split <;> rfl
      rw [hboard]
      by_cases hcurrent : b.generation uri = token
      · rw [b.history_publish uri token sink set hcurrent]
        simp [adds, hcurrent]
      · simp [adds, hcurrent, Board.publish]
  | enters uri token stage =>
      simp only [onBoard, adds, Board.advance, List.append_nil]
      split <;> rfl
  | finishes uri token => simp [onBoard, adds]
  | begins | supersedes | closes | puts => simp [onBoard, adds, Board.begin']

theorem adds_of_only_eq {b b' : Board} (h : b'.only x.uri = b.only x.uri) :
    x.adds b' = x.adds b := by
  cases x with
  | publishes sink uri token set =>
      have honly : b'.only uri = b.only uri := h
      have hgeneration : b'.generation uri = b.generation uri := by
        simpa [Board.only] using congrFun (congrArg Board.generation honly) uri
      simp only [adds, hgeneration]
  | _ => rfl

end DocumentStep

/-- Two boards that agree on every document differ in the order of the log at most. -/
theorem Board.eq_of_only_eq {b b' : Board} (h : ∀ u, b.only u = b'.only u) :
    b = { b' with history := b.history } := by
  have hgeneration : b.generation = b'.generation := by
    funext u
    simpa [Board.only] using congrFun (congrArg Board.generation (h u)) u
  have hstage : b.stage = b'.stage := by
    funext u
    simpa [Board.only] using congrFun (congrArg Board.stage (h u)) u
  rw [← hgeneration, ← hstage]

/-! ## Documents -/

namespace DocumentStore

variable {d e : Document}

/-- Of two documents that are open, either can be updated first. -/
theorem place_comm (h : d.uri ≠ e.uri) {ds : List Document} (hd : d.uri ∈ ds.map (·.uri))
    (he : e.uri ∈ ds.map (·.uri)) : place e (place d ds) = place d (place e ds) := by
  induction ds with
  | nil => cases hd
  | cons f ds ih =>
      by_cases hfd : f.uri = d.uri
      · have hfe : f.uri ≠ e.uri := hfd ▸ h
        simp only [place, if_pos hfd, if_neg hfe, if_neg h]
      · by_cases hfe : f.uri = e.uri
        · simp only [place, if_pos hfe, if_neg hfd, if_neg (Ne.symm h)]
        · have hrest := ih ((List.mem_cons.mp hd).resolve_left (Ne.symm hfd))
            ((List.mem_cons.mp he).resolve_left (Ne.symm hfe))
          simp only [place, if_neg hfd, if_neg hfe, hrest]

variable (p : String → Bool) (ds : List Document)

/-- A snapshot of a document that counts has its place among those that count. -/
theorem filter_place_of_pos (h : p d.uri) :
    (place d ds).filter (p ·.uri) = place d (ds.filter (p ·.uri)) := by
  induction ds with
  | nil => simp [place, h]
  | cons f ds ih =>
      by_cases hfd : f.uri = d.uri
      · simp [place, hfd, h]
      · by_cases hf : p f.uri <;> simp [place, hfd, hf, ih]

/-- A snapshot of a document that does not count changes nothing of those that do. -/
theorem filter_place_of_neg (h : p d.uri = false) :
    (place d ds).filter (p ·.uri) = ds.filter (p ·.uri) := by
  induction ds with
  | nil => simp [place, h]
  | cons f ds ih =>
      by_cases hfd : f.uri = d.uri
      · simp [place, hfd, h]
      · by_cases hf : p f.uri <;> simp [place, hfd, hf, ih]

end DocumentStore

/-- A step opens no document that is not open already. -/
def DocumentStep.FindsOpen (s : DocumentStore) : DocumentStep → Prop
  | puts d => d.uri ∈ s.documents.map (·.uri)
  | _ => True

namespace DocumentStep

variable {x y : DocumentStep} {u : String}

theorem onDocuments_comm (h : x.uri ≠ y.uri) {s : DocumentStore} (hx : x.FindsOpen s)
    (hy : y.FindsOpen s) :
    y.onDocuments (x.onDocuments s) = x.onDocuments (y.onDocuments s) := by
  have hclose : ∀ {d : Document} {uri : String}, d.uri ≠ uri →
      (s.put d).close uri = (s.close uri).put d := by
    intro d uri hne
    have hfilter := DocumentStore.filter_place_of_pos (fun v => decide (v ≠ uri)) s.documents
      (d := d) (by simpa using hne)
    exact congrArg DocumentStore.mk hfilter
  cases x with
  | puts d =>
      cases y with
      | puts e => exact congrArg DocumentStore.mk (DocumentStore.place_comm h hx hy)
      | closes uri => exact hclose h
      | _ => rfl
  | closes uri =>
      cases y with
      | puts e => exact (hclose (Ne.symm h)).symm
      | closes uri' => exact congrArg DocumentStore.mk (List.filter_comm ..)
      | _ => rfl
  | _ => rfl

theorem only_onDocuments (s : DocumentStore) (x : DocumentStep) :
    (x.onDocuments s).only x.uri = x.onDocuments (s.only x.uri) := by
  cases x with
  | puts d =>
      exact congrArg DocumentStore.mk
        (DocumentStore.filter_place_of_pos (fun v => decide (v = d.uri)) s.documents (by simp))
  | closes uri => exact congrArg DocumentStore.mk (List.filter_comm ..)
  | _ => rfl

theorem only_onDocuments_of_ne (s : DocumentStore) (h : u ≠ x.uri) :
    (x.onDocuments s).only u = s.only u := by
  cases x with
  | puts d =>
      have hne : d.uri ≠ u := Ne.symm h
      exact congrArg DocumentStore.mk (DocumentStore.filter_place_of_neg
        (fun v => decide (v = u)) s.documents (by simpa using hne))
  | closes uri =>
      have hne : u ≠ uri := h
      refine congrArg DocumentStore.mk ((List.filter_filter ..).trans ?_)
      refine List.filter_congr fun d _ => ?_
      by_cases hd : d.uri = u
      · simpa [hd] using hne
      · simp [hd]
  | _ => rfl

theorem onSettings_comm (h : x.uri ≠ y.uri) (c : SettingsCache) :
    y.onSettings (x.onSettings c) = x.onSettings (y.onSettings c) := by
  cases x with
  | closes uri =>
      cases y with
      | closes uri' =>
          simp only [onSettings, SettingsCache.remove, SettingsCache.setEntry,
            SettingsCache.mk.injEq, true_and, and_true]
          funext k
          split <;> split <;> rfl
      | _ => rfl
  | _ => rfl

theorem only_onSettings_of_ne (c : SettingsCache) (h : u ≠ x.uri) :
    (x.onSettings c).only u = c.only u := by
  cases x with
  | closes uri =>
      have hne : u ≠ uri := h
      simp only [onSettings, SettingsCache.remove, SettingsCache.setEntry, SettingsCache.only,
        SettingsCache.mk.injEq, true_and, and_true]
      funext k
      by_cases hk : k = u
      · simp [hk, hne]
      · simp [hk]
  | _ => rfl

end DocumentStep

namespace SharedDocuments

theorem change_comm {s : SharedDocuments} {f g : DocumentStore → DocumentStore}
    (h : g (f s.current) = f (g s.current)) : (s.change f).change g = (s.change g).change f := by
  obtain ⟨host, own⟩ := s
  cases own with
  | none => exact congrArg (SharedDocuments.mk · none) h
  | some own => exact congrArg (SharedDocuments.mk host ∘ some) h

variable (s : SharedDocuments) (f : DocumentStore → DocumentStore) (uri : String)

theorem only_change (h : ∀ store, (f store).only uri = f (store.only uri)) :
    (s.change f).only uri = (s.only uri).change f := by
  obtain ⟨host, own⟩ := s
  cases own <;> simp [change, only, h]

theorem only_change_of_eq (h : ∀ store, (f store).only uri = store.only uri) :
    (s.change f).only uri = s.only uri := by
  obtain ⟨host, own⟩ := s
  cases own <;> simp [change, only, h]

theorem current_only : (s.only uri).current = s.current.only uri := by
  obtain ⟨host, own⟩ := s
  cases own <;> rfl

end SharedDocuments

/-! ## Two steps -/

namespace Orchestrator

variable (o : Orchestrator) {x y : DocumentStep} {u : String}

/-- **A step leaves everything as it is that concerns other documents.** -/
theorem only_perform_of_ne (h : u ≠ x.uri) : (o.perform x).1.only u = o.only u := by
  have hdocuments := o.documents.only_change_of_eq (x.onDocuments ·) u
    fun store => x.only_onDocuments_of_ne store h
  simp only [perform, only, hdocuments, x.onBoard_only_of_ne o.shared.board h,
    x.only_onSettings_of_ne o.shared.settings h]

/-- **Two steps for different documents can be taken in either order.** Their answers are
the same, and so is everything that they leave behind but the log of the sink, in which
what each of them adds stands in the order of the steps. -/
theorem perform_comm (h : x.uri ≠ y.uri) (hx : x.FindsOpen o.documents.current)
    (hy : y.FindsOpen o.documents.current) :
    let xy := (o.perform x).1.perform y
    let yx := (o.perform y).1.perform x
    xy.2 = (o.perform y).2 ∧ yx.2 = (o.perform x).2 ∧
    (∃ X Y, (o.perform x).1.shared.board.history.events = o.shared.board.history.events ++ X ∧
      (o.perform y).1.shared.board.history.events = o.shared.board.history.events ++ Y ∧
      xy.1.shared.board.history.events = o.shared.board.history.events ++ X ++ Y ∧
      yx.1.shared.board.history.events = o.shared.board.history.events ++ Y ++ X) ∧
    xy.1 = { yx.1 with
      shared.board.history := xy.1.shared.board.history } := by
  intro xy yx
  let b := o.shared.board
  have hxb : (y.onBoard b).1.only x.uri = b.only x.uri := y.onBoard_only_of_ne b h
  have hyb : (x.onBoard b).1.only y.uri = b.only y.uri := x.onBoard_only_of_ne b (Ne.symm h)
  refine ⟨y.answer_of_only_eq hyb, x.answer_of_only_eq hxb, ⟨x.adds b, y.adds b, ?_⟩, ?_⟩
  · refine ⟨x.events_onBoard b, y.events_onBoard b, ?_, ?_⟩
    · refine (y.events_onBoard (x.onBoard b).1).trans ?_
      rw [y.adds_of_only_eq hyb, x.events_onBoard b]
    · refine (x.events_onBoard (y.onBoard b).1).trans ?_
      rw [x.adds_of_only_eq hxb, y.events_onBoard b]
  · have hboard : xy.1.shared.board = { yx.1.shared.board with
        history := xy.1.shared.board.history } :=
      Board.eq_of_only_eq (DocumentStep.only_onBoard_comm b h)
    have hdocuments : xy.1.documents = yx.1.documents :=
      SharedDocuments.change_comm (s := o.documents) (f := (x.onDocuments ·))
        (g := (y.onDocuments ·)) (DocumentStep.onDocuments_comm h hx hy)
    have hsettings : xy.1.shared.settings = yx.1.shared.settings :=
      DocumentStep.onSettings_comm h o.shared.settings
    calc xy.1 = { o with
          documents := xy.1.documents
          shared := ⟨xy.1.shared.board, xy.1.shared.settings⟩ } := rfl
      _ = { o with
          documents := yx.1.documents
          shared := ⟨{ yx.1.shared.board with history := xy.1.shared.board.history },
            yx.1.shared.settings⟩ } := by
        rw [hdocuments, hsettings, ← hboard]
      _ = _ := rfl

end Orchestrator

end LintRelay
