import LintRelay.Proofs.Settings.Mirroring
import LintRelay.Proofs.Validation.Commuting

/-!
# What a pass sees of other documents

Of the board, a pass reads and changes what concerns its own document. Of the settings
cache it reads its own key, and while it reads nothing else happens to it. So a pass does
the same where everything is gone that concerns other documents.
-/

namespace LintRelay

/-! ## Passes take steps for their documents -/

namespace Pass

variable {ctx : PassContext} {sink : Sink} {sh : Shared} {p : Pass} {a : PassAction}

/-- An action takes one step for the document of the pass, or none. -/
theorem Effect.document_step {b b' : Board} {p' : Pass} {st : List ValidationStage}
    {xs : List Publication} (h : Effect sink b p b' p' st xs) :
    b' = b ∨ ∃ x : DocumentStep, x.uri = p.document.uri ∧ b' = (x.onBoard b).1 := by
  cases h with
  | waits | goesOn | gives => exact .inl rfl
  | begins => exact .inr ⟨.begins p.document.uri, rfl, rfl⟩
  | enters s q st hcurrent =>
      refine .inr ⟨.enters p.document.uri p.token s, rfl, ?_⟩
      simp only [DocumentStep.onBoard, Board.advance, Board.isCurrent_eq_true_iff, if_pos hcurrent]
  | delivers o =>
      refine .inr ⟨.publishes sink p.document.uri p.token o.diagnostics, rfl, ?_⟩
      simp only [DocumentStep.onBoard]
      split <;> rfl
  | leavesStage | ends => exact .inr ⟨.finishes p.document.uri p.token, rfl, rfl⟩

theorem only_act_of_ne {u : String} (h : u ≠ p.document.uri) :
    (p.act ctx sink sh a).shared.board.only u = sh.board.only u := by
  have heffect : Effect sink sh.board p (p.act ctx sink sh a).shared.board _ _ _ := effect_act
  rcases heffect.document_step with hboard | ⟨x, hx, hboard⟩
  · rw [hboard]
  · rw [hboard]
    exact x.onBoard_only_of_ne sh.board (hx ▸ h)

/-! ## Passes that do not read settings -/

/-- What an action changes, without other documents and with other settings. -/
def Change.only (change : Change) (uri : String) (c : SettingsCache) : Change :=
  ⟨⟨change.shared.board.only uri, c⟩, change.pass, change.log⟩

theorem enter_only (c : SettingsCache) (s : ValidationStage) (q : Point) :
    enter ⟨sh.board.only p.document.uri, c⟩ p s q =
      (enter sh p s q).only p.document.uri c := by
  simp only [enter, Board.only_advance]
  cases sh.board.advance p.document.uri p.token s with
  | mk board current => cases current <;> rfl

theorem publishAs_only (c : SettingsCache) (ds : List Diagnostic) (o : PassOutcome)
    (log : List LogRecord) : publishAs sink ⟨sh.board.only p.document.uri, c⟩ p ds o log =
      (publishAs sink sh p ds o log).only p.document.uri c := by
  simp only [publishAs, Board.only_publish]
  cases sh.board.publish sink p.document.uri p.token ds with
  | mk board answer =>
      cases answer with
      | error fault => rfl
      | ok current => cases current <;> rfl

theorem act_only (hpoint : ∀ r, p.point ≠ .reading r) (c : SettingsCache) :
    p.act ctx sink ⟨sh.board.only p.document.uri, c⟩ a =
      (p.act ctx sink sh a).only p.document.uri c := by
  cases a with
  | proceed =>
      cases hp : p.point with
      | queued =>
          have hgeneration : (sh.board.only p.document.uri).generation p.document.uri =
              sh.board.generation p.document.uri := if_pos rfl
          simp only [act, proceed, hp, Board.begin', ← Board.only_supersede, hgeneration,
            Change.only]
      | begun =>
          simp only [act, proceed, hp]
          split <;> rfl
      | woken | failed failure =>
          simp only [act, proceed, hp, Board.isCurrent_only]
          split <;> rfl
      | reading r => exact absurd hp (hpoint r)
      | settled s | linted s output | parsed s findings =>
          simp only [act, proceed, hp, enter_only]
      | parsing s output =>
          simp only [act, proceed, hp, read]
          split <;> rfl
      | enriching e =>
          simp only [act, proceed, hp, collect]
          split
          · split <;> rfl
          · rfl
      | publishing ds | clearing failure => simp only [act, proceed, hp, publishAs_only]
      | failing failure | leaving result =>
          simp only [act, proceed, hp, Board.only_finish, Change.only]
      | dozing | linting s | ended result => simp only [act, proceed, hp, Change.only]
  | poll job =>
      simp only [act, Board.isCurrent_only]
      split <;> rfl
  | linted answer =>
      simp only [act]
      split
      · rfl
      · simp only [afterFailure]
        split <;> rfl
      · rfl
      · rfl
  | fetched answer => simp only [act, Change.only]
  | _ =>
      simp only [act]
      split <;> rfl

theorem settings_enter (s : ValidationStage) (q : Point) :
    (enter sh p s q).shared.settings = sh.settings := by
  rw [enter]
  split <;> rfl

theorem settings_publishAs (ds : List Diagnostic) (o : PassOutcome) (log : List LogRecord) :
    (publishAs sink sh p ds o log).shared.settings = sh.settings := by
  rw [publishAs]
  split <;> rfl

theorem settings_act (hpoint : ∀ r, p.point ≠ .reading r) :
    (p.act ctx sink sh a).shared.settings = sh.settings := by
  cases a with
  | proceed =>
      simp only [act, proceed]
      split
      next => rfl
      next => split <;> rfl
      next => split <;> rfl
      next hp => exact absurd hp (hpoint _)
      next => exact settings_enter ..
      next => exact settings_enter ..
      next =>
        simp only [read]
        split <;> rfl
      next => exact settings_enter ..
      next =>
        simp only [collect]
        split
        · split <;> rfl
        · rfl
      next => exact settings_publishAs ..
      next => exact settings_publishAs ..
      next => rfl
      next => split <;> rfl
      all_goals rfl
  | linted answer =>
      simp only [act]
      split
      · rfl
      · simp only [afterFailure]
        split <;> rfl
      · rfl
      · rfl
  | fetched answer => simp only [act]
  | _ =>
      simp only [act]
      split <;> rfl

/-- What a pass hands over is added to the log of a sink that refuses nothing. -/
theorem events_act_keeping :
    (p.act ctx .keeping sh a).shared.board.history.events =
      sh.board.history.events ++ p.offers ctx sh a := by
  have heffect : Effect .keeping sh.board p _ _ _ (p.offers ctx sh a) := effect_act
  rcases heffect.offer_cases with
    ⟨hnone, hhistory⟩ | ⟨ds, hone, hcurrent, -, -, hboard⟩
  · rw [hnone, hhistory, List.append_nil]
  · rw [hone, hboard, Board.history_publish _ _ _ _ _ hcurrent]
    rfl

theorem uri_of_offers {x : Publication} (hx : x ∈ p.offers ctx sh a) : x.uri = p.document.uri := by
  have heffect : Effect .keeping sh.board p _ _ _ (p.offers ctx sh a) := effect_act
  rcases heffect.offer_cases with
    ⟨hnone, -⟩ | ⟨ds, hone, -⟩
  · rw [hnone] at hx
    cases hx
  · rw [hone, List.mem_singleton] at hx
    rw [hx]

theorem offers_only (hpoint : ∀ r, p.point ≠ .reading r) (c : SettingsCache) :
    p.offers ctx ⟨sh.board.only p.document.uri, c⟩ a = p.offers ctx sh a := by
  have hown : (p.offers ctx sh a).filter (·.uri = p.document.uri) = p.offers ctx sh a :=
    List.filter_eq_self.mpr fun x hx => decide_eq_true (uri_of_offers hx)
  rw [offers, act_only hpoint]
  simp only [Change.only, Board.only, events_act_keeping, List.filter_append, hown,
    List.drop_left]

theorem stores_only (hpoint : ∀ r, p.point ≠ .reading r) (c : SettingsCache) :
    p.stores ctx ⟨sh.board.only p.document.uri, c⟩ a = p.stores ctx sh a := by
  have hact : ∀ sh' : Shared, p.act ctx .keeping ⟨sh'.board.only p.document.uri, c⟩ a =
      (p.act ctx .keeping sh' a).only p.document.uri c := fun _ => act_only hpoint c
  have hblank := hact { sh with board := sh.board.setStage p.document.uri none }
  simp only [Board.only_setStage] at hblank
  simp only [stores, offers_only hpoint, hblank]
  simp [Change.only, Board.only]

/-- A pass that begins to read settings reads those of its document. -/
theorem reading_of_act (hpoint : ∀ r, p.point ≠ .reading r) {r : SettingsRead}
    (hr : (p.act ctx sink sh a).pass.point = .reading r) : r = { key := p.document.uri } := by
  have hstay : p.point ≠ .reading r := hpoint r
  cases a with
  | proceed =>
      cases hp : p.point with
      | begun =>
          simp only [act, proceed, hp] at hr
          split at hr <;> cases hr
          rfl
      | woken =>
          simp only [act, proceed, hp] at hr
          split at hr <;> cases hr
          rfl
      | reading r' => exact absurd hp (hpoint r')
      | settled s | linted s output | parsed s findings =>
          simp only [act, proceed, hp, enter] at hr
          split at hr <;> cases hr
      | parsing s output =>
          simp only [act, proceed, hp, read] at hr
          split at hr <;> cases hr
      | enriching e =>
          simp only [act, proceed, hp, collect] at hr
          split at hr
          · split at hr <;> cases hr
          · exact absurd hr hstay
      | publishing ds | clearing failure =>
          simp only [act, proceed, hp, publishAs] at hr
          split at hr <;> cases hr
      | failed failure =>
          simp only [act, proceed, hp] at hr
          split at hr <;> cases hr
      | queued | failing failure | leaving result =>
          simp only [act, proceed, hp] at hr
          cases hr
      | dozing | linting s | ended result =>
          simp only [act, proceed, hp] at hr
          exact absurd (hp.trans hr) hstay
  | linted answer =>
      simp only [act] at hr
      split at hr
      · cases hr
      · simp only [afterFailure] at hr
        split at hr <;> cases hr
      · cases hr
      · exact absurd hr hstay
  | fetched answer =>
      simp only [act] at hr
      exact absurd hr hstay
  | wake | poll job | replied job reply =>
      simp only [act] at hr
      split at hr
      · cases hr
      · exact absurd hr hstay
  | interrupted fault =>
      simp only [act] at hr
      split at hr
      · cases hr
      · cases hr
      · cases hr
      · exact absurd hr hstay

end Pass

/-! ## Passes that read settings -/

/-- What an action does to the settings and to a pass that reads them. -/
def SettingsRead.act (c : SettingsCache) (r : SettingsRead) :
    PassAction → SettingsCache × Pass.Point
  | .proceed => ((r.step c).1, match r.point with
    | .done s => .settled s
    | .broken _ fault => .leaving (.error (.settings fault))
    | _ => .reading (r.step c).2)
  | .fetched answer => (c, .reading (r.fetched answer).1)
  | .interrupted fault => (c, .leaving (.error (.settings fault)))
  | _ => (c, .reading r)

theorem Pass.act_of_reading (ctx : PassContext) (sink : Sink) (sh : Shared) {p : Pass}
    {r : SettingsRead} (hpoint : p.point = .reading r) (a : PassAction) :
    (p.act ctx sink sh a).shared = ⟨sh.board, (r.act sh.settings a).1⟩ ∧
      (p.act ctx sink sh a).pass = p.move (r.act sh.settings a).2 := by
  have hstay : p.move (.reading r) = p := by
    rw [← hpoint]
    rfl
  cases a with
  | proceed =>
      obtain ⟨key, q⟩ := r
      cases q with
      | done | broken =>
          simp only [act, proceed, hpoint]
          exact ⟨rfl, rfl⟩
      | _ =>
          simp only [act, proceed, hpoint]
          exact ⟨rfl, rfl⟩
  | _ => simp only [act, hpoint, SettingsRead.act, hstay, stay, and_self]

/-- Two passes over one snapshot at the same point; where they read settings, of the same
fetch. -/
inductive Pass.Point.Alike (key : String) (same : Nat → Nat → Prop) : Point → Point → Prop where
  | equal {q : Point} (h : ∀ r, q ≠ .reading r) : Alike key same q q
  | reading {r r' : SettingsRead} (h : r.Alike key same r') :
      Alike key same (.reading r) (.reading r')

namespace SettingsCache

variable {key : String} {same : Nat → Nat → Prop} {c c' : SettingsCache} {r r' : SettingsRead}

/-- A pass over another document. -/
def Leaves (key : String) (same : Nat → Nat → Prop) (c : SettingsCache) (q : Pass.Point) : Prop :=
  ∀ r, q = .reading r → c.Apart key same r

theorem Mirrors.act (h : Mirrors key same c c') (hr : r.Alike key same r') (a : PassAction) :
    ∃ same', Extends same c same' (r.act c a).1 ∧
      Mirrors key same' (r.act c a).1 (r'.act c' a).1 ∧
      (r.act c a).2.Alike key same' (r'.act c' a).2 := by
  have hstay : Extends same c same c := .of_tickets_eq rfl
  cases a with
  | proceed =>
      obtain ⟨same', hextends, hmirrors, hnext⟩ := h.step hr
      refine ⟨same', hextends, hmirrors, ?_⟩
      obtain ⟨hq⟩ := hr
      cases hq with
      | done | broken => exact .equal fun _ => Pass.Point.noConfusion
      | _ => exact .reading hnext
  | fetched answer => exact ⟨same, hstay, h, .reading (hr.fetched answer)⟩
  | interrupted fault => exact ⟨same, hstay, h, .equal fun _ => Pass.Point.noConfusion⟩
  | wake | linted | poll | replied => exact ⟨same, hstay, h, .reading hr⟩

theorem Mirrors.act_other (h : Mirrors key same c c') (hr : c.Apart key same r) (a : PassAction) :
    Extends same c same (r.act c a).1 ∧ Mirrors key same (r.act c a).1 c' ∧
      (r.act c a).1.Leaves key same (r.act c a).2 := by
  have hstay : Extends same c same c := .of_tickets_eq rfl
  have hreading : ∀ {c₁ : SettingsCache} {r₁ : SettingsRead}, c₁.Apart key same r₁ →
      c₁.Leaves key same (.reading r₁) := by
    rintro c₁ r₁ hapart _ ⟨⟩
    exact hapart
  cases a with
  | proceed =>
      obtain ⟨hextends, hmirrors, hnext⟩ := h.step_other hr
      refine ⟨hextends, hmirrors, ?_⟩
      simp only [SettingsRead.act]
      split
      · exact fun _ => Pass.Point.noConfusion
      · exact fun _ => Pass.Point.noConfusion
      · exact hreading hnext
  | fetched answer => exact ⟨hstay, h, hreading (hr.fetched answer)⟩
  | interrupted fault => exact ⟨hstay, h, fun _ => Pass.Point.noConfusion⟩
  | wake | linted | poll | replied => exact ⟨hstay, h, hreading hr⟩

theorem Extends.leaves {same' : Nat → Nat → Prop} {c₁ : SettingsCache}
    (h : Extends same c same' c₁) {q : Pass.Point} (hq : c.Leaves key same q) :
    c₁.Leaves key same' q :=
  fun r hr => h.apart (hq r hr)

end SettingsCache

/-! ## Passes over a document and over others -/

namespace Pass

open SettingsCache

/-- Two passes over one snapshot that have come equally far. -/
inductive Alike (same : Nat → Nat → Prop) : Pass → Pass → Prop where
  | over {d : Document} {token : Nat} {q q' : Point} (h : q.Alike d.uri same q') :
      Alike same ⟨d, token, q⟩ ⟨d, token, q'⟩

variable {same same' : Nat → Nat → Prop} {p p' : Pass} {sh sh' : Shared}

theorem Alike.of_queued (hqueued : p.point = .queued) : p.Alike same p := by
  obtain ⟨d, token, q⟩ := p
  obtain rfl : q = .queued := hqueued
  exact .over (.equal fun _ => Point.noConfusion)

theorem Alike.mono (h : p.Alike same p') {c c₁ : SettingsCache}
    (hextends : Extends same c same' c₁) : p.Alike same' p' := by
  obtain ⟨hpoint⟩ := h
  cases hpoint with
  | equal hq => exact .over (.equal hq)
  | reading hr => exact .over (.reading (hextends.alike hr))

theorem Alike.token_eq (h : p.Alike same p') : p'.token = p.token := by
  obtain ⟨-⟩ := h
  rfl

theorem Alike.document_eq (h : p.Alike same p') : p'.document = p.document := by
  obtain ⟨-⟩ := h
  rfl

theorem Alike.result?_eq (h : p.Alike same p') : p'.result? = p.result? := by
  obtain ⟨hpoint⟩ := h
  cases hpoint <;> rfl

theorem Alike.demand?_eq (h : p.Alike same p') (ctx : PassContext) :
    p'.demand? ctx = p.demand? ctx := by
  obtain ⟨hpoint⟩ := h
  cases hpoint with
  | equal => rfl
  | reading hr =>
      obtain ⟨hq⟩ := hr
      cases hq <;> rfl

variable (ctx : PassContext) (sink : Sink) (a : PassAction)

/-- **A pass does the same where everything is gone that concerns other documents.** -/
theorem Alike.act (h : p.Alike same p') (hboard : sh'.board = sh.board.only p.document.uri)
    (hsettings : sh.settings.Mirrors p.document.uri same sh'.settings) :
    let next := p.act ctx sink sh a
    let next' := p'.act ctx sink sh' a
    ∃ same', Extends same sh.settings same' next.shared.settings ∧
      next'.shared.board = next.shared.board.only p.document.uri ∧
      next.shared.settings.Mirrors p.document.uri same' next'.shared.settings ∧
      next.pass.Alike same' next'.pass := by
  intro next next'
  obtain ⟨board', c'⟩ := sh'
  obtain rfl := hboard
  obtain @⟨d, token, _, _, hpoint⟩ := h
  cases hpoint with
  | equal hq =>
      -- it may begin to read settings now, and then it begins with no ticket in both
      have honly : next' = next.only d.uri c' := act_only hq c'
      have hstay : next.shared.settings = sh.settings := settings_act hq
      have hdocument : next.pass.document = d := document_act ..
      rw [honly]
      refine ⟨same, .of_tickets_eq (by rw [hstay]), rfl, ?_, .over ?_⟩
      · rw [hstay]
        exact hsettings
      · by_cases hreads : ∃ r, next.pass.point = .reading r
        · obtain ⟨r, hr⟩ := hreads
          have hown : r = { key := d.uri } := reading_of_act hq hr
          simp only [hr, hown, hdocument]
          exact .reading ⟨.start⟩
        · exact .equal fun r hr => hreads ⟨r, hr⟩
  | @reading r r' hr =>
      have hreading : ∀ r, (⟨d, token, .reading r⟩ : Pass).point = .reading r := fun _ => rfl
      obtain ⟨hshared, hpass⟩ := act_of_reading ctx sink sh (hreading r) a
      obtain ⟨hshared', hpass'⟩ :=
        act_of_reading ctx sink ⟨sh.board.only d.uri, c'⟩ (hreading r') a
      obtain ⟨same', hextends, hmirrors, hnext⟩ := hsettings.act hr a
      refine ⟨same', ?_, ?_, ?_, ?_⟩
      · rwa [hshared]
      · rw [hshared, hshared']
      · rwa [hshared, hshared']
      · rw [hpass, hpass']
        exact .over hnext

theorem Alike.stores_offers (h : p.Alike same p')
    (hboard : sh'.board = sh.board.only p.document.uri) :
    p'.stores ctx sh' a = p.stores ctx sh a ∧ p'.offers ctx sh' a = p.offers ctx sh a := by
  obtain ⟨board', c'⟩ := sh'
  obtain rfl := hboard
  obtain @⟨d, token, _, _, hpoint⟩ := h
  cases hpoint with
  | equal hq => exact ⟨stores_only hq c', offers_only hq c'⟩
  | reading =>
      have hnothing : ∀ (r : SettingsRead) (sh : Shared),
          (⟨d, token, .reading r⟩ : Pass).stores ctx sh a = [] ∧
            (⟨d, token, .reading r⟩ : Pass).offers ctx sh a = [] := by
        intro r sh
        refine stores_offers_of_board_eq fun sh₁ _ => ?_
        rw [(act_of_reading _ _ _ rfl a).1]
      exact ⟨(hnothing ..).1.trans (hnothing ..).1.symm, (hnothing ..).2.trans (hnothing ..).2.symm⟩

/-- What a pass over another document does is not seen. -/
theorem act_other {key : String} {c' : SettingsCache} (hne : p.document.uri ≠ key)
    (hleaves : sh.settings.Leaves key same p.point)
    (hsettings : sh.settings.Mirrors key same c') :
    let next := p.act ctx sink sh a
    Extends same sh.settings same next.shared.settings ∧
      next.shared.board.only key = sh.board.only key ∧
      next.shared.settings.Mirrors key same c' ∧
      next.shared.settings.Leaves key same next.pass.point := by
  intro next
  have honly : next.shared.board.only key = sh.board.only key := only_act_of_ne hne.symm
  by_cases hreads : ∃ r, p.point = .reading r
  · obtain ⟨r, hr⟩ := hreads
    obtain ⟨hshared, hpass⟩ := act_of_reading ctx sink sh hr a
    obtain ⟨hextends, hmirrors, hnext⟩ := hsettings.act_other (hleaves r hr) a
    refine ⟨?_, honly, ?_, ?_⟩
    · rwa [hshared]
    · rwa [hshared]
    · rwa [hshared, hpass]
  · have hpoint : ∀ r, p.point ≠ .reading r := fun r hr => hreads ⟨r, hr⟩
    have hstay : next.shared.settings = sh.settings := settings_act hpoint
    refine ⟨.of_tickets_eq (by rw [hstay]), honly, by rwa [hstay], fun r hr => ?_⟩
    rw [reading_of_act hpoint hr]
    exact ⟨hne, fun _ ht => nomatch ht⟩

end Pass

end LintRelay
