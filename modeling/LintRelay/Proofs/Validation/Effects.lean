import LintRelay.Validation.Session

/-!
# What an action can do

Every action of a pass has one of eight effects on what it shares with others. All
that is said of runs rests on this list: later proofs go through the effects and
never open an action again.
-/

namespace LintRelay.Pass

/-- A pass is under way from the moment when it has its token until it has its
result. -/
def Point.isUnderWay : Point → Bool
  | .queued | .leaving _ | .ended _ => false
  | _ => true

/-- A pass holds the last stage that it stored from the moment when it has its token
until it has its result, or until it left the stage after a failure of the linter. -/
def Point.holdsStage : Point → Bool
  | .failed _ => false
  | q => q.isUnderWay

/-- A pass is over when it has its result. -/
def Point.isOver : Point → Bool
  | .leaving _ | .ended _ => true
  | _ => false

theorem Point.ne_queued {q : Point} (h : q.isUnderWay) : q ≠ .queued := by
  rintro rfl
  cases h

theorem Point.isUnderWay_of_holdsStage {q : Point} (h : q.holdsStage) : q.isUnderWay := by
  cases q <;> first | rfl | cases h

/-- The stages that a pass has stored when it stands at a point; none once it has
its result, since it may have come from anywhere. -/
def Point.entered : Point → Option (List ValidationStage)
  | .queued | .begun | .dozing | .woken | .reading _ | .settled _ => some []
  | .linting _ | .linted _ _ | .clearing _ | .failing _ | .failed _ => some [.linting]
  | .parsing _ _ | .parsed _ _ => some [.linting, .parsing]
  | .enriching _ | .publishing _ => some [.linting, .parsing, .enriching]
  | .leaving _ | .ended _ => none

/-- A pass stands before the sink with the set of an outcome. -/
def Offering (p : Pass) (o : PassOutcome) : Prop :=
  (p.point = .publishing o.diagnostics ∧ o.status = .published) ∨
    ∃ failure, p.point = .clearing failure ∧ o.diagnostics = [] ∧ o.status = .cleared

theorem Offering.isUnderWay {p : Pass} {o : PassOutcome} (h : p.Offering o) :
    p.point.isUnderWay := by
  rcases h with ⟨hp, -⟩ | ⟨_, hp, -⟩ <;> rw [hp] <;> rfl

/-- What an action does to the board and to the pass, the stages that it stores and
the sets that it hands to the sink. -/
inductive Effect (sink : Sink) (b : Board) (p : Pass) :
    Board → Pass → List ValidationStage → List Publication → Prop where
  /-- The pass takes its token. -/
  | begins (hqueued : p.point = .queued) :
      Effect sink b p (b.supersede p.document.uri)
        { p with token := b.generation p.document.uri + 1, point := .begun } [] []
  /-- Nothing happens. -/
  | waits : Effect sink b p b p [] []
  /-- Only the pass moves, within its stage. -/
  | goesOn (q : Point) (hfrom : p.point.holdsStage) (hto : q.isUnderWay)
      (hentered : q.entered = p.point.entered) : Effect sink b p b (p.move q) [] []
  /-- The pass enters a stage. -/
  | enters (s : ValidationStage) (q : Point) (st : List ValidationStage)
      (hcurrent : b.generation p.document.uri = p.token) (hfrom : p.point.isUnderWay)
      (hto : q.isUnderWay) (hbefore : p.point.entered = some st)
      (hafter : q.entered = some (st ++ [s])) :
      Effect sink b p (b.setStage p.document.uri (some s)) (p.move q) [s] []
  /-- The pass hands a set to the sink, which takes it or refuses it. -/
  | delivers (o : PassOutcome)
      (hcurrent : b.generation p.document.uri = p.token) (hfrom : p.Offering o) :
      Effect sink b p (b.publish sink p.document.uri p.token o.diagnostics).1
        (p.move (.leaving (match sink ⟨p.document.uri, o.diagnostics⟩ with
          | none => .ok o
          | some fault => .error (.sink fault))))
        [.publishing] [⟨p.document.uri, o.diagnostics⟩]
  /-- The pass gets its result without handing over anything. -/
  | gives (r : Except PassError PassOutcome) (hfrom : p.point.isUnderWay)
      (hresult : ∀ o, r = .ok o →
        (o.status = .superseded ∧ b.generation p.document.uri ≠ p.token) ∨
        (o.status = .linterFailed ∧ b.generation p.document.uri = p.token)) :
      Effect sink b p b (p.move (.leaving r)) [] []
  /-- After a failure of the linter, the pass leaves its stage. -/
  | leavesStage (failure : LinterFailure) (hfailing : p.point = .failing failure) :
      Effect sink b p (b.finish p.document.uri p.token) (p.move (.failed failure)) [] []
  /-- The pass ends. -/
  | ends (r : Except PassError PassOutcome) (hleaving : p.point = .leaving r) :
      Effect sink b p (b.finish p.document.uri p.token) (p.move (.ended r)) [] []

theorem Effect.goesOn_of_point {sink : Sink} {b : Board} {p : Pass} {q₀ q : Point}
    (hpoint : p.point = q₀) (hfrom : q₀.holdsStage) (hto : q.isUnderWay)
    (hentered : q.entered = q₀.entered) : Effect sink b p b (p.move q) [] [] :=
  .goesOn q (by rwa [hpoint]) hto (by rw [hpoint, hentered])

theorem Effect.breaksOff_of_point {sink : Sink} {b : Board} {p : Pass} {q : Point}
    (hpoint : p.point = q) (hfrom : q.isUnderWay) (e : PassError) :
    Effect sink b p b (p.move (.leaving (.error e))) [] [] :=
  .gives (.error e) (by rwa [hpoint]) (by simp)

section

variable {ctx : PassContext} {sink : Sink} {sh : Shared} {p : Pass} {a : PassAction}

/-! ## Entering a stage and handing a set over -/

theorem enter_of_current (h : sh.board.generation p.document.uri = p.token)
    (s : ValidationStage) (q : Point) :
    enter sh p s q =
      ⟨{ sh with board := sh.board.setStage p.document.uri (some s) }, p.move q, []⟩ := by
  simp [enter, Board.advance, Board.isCurrent, h]

theorem enter_of_stale (h : sh.board.generation p.document.uri ≠ p.token)
    (s : ValidationStage) (q : Point) : enter sh p s q = supersededChange sh p := by
  simp [enter, Board.advance, Board.isCurrent, h]

theorem publishAs_of_current (h : sh.board.generation p.document.uri = p.token)
    (ds : List Diagnostic) (o : PassOutcome) (log : List LogRecord) :
    publishAs sink sh p ds o log =
      ⟨{ sh with board := (sh.board.publish sink p.document.uri p.token ds).1 },
        p.move (.leaving (match sink ⟨p.document.uri, ds⟩ with
          | none => .ok o
          | some fault => .error (.sink fault))),
        match sink ⟨p.document.uri, ds⟩ with
          | none => log
          | some _ => []⟩ := by
  cases hsink : sink ⟨p.document.uri, ds⟩ <;>
    simp [publishAs, Board.publish, Board.isCurrent, h, hsink]

theorem publishAs_of_stale (h : sh.board.generation p.document.uri ≠ p.token)
    (ds : List Diagnostic) (o : PassOutcome) (log : List LogRecord) :
    publishAs sink sh p ds o log = supersededChange sh p := by
  simp [publishAs, Board.publish, Board.isCurrent, h]

/-! ## Kinds of actions -/

/-- An action that leaves the board alone stores nothing and hands nothing over. -/
theorem stores_offers_of_board_eq
    (h : ∀ sh' : Shared, sh'.board.generation = sh.board.generation →
      (p.act ctx .keeping sh' a).shared.board = sh'.board) :
    p.stores ctx sh a = [] ∧ p.offers ctx sh a = [] := by
  have hoffers : p.offers ctx sh a = [] := by
    rw [offers, h sh rfl, List.drop_length]
  refine ⟨?_, hoffers⟩
  have hblank := h { sh with board := sh.board.setStage p.document.uri none } rfl
  simp only [stores, hoffers, hblank]
  simp [Board.stage_setStage]

theorem effect_of_board_eq {q : Pass}
    (h : ∀ sink' sh', (p.act ctx sink' sh' a).shared.board = sh'.board)
    (hpass : (p.act ctx sink sh a).pass = q)
    (heffect : Effect sink sh.board p sh.board q [] []) :
    Effect sink sh.board p (p.act ctx sink sh a).shared.board (p.act ctx sink sh a).pass
      (p.stores ctx sh a) (p.offers ctx sh a) := by
  have hnothing : p.stores ctx sh a = [] ∧ p.offers ctx sh a = [] :=
    stores_offers_of_board_eq fun sh' _ => h .keeping sh'
  rw [hnothing.1, hnothing.2, h, hpass]
  exact heffect

/-- An action that does not fit the point where the pass stands. -/
theorem effect_of_unfit (h : ∀ sink' sh', p.act ctx sink' sh' a = ⟨sh', p, []⟩) :
    Effect sink sh.board p (p.act ctx sink sh a).shared.board (p.act ctx sink sh a).pass
      (p.stores ctx sh a) (p.offers ctx sh a) :=
  effect_of_board_eq (fun _ _ => by rw [h]) (by rw [h]) .waits

theorem effect_of_superseded (hfrom : p.point.isUnderWay)
    (hstale : sh.board.generation p.document.uri ≠ p.token)
    (h : ∀ sink' sh', sh'.board.generation p.document.uri ≠ p.token →
      p.act ctx sink' sh' a = supersededChange sh' p) :
    Effect sink sh.board p (p.act ctx sink sh a).shared.board (p.act ctx sink sh a).pass
      (p.stores ctx sh a) (p.offers ctx sh a) := by
  have hnothing : p.stores ctx sh a = [] ∧ p.offers ctx sh a = [] :=
    stores_offers_of_board_eq fun sh' hsh' => by
      rw [h .keeping sh' (by rwa [hsh'])]
      rfl
  rw [hnothing.1, hnothing.2, h sink sh hstale]
  refine .gives _ hfrom fun o ho => ?_
  obtain rfl := Except.ok.inj ho
  exact .inl ⟨rfl, hstale⟩

theorem effect_of_enter {s : ValidationStage} {q₀ q : Point} {st : List ValidationStage}
    (h : ∀ sink' sh', p.act ctx sink' sh' a = enter sh' p s q) (hpoint : p.point = q₀)
    (hfrom : q₀.isUnderWay) (hto : q.isUnderWay) (hbefore : q₀.entered = some st)
    (hafter : q.entered = some (st ++ [s])) :
    Effect sink sh.board p (p.act ctx sink sh a).shared.board (p.act ctx sink sh a).pass
      (p.stores ctx sh a) (p.offers ctx sh a) := by
  subst hpoint
  by_cases hcurrent : sh.board.generation p.document.uri = p.token
  · have hoffers : p.offers ctx sh a = [] := by
      rw [offers, h, enter_of_current hcurrent]
      simp
    have hstores : p.stores ctx sh a = [s] := by
      rw [stores, hoffers, h, enter_of_current (by simpa using hcurrent)]
      simp [Board.stage_setStage]
    rw [hoffers, hstores, h, enter_of_current hcurrent]
    exact .enters s q st hcurrent hfrom hto hbefore hafter
  · refine effect_of_superseded hfrom hcurrent fun sink' sh' hstale => ?_
    rw [h, enter_of_stale hstale]

theorem offers_of_publishAs {ds : List Diagnostic} {o : PassOutcome} {log : List LogRecord}
    (h : ∀ sink' sh', p.act ctx sink' sh' a = publishAs sink' sh' p ds o log) :
    p.offers ctx sh a =
      if sh.board.generation p.document.uri = p.token then [⟨p.document.uri, ds⟩] else [] := by
  rw [offers, h]
  split
  next hcurrent =>
    rw [publishAs_of_current hcurrent]
    simp [Board.history_publish _ _ _ _ _ hcurrent, Sink.keeping]
  next hstale =>
    rw [publishAs_of_stale hstale]
    exact List.drop_length

theorem effect_of_publishAs {o : PassOutcome} {log : List LogRecord}
    (h : ∀ sink' sh', p.act ctx sink' sh' a = publishAs sink' sh' p o.diagnostics o log)
    (hfrom : p.Offering o) :
    Effect sink sh.board p (p.act ctx sink sh a).shared.board (p.act ctx sink sh a).pass
      (p.stores ctx sh a) (p.offers ctx sh a) := by
  by_cases hcurrent : sh.board.generation p.document.uri = p.token
  · have hoffers : p.offers ctx sh a = [⟨p.document.uri, o.diagnostics⟩] := by
      rw [offers_of_publishAs h, if_pos hcurrent]
    have hstores : p.stores ctx sh a = [.publishing] := by
      rw [stores, hoffers, h, publishAs_of_current (by simpa using hcurrent)]
      simp [Board.stage_publish, Board.stage_setStage]
    rw [hoffers, hstores, h, publishAs_of_current hcurrent]
    exact .delivers o hcurrent hfrom
  · refine effect_of_superseded hfrom.isUnderWay hcurrent fun sink' sh' hstale => ?_
    rw [h, publishAs_of_stale hstale]

/-- An action that leaves the stage of the document. -/
theorem effect_of_finish {q : Pass}
    (h : ∀ sink' sh', (p.act ctx sink' sh' a).shared.board =
      sh'.board.finish p.document.uri p.token)
    (hpass : (p.act ctx sink sh a).pass = q)
    (heffect : Effect sink sh.board p (sh.board.finish p.document.uri p.token) q [] []) :
    Effect sink sh.board p (p.act ctx sink sh a).shared.board (p.act ctx sink sh a).pass
      (p.stores ctx sh a) (p.offers ctx sh a) := by
  have hoffers : p.offers ctx sh a = [] := by
    simp [offers, h]
  have hstores : p.stores ctx sh a = [] := by
    simp [stores, hoffers, h, Board.stage_finish, Board.stage_setStage]
  rw [hstores, hoffers, h, hpass]
  exact heffect

/-! ## Every action -/

/-- Nothing but a step of the pass itself reaches the board. -/
theorem board_act_of_ne_proceed (h : a ≠ .proceed) :
    (p.act ctx sink sh a).shared.board = sh.board := by
  cases a with
  | proceed => exact absurd rfl h
  | linted answer =>
      simp only [act]
      split
      · rfl
      · simp only [afterFailure]
        split <;> rfl
      · rfl
      · rfl
  | _ =>
      simp only [act]
      split <;> rfl

theorem effect_answer (h : a ≠ .proceed) :
    Effect sink sh.board p (p.act ctx sink sh a).shared.board (p.act ctx sink sh a).pass
      (p.stores ctx sh a) (p.offers ctx sh a) := by
  refine effect_of_board_eq (fun _ _ => board_act_of_ne_proceed h) rfl ?_
  cases a with
  | proceed => exact absurd rfl h
  | wake =>
      simp only [act]
      split
      next hpoint => exact .goesOn_of_point hpoint rfl rfl rfl
      next => exact .waits
  | fetched answer =>
      simp only [act]
      split
      next hpoint => exact .goesOn_of_point hpoint rfl rfl rfl
      next => exact .waits
  | linted answer =>
      simp only [act]
      split
      next hpoint => exact .goesOn_of_point hpoint rfl rfl rfl
      next hpoint =>
        simp only [afterFailure]
        split
        · exact .goesOn_of_point hpoint rfl rfl rfl
        · exact .goesOn_of_point hpoint rfl rfl rfl
      next hpoint => exact .breaksOff_of_point hpoint rfl _
      next => exact .waits
  | poll job =>
      simp only [act]
      split
      next hpoint => exact .goesOn_of_point hpoint rfl rfl rfl
      next => exact .waits
  | replied job reply =>
      simp only [act]
      split
      next hpoint => exact .goesOn_of_point hpoint rfl rfl rfl
      next => exact .waits
  | interrupted fault =>
      simp only [act]
      split
      next hpoint => exact .breaksOff_of_point hpoint rfl _
      next hpoint => exact .breaksOff_of_point hpoint rfl _
      next hpoint => exact .breaksOff_of_point hpoint rfl _
      next => exact .waits

theorem effect_proceed :
    Effect sink sh.board p (p.act ctx sink sh .proceed).shared.board
      (p.act ctx sink sh .proceed).pass (p.stores ctx sh .proceed) (p.offers ctx sh .proceed) := by
  have hact : ∀ sink' sh', p.act ctx sink' sh' .proceed = p.proceed ctx sink' sh' :=
    fun _ _ => rfl
  cases hpoint : p.point with
  | queued =>
      have hproceed : ∀ sink' sh', p.act ctx sink' sh' .proceed =
          ⟨{ sh' with board := sh'.board.supersede p.document.uri },
            { p with token := sh'.board.generation p.document.uri + 1, point := .begun }, []⟩ :=
        fun _ _ => by simp only [hact, proceed, hpoint, Board.begin']
      have hoffers : p.offers ctx sh .proceed = [] := by
        simp [offers, hproceed]
      have hstores : p.stores ctx sh .proceed = [] := by
        simp [stores, hoffers, hproceed, Board.stage_supersede]
      rw [hoffers, hstores, hproceed]
      exact .begins hpoint
  | begun =>
      refine effect_of_board_eq (fun _ _ => ?_) rfl ?_
      · simp only [hact, proceed, hpoint]
        split <;> rfl
      · simp only [hact, proceed, hpoint]
        split
        · exact .goesOn_of_point hpoint rfl rfl rfl
        · exact .goesOn_of_point hpoint rfl rfl rfl
  | woken =>
      by_cases hcurrent : sh.board.generation p.document.uri = p.token
      · refine effect_of_board_eq (fun _ _ => ?_) rfl ?_
        · simp only [hact, proceed, hpoint]
          split <;> rfl
        · simp only [hact, proceed, hpoint, Board.isCurrent_eq_true_iff, if_pos hcurrent]
          exact .goesOn_of_point hpoint rfl rfl rfl
      · refine effect_of_superseded (by rw [hpoint]; rfl) hcurrent fun _ _ hstale => ?_
        simp only [hact, proceed, hpoint, Board.isCurrent_eq_true_iff, if_neg hstale]
  | reading r =>
      refine effect_of_board_eq (fun _ _ => ?_) rfl ?_
      · simp only [hact, proceed, hpoint]
        split <;> rfl
      · simp only [hact, proceed, hpoint]
        split
        · exact .goesOn_of_point hpoint rfl rfl rfl
        · exact .breaksOff_of_point hpoint rfl _
        · exact .goesOn_of_point hpoint rfl rfl rfl
  | settled s =>
      have hproceed : ∀ sink' sh', p.act ctx sink' sh' .proceed =
          enter sh' p .linting (.linting s) := fun _ _ => by simp only [hact, proceed, hpoint]
      exact effect_of_enter hproceed hpoint rfl rfl rfl rfl
  | linted s output =>
      have hproceed : ∀ sink' sh', p.act ctx sink' sh' .proceed =
          enter sh' p .parsing (.parsing s output) :=
        fun _ _ => by simp only [hact, proceed, hpoint]
      exact effect_of_enter hproceed hpoint rfl rfl rfl rfl
  | parsing s output =>
      refine effect_of_board_eq (fun _ _ => ?_) rfl ?_
      · simp only [hact, proceed, hpoint, read]
        split <;> rfl
      · simp only [hact, proceed, hpoint, read]
        split
        · exact .breaksOff_of_point hpoint rfl _
        · exact .goesOn_of_point hpoint rfl rfl rfl
  | parsed s findings =>
      have hproceed : ∀ sink' sh', p.act ctx sink' sh' .proceed =
          enter sh' p .enriching (.enriching
            (.start ctx.suggestions findings p.document.text s.maxProblems)) :=
        fun _ _ => by simp only [hact, proceed, hpoint]
      exact effect_of_enter hproceed hpoint rfl rfl rfl rfl
  | enriching e =>
      refine effect_of_board_eq (fun _ _ => ?_) rfl ?_
      · simp only [hact, proceed, hpoint, collect]
        split
        · split <;> rfl
        · rfl
      · simp only [hact, proceed, hpoint, collect]
        split
        · split
          · exact .breaksOff_of_point hpoint rfl _
          · exact .goesOn_of_point hpoint rfl rfl rfl
        · exact .waits
  | publishing ds =>
      let o : PassOutcome := ⟨p.document.uri, .published, ds, none⟩
      have hproceed : ∀ sink' sh', p.act ctx sink' sh' .proceed =
          publishAs sink' sh' p o.diagnostics o
            [⟨.debug, s!"published {ds.length} diagnostics for " ++ p.document.uri⟩] :=
        fun _ _ => by simp only [hact, proceed, hpoint, o]
      exact effect_of_publishAs hproceed (.inl ⟨hpoint, rfl⟩)
  | clearing failure =>
      let o : PassOutcome := ⟨p.document.uri, .cleared, [], some failure⟩
      have hproceed : ∀ sink' sh', p.act ctx sink' sh' .proceed =
          publishAs sink' sh' p o.diagnostics o [] :=
        fun _ _ => by simp only [hact, proceed, hpoint, o]
      exact effect_of_publishAs hproceed (.inr ⟨failure, hpoint, rfl, rfl⟩)
  | failing failure =>
      exact effect_of_finish (fun _ _ => by simp only [hact, proceed, hpoint])
        (by simp only [hact, proceed, hpoint]) (.leavesStage failure hpoint)
  | failed failure =>
      by_cases hcurrent : sh.board.generation p.document.uri = p.token
      · refine effect_of_board_eq (fun _ _ => ?_) rfl ?_
        · simp only [hact, proceed, hpoint]
          split <;> rfl
        · simp only [hact, proceed, hpoint, Board.isCurrent_eq_true_iff, if_pos hcurrent]
          refine .gives _ (by rw [hpoint]; rfl) fun o ho => ?_
          obtain rfl := Except.ok.inj ho
          exact .inr ⟨rfl, hcurrent⟩
      · refine effect_of_superseded (by rw [hpoint]; rfl) hcurrent fun _ _ hstale => ?_
        simp only [hact, proceed, hpoint, Board.isCurrent_eq_true_iff, if_neg hstale]
  | leaving r =>
      exact effect_of_finish (fun _ _ => by simp only [hact, proceed, hpoint])
        (by simp only [hact, proceed, hpoint]) (.ends r hpoint)
  | dozing | linting s | ended r =>
      exact effect_of_unfit fun _ _ => by simp only [hact, proceed, hpoint]

/-- **What an action can do.** Every action has one of the effects. -/
theorem effect_act :
    Effect sink sh.board p (p.act ctx sink sh a).shared.board (p.act ctx sink sh a).pass
      (p.stores ctx sh a) (p.offers ctx sh a) := by
  by_cases h : a = .proceed
  · subst h
    exact effect_proceed
  · exact effect_answer h

end

/-- A pass that stands before the sink hands its set over with its next step exactly
if its token is the current one. -/
theorem offers_of_offering {ctx : PassContext} {sh : Shared} {p : Pass} {o : PassOutcome}
    (h : p.Offering o) : p.offers ctx sh .proceed =
      if sh.board.generation p.document.uri = p.token then
        [⟨p.document.uri, o.diagnostics⟩]
      else
        [] := by
  have hact : ∃ o' log, ∀ sink' sh', p.act ctx sink' sh' .proceed =
      publishAs sink' sh' p o.diagnostics o' log := by
    rcases h with ⟨hpoint, -⟩ | ⟨failure, hpoint, hempty, -⟩
    · exact ⟨_, _, fun _ _ => by simp only [act, proceed, hpoint]; rfl⟩
    · exact ⟨_, _, fun _ _ => by simp only [act, proceed, hpoint, hempty]; rfl⟩
  obtain ⟨o', log, hact⟩ := hact
  exact offers_of_publishAs hact

/-! ## What follows from an effect -/

namespace Effect

variable {sink : Sink} {b b' : Board} {p p' : Pass} {st : List ValidationStage}
  {xs : List Publication}

theorem document_eq (h : Effect sink b p b' p' st xs) : p'.document = p.document := by
  cases h <;> rfl

/-- A generation changes only when a pass takes its token, which is the new one;
nothing else changes a token. -/
theorem token_cases (h : Effect sink b p b' p' st xs) :
    (b'.generation = b.generation ∧ p'.token = p.token ∧
      (p'.point = .queued ↔ p.point = .queued)) ∨
    (b'.generation = (b.supersede p.document.uri).generation ∧
      p'.token = b.generation p.document.uri + 1 ∧ p.point = .queued ∧ p'.point = .begun) := by
  cases h with
  | begins hqueued => exact .inr ⟨rfl, rfl, hqueued, rfl⟩
  | waits => exact .inl ⟨rfl, rfl, Iff.rfl⟩
  | goesOn q hfrom hto =>
      exact .inl ⟨rfl, rfl, iff_of_false (Point.ne_queued hto)
        (Point.ne_queued (Point.isUnderWay_of_holdsStage hfrom))⟩
  | enters s q _ _ hfrom hto =>
      exact .inl ⟨rfl, rfl, iff_of_false (Point.ne_queued hto) (Point.ne_queued hfrom)⟩
  | delivers o _ hfrom =>
      exact .inl ⟨Board.generation_publish .., rfl,
        iff_of_false Point.noConfusion (Point.ne_queued hfrom.isUnderWay)⟩
  | gives r hfrom =>
      exact .inl ⟨rfl, rfl, iff_of_false Point.noConfusion (Point.ne_queued hfrom)⟩
  | leavesStage failure hp =>
      exact .inl ⟨Board.generation_finish .., rfl,
        iff_of_false Point.noConfusion (by rw [hp]; exact Point.noConfusion)⟩
  | ends r hp =>
      exact .inl ⟨Board.generation_finish .., rfl,
        iff_of_false Point.noConfusion (by rw [hp]; exact Point.noConfusion)⟩

/-- A pass that has begun keeps its token, and generations stay. -/
theorem token_of_begun (h : Effect sink b p b' p' st xs) (hbegun : p.point ≠ .queued) :
    b'.generation = b.generation ∧ p'.token = p.token ∧ p'.point ≠ .queued := by
  rcases h.token_cases with ⟨hgeneration, htoken, hpoint⟩ | ⟨-, -, hqueued, -⟩
  · exact ⟨hgeneration, htoken, fun hqueued => hbegun (hpoint.mp hqueued)⟩
  · exact absurd hqueued hbegun

/-- A result stays, and nothing is handed over after it. -/
theorem isOver (h : Effect sink b p b' p' st xs) (hover : p.point.isOver) :
    p'.point.isOver ∧ xs = [] := by
  have hrested : ¬ p.point.isUnderWay := by
    cases hp : p.point <;> simp_all [Point.isOver, Point.isUnderWay]
  cases h with
  | begins hqueued =>
      rw [hqueued] at hover
      cases hover
  | waits => exact ⟨hover, rfl⟩
  | goesOn q hfrom => exact absurd (Point.isUnderWay_of_holdsStage hfrom) hrested
  | enters s q _ _ hfrom => exact absurd hfrom hrested
  | delivers o _ hfrom => exact absurd hfrom.isUnderWay hrested
  | gives r hfrom => exact absurd hfrom hrested
  | leavesStage failure hp =>
      rw [hp] at hover
      cases hover
  | ends r hp => exact ⟨rfl, rfl⟩

theorem eq_of_ended (h : Effect sink b p b' p' st xs) (hended : p.result?.isSome) : p' = p := by
  obtain ⟨result, hp⟩ : ∃ result, p.point = .ended result := by
    cases hp : p.point <;> simp_all [result?]
  have hrested : ¬ p.point.isUnderWay := by
    rw [hp]
    exact Bool.noConfusion
  cases h with
  | begins hqueued => cases hp.symm.trans hqueued
  | waits => rfl
  | goesOn q hfrom => exact absurd (Point.isUnderWay_of_holdsStage hfrom) hrested
  | enters s q _ _ hfrom => exact absurd hfrom hrested
  | delivers o _ hfrom => exact absurd hfrom.isUnderWay hrested
  | gives r hfrom => exact absurd hfrom hrested
  | leavesStage failure hfailing => cases hp.symm.trans hfailing
  | ends r hleaving => cases hp.symm.trans hleaving

/-- Either nothing is handed over, or one set is, under the current token; the pass
then has its result. -/
theorem offer_cases (h : Effect sink b p b' p' st xs) :
    (xs = [] ∧ b'.history = b.history) ∨
    ∃ ds, xs = [⟨p.document.uri, ds⟩] ∧ b.generation p.document.uri = p.token ∧
      p.point.isUnderWay ∧ p'.point.isOver ∧
      b' = (b.publish sink p.document.uri p.token ds).1 := by
  cases h with
  | begins hqueued => exact .inl ⟨rfl, rfl⟩
  | waits => exact .inl ⟨rfl, rfl⟩
  | goesOn => exact .inl ⟨rfl, rfl⟩
  | enters => exact .inl ⟨rfl, rfl⟩
  | delivers o hcurrent hfrom =>
      exact .inr ⟨o.diagnostics, rfl, hcurrent, hfrom.isUnderWay, rfl, rfl⟩
  | gives => exact .inl ⟨rfl, rfl⟩
  | leavesStage => exact .inl ⟨rfl, Board.history_finish ..⟩
  | ends => exact .inl ⟨rfl, Board.history_finish ..⟩

end Effect

theorem document_act (ctx : PassContext) (sink : Sink) (sh : Shared) (p : Pass)
    (a : PassAction) : (p.act ctx sink sh a).pass.document = p.document :=
  effect_act.document_eq

end LintRelay.Pass
