import LintRelay.Proofs.Validation.Tokens

/-!
# Stages are kept exactly

A stage stands on the board only while the pass that stored it last has the current
token and has not ended, and while such a pass holds its stage, the stage does stand.
So passes that were superseded change no stage, and nothing is left when all have
ended, however they end.
-/

namespace LintRelay

namespace Pass

/-- The stages of a pass in their order. -/
def allStages : List ValidationStage :=
  [.linting, .parsing, .enriching, .publishing]

/-- The stages that a pass may have stored when it stands at a point. -/
def Point.Admits (q : Point) (st : List ValidationStage) : Prop :=
  match q.entered with
  | some entered => st = entered
  | none => st.Sublist allStages

theorem Point.admits_of_entered {q : Point} {entered : List ValidationStage}
    (hentered : q.entered = some entered) (st : List ValidationStage) :
    q.Admits st ↔ st = entered := by
  rw [Admits, hentered]

theorem Point.Admits.sublist {q : Point} {st : List ValidationStage} (h : q.Admits st) :
    st.Sublist allStages := by
  cases q <;> simp only [Admits, entered] at h <;> first | exact h | (subst h; decide)

theorem Point.Admits.entered_eq {q : Point} {st : List ValidationStage} (h : q.Admits st)
    (hholds : q.holdsStage) : q.entered = some st := by
  cases q <;> first | exact congrArg some (Eq.symm h) | cases hholds

/-- What an action stores comes after what the pass stored before. -/
theorem Effect.admits {sink : Sink} {b b' : Board} {p p' : Pass} {st : List ValidationStage}
    {xs : List Publication} (h : Effect sink b p b' p' st xs) {before : List ValidationStage}
    (hbefore : p.point.Admits before) : p'.point.Admits (before ++ st) := by
  cases h with
  | begins hqueued =>
      rw [Point.admits_of_entered (by rw [hqueued]; rfl)] at hbefore
      rw [hbefore]
      rfl
  | waits => rwa [List.append_nil]
  | goesOn q _ _ hentered =>
      rw [List.append_nil]
      simpa only [Point.Admits, move, hentered] using hbefore
  | enters s q entered _ _ _ hentered hafter =>
      rw [Point.admits_of_entered hentered] at hbefore
      exact (Point.admits_of_entered hafter _).mpr (by rw [hbefore])
  | delivers o _ hfrom =>
      rcases hfrom with ⟨hp, -⟩ | ⟨failure, hp, -⟩
      · rw [Point.admits_of_entered (by rw [hp]; rfl)] at hbefore
        rw [hbefore]
        exact List.Sublist.refl allStages
      · rw [Point.admits_of_entered (by rw [hp]; rfl)] at hbefore
        rw [hbefore]
        exact (by decide : [ValidationStage.linting, .publishing].Sublist allStages)
  | gives r =>
      rw [List.append_nil]
      exact hbefore.sublist
  | leavesStage failure hp =>
      rw [Point.admits_of_entered (by rw [hp]; rfl)] at hbefore
      rw [hbefore]
      rfl
  | ends r =>
      rw [List.append_nil]
      exact hbefore.sublist

/-- A pass that has no token or one that is not current changes no stage, unless it
takes the next one. -/
theorem Effect.stage_of_stale {sink : Sink} {b b' : Board} {p p' : Pass}
    {st : List ValidationStage} {xs : List Publication} (h : Effect sink b p b' p' st xs)
    (hgeneration : b'.generation = b.generation)
    (hstale : p.point ≠ .queued → b.generation p.document.uri ≠ p.token) :
    b'.stage = b.stage := by
  have hfinish : p.point ≠ .queued →
      (b.finish p.document.uri p.token).stage = b.stage := by
    intro hbegun
    funext u
    rw [Board.stage_finish, if_neg fun h => hstale hbegun h.2]
  cases h with
  | begins =>
      have hnext := congrFun hgeneration p.document.uri
      rw [Board.generation_supersede, if_pos rfl] at hnext
      omega
  | waits => rfl
  | goesOn => rfl
  | enters _ _ _ hcurrent hfrom => exact absurd hcurrent (hstale (Point.ne_queued hfrom))
  | delivers _ hcurrent hfrom =>
      exact absurd hcurrent (hstale (Point.ne_queued hfrom.isUnderWay))
  | gives => rfl
  | leavesStage _ hp => exact hfinish (by rw [hp]; exact Point.noConfusion)
  | ends _ hp => exact hfinish (by rw [hp]; exact Point.noConfusion)

/-- An action changes no stage but the one of the pass's document. -/
theorem Effect.stage_of_ne {sink : Sink} {b b' : Board} {p p' : Pass}
    {st : List ValidationStage} {xs : List Publication} (h : Effect sink b p b' p' st xs)
    {uri : String} (hother : uri ≠ p.document.uri) : b'.stage uri = b.stage uri := by
  cases h with
  | begins => rw [Board.stage_supersede, if_neg hother]
  | waits => rfl
  | goesOn => rfl
  | enters => rw [Board.stage_setStage, if_neg hother]
  | delivers => rw [Board.stage_publish, if_neg fun h => hother h.1]
  | gives => rfl
  | leavesStage => rw [Board.stage_finish, if_neg fun h => hother h.1]
  | ends => rw [Board.stage_finish, if_neg fun h => hother h.1]

/-- If the stage that a pass holds stood before, the one that it holds then stands
afterwards. -/
theorem Effect.stage_of_current {sink : Sink} {b b' : Board} {p p' : Pass}
    {st : List ValidationStage} {xs : List Publication} (h : Effect sink b p b' p' st xs)
    {before : List ValidationStage} (hbefore : p.point.Admits before)
    (hstands : p.point.holdsStage → p.token = b.generation p.document.uri →
      b.stage p.document.uri = before.getLast?)
    (hholds : p'.point.holdsStage) (hcurrent : p'.token = b'.generation p.document.uri) :
    b'.stage p.document.uri = (before ++ st).getLast? := by
  cases h with
  | begins hqueued =>
      rw [Point.admits_of_entered (by rw [hqueued]; rfl)] at hbefore
      rw [hbefore, Board.stage_supersede, if_pos rfl]
      rfl
  | waits =>
      rw [List.append_nil]
      exact hstands hholds hcurrent
  | goesOn q hfrom =>
      rw [List.append_nil]
      exact hstands hfrom hcurrent
  | enters s => rw [Board.stage_setStage, if_pos rfl, List.getLast?_concat]
  | delivers => cases hholds
  | gives => cases hholds
  | leavesStage => cases hholds
  | ends => cases hholds

theorem result?_of_isUnderWay {p : Pass} (h : p.point.isUnderWay) : p.result? = none := by
  cases hp : p.point <;> simp_all [result?, Point.isUnderWay]

end Pass

/-- A pass stands behind the stage of a document: it has begun and not ended, its
token is the current one, and the stage is the last that it stored. -/
structure PassRecord.StandsBehind (r : PassRecord) (b : Board) (uri : String)
    (stage : ValidationStage) : Prop where
  isOf : r.uri = uri
  begun : r.pass.point ≠ .queued
  unfinished : r.pass.result? = none
  current : r.pass.token = b.generation uri
  last : r.stages.getLast? = some stage

namespace Session

/-- Behind every stage on the board stands a pass. -/
def Staged (b : Board) (rs : List PassRecord) : Prop :=
  ∀ uri stage, b.stage uri = some stage →
    ∃ (i : Nat) (r : PassRecord), rs[i]? = some r ∧ r.StandsBehind b uri stage

section

variable {workers : Nat} {m : Move} {b b' : Board} {rs rs' : List PassRecord}
  {ds ds' : List Delivery}

/-- When one pass moves, it must stand behind what is new, and behind what it stood
behind before unless that is gone. -/
theorem Staged.set (h : Staged b rs) {i : Nat} {r r' : PassRecord} (hget : rs[i]? = some r)
    (hnew : ∀ uri stage, b'.stage uri = some stage → r'.StandsBehind b' uri stage ∨
      b.stage uri = some stage ∧ b'.generation uri = b.generation uri ∧
        (r.StandsBehind b uri stage → r'.StandsBehind b' uri stage)) :
    Staged b' (rs.set i r') := by
  intro uri stage hstage
  have hget' : (rs.set i r')[i]? = some r' := by
    rw [getElem?_set_of_getElem? hget, if_pos rfl]
  rcases hnew uri stage hstage with hbehind | ⟨hold, hgeneration, hsame⟩
  · exact ⟨i, r', hget', hbehind⟩
  obtain ⟨j, q, hq, hbehind⟩ := h uri stage hold
  by_cases hj : j = i
  · subst hj
    obtain rfl := Option.some.inj (hq.symm.trans hget)
    exact ⟨j, r', hget', hsame hbehind⟩
  · refine ⟨j, q, by rw [getElem?_set_of_getElem? hget, if_neg hj, hq], ?_⟩
    exact ⟨hbehind.isOf, hbehind.begun, hbehind.unfinished, by rw [hgeneration, hbehind.current],
      hbehind.last⟩

theorem Staged.acts (h : Staged b rs) {i : Nat} {r : PassRecord} {sink : Sink} {p : Pass}
    {st : List ValidationStage} {xs : List Publication} (hget : rs[i]? = some r)
    (heffect : Pass.Effect sink b r.pass b' p st xs) :
    Staged b' (rs.set i { r with pass := p, stages := r.stages ++ st }) := by
  -- a stage that stands after the pass left its own is one that the pass did not hold
  have hleaves : ∀ (b₁ : Board) (r' : PassRecord), b₁.generation = b.generation →
      (∀ u, b₁.stage u =
        if u = r.uri ∧ b.generation r.uri = r.pass.token then none else b.stage u) →
      Staged b₁ (rs.set i r') := by
    intro b₁ r' hgeneration hleft
    refine h.set hget fun uri stage hstage => .inr ?_
    rw [hleft] at hstage
    split at hstage
    next => cases hstage
    next hother =>
      refine ⟨hstage, by rw [hgeneration], fun hbehind => absurd ?_ hother⟩
      have hcurrent := hbehind.current
      rw [← hbehind.isOf] at hcurrent
      exact ⟨hbehind.isOf.symm, hcurrent.symm⟩
  cases heffect with
  | begins hqueued =>
      refine h.set hget fun uri stage hstage => .inr ?_
      rw [Board.stage_supersede] at hstage
      split at hstage
      next => cases hstage
      next hother =>
        refine ⟨hstage, by rw [Board.generation_supersede, if_neg hother], fun hbehind => ?_⟩
        exact absurd hqueued hbehind.begun
  | waits =>
      refine h.set hget fun uri stage hstage => .inr ⟨hstage, rfl, fun hbehind => ?_⟩
      rwa [List.append_nil]
  | goesOn q _ hto =>
      refine h.set hget fun uri stage hstage => .inr ⟨hstage, rfl, fun hbehind => ?_⟩
      rw [List.append_nil]
      exact ⟨hbehind.isOf, Pass.Point.ne_queued hto, Pass.result?_of_isUnderWay hto,
        hbehind.current, hbehind.last⟩
  | enters s q _ hcurrent _ hto =>
      refine h.set hget fun uri stage hstage => ?_
      rw [Board.stage_setStage] at hstage
      split at hstage
      next huri =>
        subst huri
        refine .inl ⟨rfl, Pass.Point.ne_queued hto, Pass.result?_of_isUnderWay hto,
          hcurrent.symm, ?_⟩
        rw [← Option.some.inj hstage]
        exact List.getLast?_concat
      next hother =>
        exact .inr ⟨hstage, rfl, fun hbehind => absurd hbehind.isOf.symm hother⟩
  | delivers o _ _ =>
      exact hleaves _ _ (b.generation_publish ..) fun u => b.stage_publish ..
  | gives result hfrom =>
      refine h.set hget fun uri stage hstage => .inr ⟨hstage, rfl, fun hbehind => ?_⟩
      rw [List.append_nil]
      exact ⟨hbehind.isOf, Pass.Point.noConfusion, rfl, hbehind.current, hbehind.last⟩
  | leavesStage => exact hleaves _ _ (b.generation_finish ..) fun u => b.stage_finish ..
  | ends => exact hleaves _ _ (b.generation_finish ..) fun u => b.stage_finish ..

theorem Staged.step (h : Staged b rs) (heffect : Effect workers m b rs ds b' rs' ds') :
    Staged b' rs' := by
  cases heffect with
  | rests => exact h
  | supersedes uri =>
      intro u stage hstage
      rw [Board.stage_supersede] at hstage
      split at hstage
      next => cases hstage
      next hother =>
        obtain ⟨i, r, hget, hbehind⟩ := h u stage hstage
        refine ⟨i, r, hget, hbehind.isOf, hbehind.begun, hbehind.unfinished, ?_, hbehind.last⟩
        rw [Board.generation_supersede, if_neg hother, hbehind.current]
  | joins r =>
      intro u stage hstage
      obtain ⟨i, q, hget, hbehind⟩ := h u stage hstage
      obtain ⟨hi, -⟩ := List.getElem?_eq_some_iff.mp hget
      exact ⟨i, q, by rw [List.getElem?_append_left hi, hget], hbehind⟩
  | acts i r sink hget heffect => exact h.acts hget heffect

/-- While the sink has a set, its pass stands behind the stage on the board. -/
theorem Staged.handingOver (h : Staged b rs) {i : Nat} {r : PassRecord}
    (hget : rs[i]? = some r) (hway : r.pass.point.isUnderWay)
    (hcurrent : b.generation r.uri = r.pass.token) :
    Staged (b.handingOver r.uri)
      (rs.set i { r with stages := r.stages ++ [.publishing] }) := by
  refine h.set hget fun uri stage hstage => ?_
  rw [Board.handingOver, Board.stage_setStage] at hstage
  split at hstage
  next huri =>
    subst huri
    refine .inl ⟨rfl, Pass.Point.ne_queued hway, Pass.result?_of_isUnderWay hway,
      hcurrent.symm, ?_⟩
    rw [← Option.some.inj hstage]
    exact List.getLast?_concat
  next hother => exact .inr ⟨hstage, rfl, fun hbehind => absurd hbehind.isOf.symm hother⟩

/-- The passes have stored what the points where they stand admit. -/
def Admitted (rs : List PassRecord) : Prop :=
  ∀ r ∈ rs, r.pass.point.Admits r.stages

theorem Admitted.step (h : Admitted rs) (heffect : Effect workers m b rs ds b' rs' ds') :
    Admitted rs' := by
  cases heffect with
  | rests => exact h
  | supersedes => exact h
  | joins r hqueued hstages =>
      intro q hq
      rcases List.mem_append.mp hq with hq | hq
      · exact h q hq
      · obtain rfl := List.mem_singleton.mp hq
        exact (Pass.Point.admits_of_entered (by rw [hqueued]; rfl) _).mpr hstages
  | acts i r sink hget heffect =>
      intro q hq
      rcases List.mem_or_eq_of_mem_set hq with hq | rfl
      · exact h q hq
      · exact heffect.admits (h r (List.mem_of_getElem? hget))

/-- The stage that a pass with the current token holds stands on the board. -/
def Standing (b : Board) (rs : List PassRecord) : Prop :=
  ∀ (i : Nat) (r : PassRecord), rs[i]? = some r → r.pass.point.holdsStage →
    r.pass.token = b.generation r.uri → b.stage r.uri = r.stages.getLast?

theorem Standing.acts (h : Standing b rs) (htokens : Tokens b rs) (hadmitted : Admitted rs)
    {i : Nat} {r : PassRecord} {sink : Sink} {p : Pass} {st : List ValidationStage}
    {xs : List Publication} (hget : rs[i]? = some r)
    (heffect : Pass.Effect sink b r.pass b' p st xs) :
    Standing b' (rs.set i { r with pass := p, stages := r.stages ++ st }) := by
  intro j q hq hholds hcurrent
  rcases getElem?_set_cases hget hq with ⟨-, rfl⟩ | ⟨hj, hq⟩
  · -- the pass that acts
    have huri : p.document.uri = r.pass.document.uri := congrArg Document.uri heffect.document_eq
    simp only [PassRecord.uri, huri] at hcurrent ⊢
    exact heffect.stage_of_current (hadmitted r (List.mem_of_getElem? hget)) (h i r hget) hholds
      hcurrent
  · -- another pass with the current token, so that the one that acts is stale or elsewhere
    have hbegun : q.pass.point ≠ .queued :=
      Pass.Point.ne_queued (Pass.Point.isUnderWay_of_holdsStage hholds)
    have hbounded := htokens.bounded j q hq hbegun
    have hcurrent' : q.pass.token = b.generation q.uri :=
      Nat.le_antisymm hbounded (hcurrent ▸ heffect.generation_le q.uri)
    rw [← h j q hq hholds hcurrent']
    by_cases huri : q.uri = r.uri
    · rcases heffect.token_cases with ⟨hgeneration, -, -⟩ | ⟨hgeneration, -, -⟩
      · refine congrFun (heffect.stage_of_stale hgeneration fun hbegun' hcurrent'' => hj ?_) _
        refine htokens.distinct j i q r hq hget hbegun hbegun' huri ?_
        rw [hcurrent', huri]
        exact hcurrent''
      · rw [hgeneration, Board.generation_supersede, if_pos huri] at hcurrent
        omega
    · exact heffect.stage_of_ne huri

theorem Standing.step (h : Standing b rs) (htokens : Tokens b rs) (hadmitted : Admitted rs)
    (heffect : Effect workers m b rs ds b' rs' ds') : Standing b' rs' := by
  cases heffect with
  | rests => exact h
  | supersedes uri =>
      intro i r hget hholds hcurrent
      have hbounded := htokens.bounded i r hget
        (Pass.Point.ne_queued (Pass.Point.isUnderWay_of_holdsStage hholds))
      rw [Board.generation_supersede] at hcurrent
      rw [Board.stage_supersede]
      split at hcurrent
      next => omega
      next hother => rw [if_neg hother, h i r hget hholds hcurrent]
  | joins r hqueued =>
      intro i q hget hholds hcurrent
      rcases getElem?_concat_cases hget with hget | rfl
      · exact h i q hget hholds hcurrent
      · rw [hqueued] at hholds
        cases hholds
  | acts i r sink hget heffect => exact h.acts htokens hadmitted hget heffect

end

/-! ## Runs -/

variable (o : Orchestrator) (workers : Nat) (moves : List Move)

theorem staged_run :
    Staged ((start o workers).run moves).board ((start o workers).run moves).passes :=
  run_induction (P := fun b rs _ => Staged b rs) (queueWaits_start o workers)
    (fun _ _ hstage => by cases hstage) moves fun _ h heffect => h.step heffect

theorem admitted_run : Admitted ((start o workers).run moves).passes :=
  run_induction (P := fun _ rs _ => Admitted rs) (queueWaits_start o workers)
    (fun _ hr => by cases hr) moves fun _ h heffect => h.step heffect

theorem standing_run :
    Standing ((start o workers).run moves).board ((start o workers).run moves).passes :=
  (run_induction (P := fun b rs _ => Tokens b rs ∧ Admitted rs ∧ Standing b rs)
    (queueWaits_start o workers)
    ⟨tokens_start, by simp [Admitted, start], by simp [Standing, start]⟩ moves
    fun _ h heffect => ⟨h.1.step heffect, h.2.1.step heffect, h.2.2.step h.1 h.2.1 heffect⟩).2.2

/-- **Stages are kept exactly.** In every state of every run, a stage that stands for
a document is the last one stored by a pass that has begun and not ended and whose
token is the current one; this holds also while a set is with the sink. What such a
pass has stored goes by the point where it stands, and the last of it does stand, until
the pass has its result or has left the stage for a failure of the linter. A step of a
pass with another token changes no stage, each pass stores its stages in their order
and none twice, and when every pass that has begun has ended, no stage is left. No
stored stage goes by the name that tells that nothing runs. -/
theorem stages_are_kept_exactly (o : Orchestrator) (workers : Nat) (moves : List Move) :
    let s := (start o workers).run moves
    (∀ uri stage, s.orchestrator.stageOf uri = some stage →
      ∃ (i : Nat) (r : PassRecord), s.passes[i]? = some r ∧
        r.StandsBehind s.board uri stage) ∧
    (∀ (i : Nat) (r : PassRecord) (a : PassAction), s.passes[i]? = some r →
      r.pass.offers s.orchestrator.context s.orchestrator.shared a ≠ [] →
      ∀ uri stage, (s.board.handingOver r.uri).stage uri = some stage →
        ∃ (j : Nat) (q : PassRecord),
          (s.passes.set i { r with stages := r.stages ++ [.publishing] })[j]? = some q ∧
            q.StandsBehind (s.board.handingOver r.uri) uri stage) ∧
    (∀ r ∈ s.passes, r.pass.point.holdsStage →
      r.pass.point.entered = some r.stages ∧ (r.pass.token = s.board.generation r.uri →
        s.orchestrator.stageOf r.uri = r.stages.getLast?)) ∧
    (∀ (i : Nat) (r : PassRecord) sink a, s.passes[i]? = some r → r.pass.point ≠ .queued →
      r.pass.token ≠ s.board.generation r.uri → (s.act i sink a).board.stage = s.board.stage) ∧
    (∀ r ∈ s.passes, r.stages.Sublist [.linting, .parsing, .enriching, .publishing]) ∧
    ((∀ r ∈ s.passes, r.pass.point ≠ .queued → r.pass.result?.isSome) →
      ∀ uri, s.orchestrator.stageOf uri = none) ∧
    ∀ stage, ValidationStage.name (some stage) ≠ ValidationStage.name none := by
  intro s
  have hstaged : Staged s.board s.passes := staged_run o workers moves
  have hadmitted : Admitted s.passes := admitted_run o workers moves
  refine ⟨hstaged, ?_, ?_, ?_, fun r hr => (hadmitted r hr).sublist, ?_, ?_⟩
  · intro i r a hget hoffers
    have heffect : Pass.Effect .keeping s.board r.pass _ _ _
        (r.pass.offers s.orchestrator.context s.orchestrator.shared a) := Pass.effect_act
    rcases heffect.offer_cases with ⟨hnone, -⟩ | ⟨set, -, hcurrent, hway, -⟩
    · exact absurd hnone hoffers
    · exact hstaged.handingOver hget hway hcurrent
  · intro r hr hholds
    obtain ⟨i, hget⟩ := List.mem_iff_getElem?.mp hr
    exact ⟨(hadmitted r hr).entered_eq hholds, standing_run o workers moves i r hget hholds⟩
  · intro i r sink a hget hbegun hstale
    simp only [act, hget]
    exact Pass.effect_act.stage_of_stale (Pass.effect_act.token_of_begun hbegun).1
      fun _ => Ne.symm hstale
  · intro hended uri
    cases hstage : s.orchestrator.stageOf uri with
    | none => rfl
    | some stage =>
        obtain ⟨i, r, hget, hbehind⟩ := hstaged uri stage hstage
        have h := hended r (List.mem_of_getElem? hget) hbehind.begun
        rw [hbehind.unfinished] at h
        cases h
  · intro stage
    cases stage <;> decide

end Session

end LintRelay
