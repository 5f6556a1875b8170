import LintRelay.Proofs.Validation.Tokens

/-!
# Scheduled passes are taken up in order

Whatever happens in between, the pool takes its passes up in the order of their
triggers. With one worker they also begin in this order, since each has ended before
the next is taken up; then their tokens are in this order as well.
-/

namespace LintRelay.Session

/-! ## The order of the pool -/

/-- The documents of the passes that were scheduled: those that workers have taken up,
then those that still wait. -/
def scheduled (s : Session) : List Document :=
  (s.passes.filter PassRecord.pooled).map (·.pass.document) ++
    s.orchestrator.queue.map Pass.document

/-- Records of the pool are told apart by what a pass keeps. -/
theorem map_filter_pooled_set {rs : List PassRecord} {i : Nat} {r r' : PassRecord}
    (hget : rs[i]? = some r) (hpooled : r'.pooled = r.pooled)
    (hdocument : r'.pass.document = r.pass.document) :
    ((rs.set i r').filter PassRecord.pooled).map (·.pass.document) =
      (rs.filter PassRecord.pooled).map (·.pass.document) := by
  obtain ⟨hi, rfl⟩ := List.getElem?_eq_some_iff.mp hget
  have hsplit : (rs.filter PassRecord.pooled).map (·.pass.document) =
      ((rs.take i ++ rs[i] :: rs.drop (i + 1)).filter PassRecord.pooled).map
        (·.pass.document) := by
    rw [← List.drop_eq_getElem_cons hi, List.take_append_drop]
  rw [hsplit, List.set_eq_take_append_cons_drop, if_pos hi]
  simp only [List.filter_append, List.filter_cons, hpooled]
  split <;> simp [hdocument]

theorem scheduled_host (s : Session) {f : Orchestrator → Orchestrator}
    (hf : s.orchestrator.Schedules (f s.orchestrator)) :
    (s.host f).scheduled = s.scheduled ++
      ((s.host f).orchestrator.queue.drop s.orchestrator.queue.length).map Pass.document := by
  obtain ⟨ds, hqueue⟩ := hf.queue
  rw [scheduled, scheduled, host, hqueue, List.drop_left, List.map_append, List.append_assoc]

theorem scheduled_step (s : Session) (m : Move) :
    (s.step m).scheduled = s.scheduled ++
      ((s.step m).orchestrator.queue.drop s.orchestrator.queue.length).map Pass.document := by
  have hsame : ∀ t : Session, t.orchestrator.queue = s.orchestrator.queue →
      (t.passes.filter PassRecord.pooled).map (·.pass.document) =
        (s.passes.filter PassRecord.pooled).map (·.pass.document) →
      t.scheduled = s.scheduled ++
        (t.orchestrator.queue.drop s.orchestrator.queue.length).map Pass.document := by
    intro t hqueue hpasses
    rw [scheduled, scheduled, hqueue, hpasses, List.drop_length, List.map_nil, List.append_nil]
  cases m with
  | call d => exact hsame _ rfl (by simp [step])
  | trigger d => exact s.scheduled_host (s.orchestrator.schedules_trigger d).1
  | revalidateAll => exact s.scheduled_host (s.orchestrator.schedules_triggerAll _).1
  | handle e => exact s.scheduled_host (s.orchestrator.schedules_handle e).1
  | part h => exact s.scheduled_host (s.orchestrator.schedules_take h).1
  | supersede uri => exact s.scheduled_host (s.orchestrator.schedules_supersede uri)
  | shutDown => exact hsame _ rfl rfl
  | take =>
      simp only [step, take]
      split
      next => exact hsame _ rfl rfl
      next p queue hqueue =>
        split
        · simp [scheduled, hqueue]
        · exact hsame _ rfl rfl
  | act i sink a =>
      simp only [step, act]
      split
      next => exact hsame _ rfl rfl
      next r hget => exact hsame _ rfl (map_filter_pooled_set hget rfl (Pass.document_act ..))

/-- **Scheduled passes are taken up in the order of their triggers.** -/
theorem scheduled_run (s : Session) (moves : List Move) :
    (s.run moves).scheduled = s.scheduled ++ s.triggered moves := by
  induction moves generalizing s with
  | nil => exact (List.append_nil _).symm
  | cons m moves ih => rw [run_cons, ih, scheduled_step, triggered, List.append_assoc]

theorem scheduled_start (o : Orchestrator) (workers : Nat) :
    (start o workers).scheduled = [] := rfl

/-! ## One worker -/

/-- The passes of the pool come one after another, and so do their tokens. -/
structure Sequential (rs : List PassRecord) : Prop where
  ended : ∀ (i j : Nat) (r q : PassRecord), i < j → rs[i]? = some r → rs[j]? = some q →
    r.pooled = true → q.pooled = true → r.pass.result?.isSome
  ordered : ∀ (i j : Nat) (r q : PassRecord), i < j → rs[i]? = some r → rs[j]? = some q →
    r.pooled = true → q.pooled = true → r.uri = q.uri → q.pass.point ≠ .queued →
    r.pass.token < q.pass.token

theorem ne_queued_of_ended {p : Pass} (h : p.result?.isSome) : p.point ≠ .queued := by
  intro hqueued
  simp [Pass.result?, hqueued] at h

section

variable {workers : Nat} {m : Move} {b b' : Board} {rs rs' : List PassRecord}
  {ds ds' : List Delivery}

theorem Sequential.append (h : Sequential rs) {r : PassRecord}
    (hqueued : r.pass.point = .queued)
    (hidle : r.pooled = true → ∀ q ∈ rs, q.pooled = true → q.pass.result?.isSome) :
    Sequential (rs ++ [r]) := by
  -- of two records of the new list, the first is an old one
  have hcases : ∀ (i j : Nat) (q q' : PassRecord), i < j → (rs ++ [r])[i]? = some q →
      (rs ++ [r])[j]? = some q' → rs[i]? = some q ∧ (rs[j]? = some q' ∨ q' = r) := by
    intro i j q q' hij hq hq'
    have hj : j < rs.length + 1 := by
      simpa using (List.getElem?_eq_some_iff.mp hq').1
    rw [List.getElem?_append_left (by omega)] at hq
    exact ⟨hq, getElem?_concat_cases hq'⟩
  constructor
  · intro i j q q' hij hq hq' hpooled hpooled'
    obtain ⟨hold, hold' | rfl⟩ := hcases i j q q' hij hq hq'
    · exact h.ended i j q q' hij hold hold' hpooled hpooled'
    · exact hidle hpooled' q (List.mem_of_getElem? hold) hpooled
  · intro i j q q' hij hq hq' hpooled hpooled' huri hbegun
    obtain ⟨hold, hold' | rfl⟩ := hcases i j q q' hij hq hq'
    · exact h.ordered i j q q' hij hold hold' hpooled hpooled' huri hbegun
    · exact absurd hqueued hbegun

theorem Sequential.acts (h : Sequential rs) (htokens : Tokens b rs) {i : Nat} {r : PassRecord}
    {sink : Sink} {p : Pass} {st : List ValidationStage} {xs : List Publication}
    (hget : rs[i]? = some r) (heffect : Pass.Effect sink b r.pass b' p st xs) :
    Sequential (rs.set i { r with pass := p, stages := r.stages ++ st }) := by
  -- what stands in the new list stood in the old one, over the same document
  have hold : ∀ (j : Nat) (q : PassRecord),
      (rs.set i { r with pass := p, stages := r.stages ++ st })[j]? = some q →
      ∃ q₀ : PassRecord, rs[j]? = some q₀ ∧ q₀.pooled = q.pooled ∧ q₀.uri = q.uri ∧
        (q₀.pass.result?.isSome → q.pass = q₀.pass) ∧
        ((q.pass.token = q₀.pass.token ∧ (q.pass.point = .queued ↔ q₀.pass.point = .queued)) ∨
          q.pass.token = b.generation q.uri + 1) := by
    intro j q hq
    rcases getElem?_set_cases hget hq with ⟨rfl, rfl⟩ | ⟨-, hq⟩
    · have huri : r.uri = p.document.uri := congrArg Document.uri heffect.document_eq.symm
      refine ⟨r, hget, rfl, huri, heffect.eq_of_ended, ?_⟩
      rcases heffect.token_cases with ⟨-, htoken, hpoint⟩ | ⟨-, htoken, -⟩
      · exact .inl ⟨htoken, hpoint⟩
      · exact .inr (htoken.trans (congrArg (b.generation · + 1) huri))
    · exact ⟨q, hq, rfl, rfl, fun _ => rfl, .inl ⟨rfl, Iff.rfl⟩⟩
  constructor
  · intro j k q q' hjk hq hq' hpooled hpooled'
    obtain ⟨q₀, hq₀, hpooled₀, -, hsame, -⟩ := hold j q hq
    obtain ⟨q₁, hq₁, hpooled₁, -⟩ := hold k q' hq'
    have hended := h.ended j k q₀ q₁ hjk hq₀ hq₁ (hpooled₀.trans hpooled)
      (hpooled₁.trans hpooled')
    rwa [hsame hended]
  · intro j k q q' hjk hq hq' hpooled hpooled' huri hbegun
    obtain ⟨q₀, hq₀, hpooled₀, huri₀, hsame, -⟩ := hold j q hq
    obtain ⟨q₁, hq₁, hpooled₁, huri₁, -, htoken⟩ := hold k q' hq'
    have hended := h.ended j k q₀ q₁ hjk hq₀ hq₁ (hpooled₀.trans hpooled)
      (hpooled₁.trans hpooled')
    rw [hsame hended]
    rcases htoken with ⟨htoken, hpoint⟩ | htoken
    · rw [htoken]
      exact h.ordered j k q₀ q₁ hjk hq₀ hq₁ (hpooled₀.trans hpooled) (hpooled₁.trans hpooled')
        (by rw [huri₀, huri₁, huri]) fun hqueued => hbegun (hpoint.mpr hqueued)
    · -- the later pass takes its token only now
      have hle := htokens.bounded j q₀ hq₀ (ne_queued_of_ended hended)
      rw [htoken, ← huri, ← huri₀]
      omega

theorem Sequential.step (h : Sequential rs) (htokens : Tokens b rs) (hworkers : workers ≤ 1)
    (heffect : Effect workers m b rs ds b' rs' ds') : Sequential rs' := by
  cases heffect with
  | rests => exact h
  | supersedes => exact h
  | joins r hqueued _ hmove =>
      refine h.append hqueued fun hpooled q hq hq' => ?_
      rcases hmove with ⟨-, hcalled⟩ | ⟨-, hfree⟩
      · rw [hpooled] at hcalled
        cases hcalled
      · have hidle : ¬ q.isBusy := List.countP_eq_zero.mp (by omega) q hq
        simpa [PassRecord.isBusy, hq', Option.isSome_iff_ne_none] using hidle
  | acts i r sink hget heffect => exact h.acts htokens hget heffect

end

/-- With one worker, passes of the pool begin in the order in which they are taken up. -/
theorem sequential_run (o : Orchestrator) {workers : Nat} (hworkers : workers ≤ 1)
    (moves : List Move) : Sequential ((start o workers).run moves).passes :=
  (run_induction (P := fun b rs _ => Tokens b rs ∧ Sequential rs) (queueWaits_start o workers)
    ⟨tokens_start, fun i j r q _ hr => by simp [start] at hr,
      fun i j r q _ hr => by simp [start] at hr⟩ moves
    fun _ h heffect => ⟨h.1.step heffect, h.2.step h.1 hworkers heffect⟩).2

end LintRelay.Session
