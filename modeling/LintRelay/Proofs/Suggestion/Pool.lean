import Mathlib.Data.List.Induction
import LintRelay.Proofs.Places
import LintRelay.Suggestion.Session

/-!
# What a pool has gathered

A move hands in a job, lets one go on, gathers what one has brought, or does nothing. The
jobs read the findings before any suggestion is written, and what has been gathered is at
any moment what an enrichment comes to whose jobs are those waited for.
-/

namespace LintRelay

/-- A failure cannot be recorded where it is unexpected and has no words. -/
theorem SuggestError.raised?_ofFault_eq_none {fault : Fault} :
    (ofFault fault).raised? = none ↔
      fault.family = .suggestion ∨ ∃ words, fault.shown = .ok words := by
  rw [ofFault]
  split
  next hsaid => simp [raised?, hsaid]
  next hother =>
    rw [raised?, Fault.raised?]
    cases fault.shown <;> simp [hother]

namespace Enrichment

theorem logOf_append {pairs : List (Finding × EnrichmentJob)}
    (hrecorded : ∀ pair ∈ pairs, raised? pair.2 = none)
    (more : List (Finding × EnrichmentJob)) :
    logOf (pairs ++ more) = logOf pairs ++ logOf more := by
  induction pairs with
  | nil => rfl
  | cons pair pairs ih =>
      obtain ⟨f, job⟩ := pair
      have hjob : raised? job = none := hrecorded _ (List.mem_cons_self ..)
      simp only [List.cons_append, logOf, hjob, Option.isSome_none, Bool.false_eq_true, if_false,
        List.append_assoc, ih fun pair hpair => hrecorded pair (List.mem_cons_of_mem _ hpair)]

theorem logOf_singleton (f : Finding) (job : EnrichmentJob) :
    logOf [(f, job)] = (failure? job).elim [] (·.log f) := by
  rw [logOf, logOf, ite_self, List.append_nil]

/-- The jobs are collected unless a failure among them cannot be recorded. -/
theorem collected_iff {e : Enrichment} :
    (∃ result, e.collected = .ok result) ↔ ∀ job ∈ e.jobs, raised? job = none := by
  rw [collected, ← List.findSome?_eq_none_iff]
  split
  next hfirst => simp [hfirst]
  next hnone => simp [hnone]

/-- What is collected without breaking off is what the jobs brought. -/
theorem eq_result_of_collected {e : Enrichment} {r : EnrichmentResult}
    (hok : e.collected = .ok r) : r = e.result := by
  rw [collected] at hok
  split at hok
  next => cases hok
  next => exact (Except.ok.inj hok).symm

/-- What one more job adds to what an enrichment comes to. -/
theorem result_concat {findings : List Finding} {text : String}
    {jobs : List EnrichmentJob} {f : Finding} (hget : findings[jobs.length]? = some f)
    (hrecorded : ∀ job ∈ jobs, raised? job = none) (job : EnrichmentJob) :
    result ⟨findings, text, jobs ++ [job]⟩ =
      ⟨(result ⟨findings, text, jobs⟩).findings.set jobs.length (outcome f job),
        (result ⟨findings, text, jobs⟩).requested + (if counts job then 1 else 0),
        (result ⟨findings, text, jobs⟩).errors ++ (failure? job).toList,
        (result ⟨findings, text, jobs⟩).log ++ (failure? job).elim [] (·.log f)⟩ := by
  obtain ⟨hlt, rfl⟩ := List.getElem?_eq_some_iff.mp hget
  -- the findings before, at, and after the place of the job
  have hsplit : findings.take jobs.length ++
      findings[jobs.length] :: findings.drop (jobs.length + 1) = findings := by
    rw [← List.drop_eq_getElem_cons hlt, List.take_append_drop]
  have hlength : (findings.take jobs.length).length = jobs.length := by
    rw [List.length_take, Nat.min_eq_left (Nat.le_of_lt hlt)]
  have hzip : ∀ more, findings.zip (jobs ++ more) = (findings.take jobs.length).zip jobs ++
      (findings[jobs.length] :: findings.drop (jobs.length + 1)).zip more := by
    intro more
    rw [← List.zip_append hlength, hsplit]
  have hbefore : findings.zip jobs = (findings.take jobs.length).zip jobs := by
    simpa using hzip []
  have hafter : findings.zip (jobs ++ [job]) =
      findings.zip jobs ++ [(findings[jobs.length], job)] := by
    rw [hzip, hbefore, List.zip_cons_cons, List.zip_nil_right]
  have hcount : (findings.zip jobs).length = jobs.length := by
    rw [List.length_zip, Nat.min_eq_right (Nat.le_of_lt hlt)]
  simp only [result, hafter, List.map_append, List.countP_append, List.filterMap_append,
    List.length_append, List.length_singleton]
  congr 1
  · rw [List.set_append_right _ _ (by simp [hcount]), List.drop_eq_getElem_cons hlt,
      List.length_map, hcount, Nat.sub_self, List.set_cons_zero, List.map_singleton,
      List.append_assoc, List.singleton_append]
  · cases failure? job <;> simp
  · rw [logOf_append fun pair hpair => hrecorded _ (List.of_mem_zip hpair).2, logOf_singleton]

end Enrichment

/-- How a job goes on when the check has been polled so often, and what that shows. -/
inductive PoolJob.Goes (o : EnrichmentSession.Outside) (polls j : Nat)
    (request : SuggestionRequest) : PoolJob.Point → PoolJob.Point → List PoolEvent → Prop where
  | starts : Goes o polls j request .queued .taken []
  | stops (hcancelled : o.cancelled polls = true) :
      Goes o polls j request .taken .skipped [.polled j true]
  | clears (hcancelled : o.cancelled polls = false) :
      Goes o polls j request .taken .cleared [.polled j false]
  | asks : Goes o polls j request .cleared .asked [.asked j request]
  | returns : Goes o polls j request .asked (.answered (o.service j request)) []

/-- Only a job that has not ended goes on. -/
theorem PoolJob.Goes.not_over {o : EnrichmentSession.Outside} {polls j : Nat}
    {request : SuggestionRequest} {point point' : PoolJob.Point} {new : List PoolEvent}
    (h : PoolJob.Goes o polls j request point point' new) : point.isOver = false := by
  cases h <;> rfl

namespace EnrichmentSession

/-- What a move does to an enrichment at work, and what it shows. -/
inductive Effect (o : Outside) (s : EnrichmentSession) :
    EnrichmentSession → List PoolEvent → Prop where
  /-- Nothing happens. -/
  | rests : Effect o s s []
  /-- The next job is handed in. -/
  | submits (f : Finding) (hlt : s.jobs.length < s.budget)
      (hget : s.findings[s.jobs.length]? = some f) :
      Effect o s { s with jobs := s.jobs ++ [{ finding := f }] } []
  /-- A job goes on. -/
  | goesOn (j : Nat) (job : PoolJob) {point : PoolJob.Point} {new : List PoolEvent}
      (hget : s.jobs[j]? = some job)
      (hgoes : PoolJob.Goes o s.polls j (s.requestFor job.finding) job.point point new) :
      Effect o s
        { s.put j job point with polls := s.polls + (new.filterMap PoolEvent.answer?).length } new
  /-- What a job has brought is written back. -/
  | gathers (job : PoolJob) (f : Finding) (hall : s.jobs.length = s.budget)
      (hbroken : s.broken = none)
      (hjob : s.jobs[s.collected]? = some job) (hget : s.findings[s.collected]? = some f)
      (hover : job.point.isOver) (hrecorded : Enrichment.raised? job.point.seen = none) :
      Effect o s (s.gather f job.point) []
  /-- The failure of a job cannot be recorded. -/
  | breaks (job : PoolJob) (fault : Fault) (words : List LogRecord)
      (hall : s.jobs.length = s.budget) (hbroken : s.broken = none)
      (hjob : s.jobs[s.collected]? = some job) (hover : job.point.isOver)
      (hraised : Enrichment.raised? job.point.seen = some fault) :
      Effect o s { s with broken := some (fault, words) } []

variable {o : Outside} {s s' : EnrichmentSession} {new : List PoolEvent}

theorem gather_of_not_over {f : Finding} {point : PoolJob.Point} (hnot : point.isOver = false) :
    s.gather f point = s := by
  cases point with
  | queued | taken | cleared | asked => rfl
  | skipped | answered => cases hnot

theorem gather_of_raised {f : Finding} {point : PoolJob.Point} {fault : Fault}
    (hraised : Enrichment.raised? point.seen = some fault) :
    s.gather f point =
      { s with broken := some (fault, (Enrichment.failure? point.seen).elim [] (·.log f)) } := by
  cases point with
  | queued | taken | cleared | asked | skipped => cases hraised
  | answered reply =>
      cases reply with
      | ok => cases hraised
      | error failure =>
          have hraised : (SuggestError.ofFault failure).raised? = some fault := hraised
          simp only [gather, hraised]
          rfl

/-- What the failure of a job that can be recorded leaves. -/
theorem gather_of_recorded {f : Finding} {failure : Fault}
    (hrecorded : Enrichment.raised? (PoolJob.Point.answered (.error failure)).seen = none) :
    s.gather f (.answered (.error failure)) =
      { s with
        collected := s.collected + 1, requested := s.requested + 1, failed := s.failed + 1
        errors := s.errors ++ [.ofFault failure]
        log := s.log ++ (SuggestError.ofFault failure).log f } := by
  have hrecorded : (SuggestError.ofFault failure).raised? = none := hrecorded
  simp only [gather, hrecorded]

/-- **What a move can do.** -/
theorem effect_act (o : Outside) (s : EnrichmentSession) (m : Move) :
    Effect o s (s.step o m) (s.act o m).2 := by
  rw [step]
  cases m with
  | submit =>
      simp only [act]
      split
      next f hget =>
        split
        next hlt => exact .submits f hlt hget
        next => exact .rests
      next => exact .rests
  | take =>
      simp only [act]
      split
      next j hfirst =>
        split
        next job hget =>
          split
          next =>
            obtain ⟨hj, hqueued, -⟩ := List.findIdx?_eq_some_iff_getElem.mp hfirst
            obtain rfl : s.jobs[j] = job := (List.getElem?_eq_some_iff.mp hget).2
            have hgoes : PoolJob.Goes o s.polls j (s.requestFor s.jobs[j].finding)
                s.jobs[j].point .taken [] := by
              cases hpoint : s.jobs[j].point with
              | queued => exact .starts
              | _ => simp [hpoint, PoolJob.Point.isQueued] at hqueued
            exact .goesOn j _ hget hgoes
          next => exact .rests
        next => exact .rests
      next => exact .rests
  | work j =>
      simp only [act]
      split
      next job hget =>
        obtain ⟨f, point⟩ := job
        cases point with
        | taken =>
            cases hcancelled : o.cancelled s.polls with
            | true =>
                simp only [work, hcancelled, if_true]
                exact .goesOn j _ hget (.stops hcancelled)
            | false =>
                simp only [work, hcancelled, Bool.false_eq_true, if_false]
                exact .goesOn j _ hget (.clears hcancelled)
        | cleared => exact .goesOn j _ hget .asks
        | asked => exact .goesOn j _ hget .returns
        | queued | skipped | answered => exact .rests
      next => exact .rests
  | collect =>
      simp only [act]
      split
      next job f hjob hget =>
        split
        next hready =>
          have hbroken : s.broken = none := Option.isNone_iff_eq_none.mp hready.2
          by_cases hover : job.point.isOver
          case neg => exact gather_of_not_over (Bool.eq_false_iff.mpr hover) ▸ .rests
          cases hraised : Enrichment.raised? job.point.seen with
          | none => exact .gathers job f hready.1 hbroken hjob hget hover hraised
          | some fault =>
              rw [gather_of_raised hraised]
              exact .breaks job fault _ hready.1 hbroken hjob hover hraised
        next => exact .rests
      next => exact .rests

/-! ## What is gathered -/

/-- What is written back of a job that has ended. -/
theorem result_gather {f : Finding} {point : PoolJob.Point}
    (hget : s.findings[s.collected]? = some f) (hover : point.isOver)
    (hrecorded : Enrichment.raised? point.seen = none) :
    (s.gather f point).result =
      ⟨s.findings.set s.collected (Enrichment.outcome f point.seen),
        s.requested + (if Enrichment.counts point.seen then 1 else 0),
        s.errors ++ (Enrichment.failure? point.seen).toList,
        s.log ++ (Enrichment.failure? point.seen).elim [] (·.log f)⟩ := by
  cases point with
  | queued | taken | cleared | asked => cases hover
  | skipped =>
      simp [gather, result, PoolJob.Point.seen, Enrichment.outcome, Enrichment.counts,
        Enrichment.failure?, set_of_getElem? hget]
  | answered reply =>
      rcases reply with fault | (- | text)
      · rw [gather_of_recorded hrecorded]
        simp [result, PoolJob.Point.seen, Enrichment.outcome, Enrichment.counts,
          Enrichment.failure?, Except.mapError, set_of_getElem? hget]
      all_goals
        simp [gather, result, PoolJob.Point.seen, Enrichment.outcome, Enrichment.counts,
          Enrichment.failure?, Except.mapError, set_of_getElem? hget]

/-- Writing back touches neither the jobs nor what the enrichment was begun with. -/
theorem gather_keeps (s : EnrichmentSession) (f : Finding) (point : PoolJob.Point) :
    (s.gather f point).given = s.given ∧ (s.gather f point).documentText = s.documentText ∧
      (s.gather f point).budget = s.budget ∧ (s.gather f point).workers = s.workers ∧
      (s.gather f point).jobs = s.jobs ∧ (s.gather f point).polls = s.polls := by
  simp only [gather]
  repeat' split
  all_goals exact ⟨rfl, rfl, rfl, rfl, rfl, rfl⟩

theorem collected_gather {f : Finding} {point : PoolJob.Point} (hover : point.isOver)
    (hrecorded : Enrichment.raised? point.seen = none) :
    (s.gather f point).collected = s.collected + 1 ∧ (s.gather f point).broken = s.broken := by
  cases point with
  | queued | taken | cleared | asked => cases hover
  | skipped => exact ⟨rfl, rfl⟩
  | answered reply =>
      rcases reply with fault | (- | text)
      · rw [gather_of_recorded hrecorded]
        exact ⟨rfl, rfl⟩
      · exact ⟨rfl, rfl⟩
      · exact ⟨rfl, rfl⟩

theorem failed_gather (f : Finding) (point : PoolJob.Point) (h : s.failed = s.errors.length) :
    (s.gather f point).failed = (s.gather f point).errors.length := by
  simp only [gather]
  repeat' split
  all_goals simp [h]

theorem Effect.keeps (h : Effect o s s' new) : s'.given = s.given ∧
    s'.documentText = s.documentText ∧ s'.budget = s.budget ∧ s'.workers = s.workers := by
  cases h with
  | gathers job f =>
      obtain ⟨hgiven, htext, hbudget, hworkers, -⟩ := s.gather_keeps f job.point
      exact ⟨hgiven, htext, hbudget, hworkers⟩
  | _ => exact ⟨rfl, rfl, rfl, rfl⟩

/-- The jobs that were waited for, as those of an enrichment. -/
def gathered (s : EnrichmentSession) : Enrichment :=
  ⟨s.given, s.documentText, (s.jobs.take s.collected).map (·.point.seen)⟩

/-- What holds of an enrichment at work. No job is waited for before all are handed in, and
what has been written back is what the jobs waited for come to. It breaks off at the first
failure that cannot be recorded. -/
structure Sound (s : EnrichmentSession) : Prop where
  budget_le : s.budget ≤ s.given.length
  jobs_le : s.jobs.length ≤ s.budget
  collected_le : s.collected ≤ s.jobs.length
  submitted : 0 < s.collected → s.jobs.length = s.budget
  finding : ∀ (j : Nat) (job : PoolJob), s.jobs[j]? = some job → s.given[j]? = some job.finding
  ended : ∀ (j : Nat) (job : PoolJob), s.jobs[j]? = some job → j < s.collected →
    job.point.isOver
  recorded : ∀ (j : Nat) (job : PoolJob), s.jobs[j]? = some job → j < s.collected →
    Enrichment.raised? job.point.seen = none
  broke : ∀ fault words, s.broken = some (fault, words) → s.jobs.length = s.budget ∧
    ∃ job, s.jobs[s.collected]? = some job ∧ job.point.isOver ∧
      Enrichment.raised? job.point.seen = some fault
  result_eq : s.result = s.gathered.result
  failed_eq : s.failed = s.errors.length

theorem sound_start (enabled : Bool) (findings : List Finding) (text : String) (limit : Int)
    (maxWorkers : Nat) : (start enabled findings text limit maxWorkers).Sound where
  budget_le := by
    simp only [start, Enrichment.budget]
    split <;> omega
  jobs_le := Nat.zero_le _
  collected_le := Nat.le_refl _
  submitted := fun h => absurd h (Nat.lt_irrefl _)
  finding := fun _ _ hget => by cases hget
  ended := fun _ _ hget => by cases hget
  recorded := fun _ _ hget => by cases hget
  broke := fun _ _ hbroken => by cases hbroken
  result_eq := by simp [result, gathered, start, Enrichment.result, Enrichment.logOf]
  failed_eq := rfl

theorem Sound.length_gathered (h : s.Sound) : s.gathered.jobs.length = s.collected := by
  rw [gathered, List.length_map, List.length_take, Nat.min_eq_left h.collected_le]

/-- The failures of the jobs that were waited for have been recorded. -/
theorem Sound.recorded_gathered (h : s.Sound) :
    ∀ job ∈ s.gathered.jobs, Enrichment.raised? job = none := by
  intro job hjob
  obtain ⟨taken, htaken, rfl⟩ := List.mem_map.mp hjob
  obtain ⟨j, hget⟩ := List.getElem?_of_mem htaken
  obtain ⟨hj, hget⟩ : j < s.collected ∧ s.jobs[j]? = some taken := by
    rw [List.getElem?_take] at hget
    split at hget
    next hj => exact ⟨hj, hget⟩
    next => cases hget
  exact h.recorded j taken hget hj

/-- No suggestion has been written to the findings whose jobs were not waited for. -/
theorem Sound.findings_eq (h : s.Sound) {k : Nat} (hk : s.collected ≤ k) :
    s.findings[k]? = s.given[k]? := by
  have hle : s.gathered.jobs.length ≤ s.given.length := by
    rw [h.length_gathered]
    exact Nat.le_trans h.collected_le (Nat.le_trans h.jobs_le h.budget_le)
  have hlength : (s.given.zip s.gathered.jobs).length = s.collected := by
    rw [List.length_zip, Nat.min_eq_right hle, h.length_gathered]
  have hfindings : s.findings = (s.given.zip s.gathered.jobs).map
      (fun pair => Enrichment.outcome pair.1 pair.2) ++ s.given.drop s.gathered.jobs.length :=
    congrArg (·.findings) h.result_eq
  rw [hfindings, List.getElem?_append_right (by rwa [List.length_map, hlength]), List.length_map,
    hlength, h.length_gathered, List.getElem?_drop, Nat.add_sub_cancel' hk]

/-- The finding of a job that is handed in is the caller's. -/
theorem Sound.submits (h : s.Sound) {f : Finding} (hlt : s.jobs.length < s.budget)
    (hget : s.findings[s.jobs.length]? = some f) :
    Sound { s with jobs := s.jobs ++ [{ finding := f }] } := by
  have hbefore : ∀ {j : Nat} {job : PoolJob}, j < s.jobs.length →
      (s.jobs ++ [PoolJob.mk f .queued])[j]? = some job → s.jobs[j]? = some job := by
    intro j job hj hjob
    rwa [List.getElem?_append_left hj] at hjob
  exact {
    budget_le := h.budget_le
    jobs_le := by
      rw [List.length_append]
      exact hlt
    collected_le := by
      rw [List.length_append]
      exact Nat.le_succ_of_le h.collected_le
    submitted := fun hpos => absurd (h.submitted hpos) (Nat.ne_of_lt hlt)
    finding := by
      intro j job hjob
      by_cases hj : j < s.jobs.length
      · exact h.finding j job (hbefore hj hjob)
      · rw [List.getElem?_append_right (Nat.le_of_not_lt hj)] at hjob
        obtain ⟨hzero, rfl⟩ : j - s.jobs.length = 0 ∧ PoolJob.mk f .queued = job := by
          simpa [List.getElem?_singleton] using hjob
        obtain rfl : j = s.jobs.length := by omega
        rw [← h.findings_eq h.collected_le, hget]
    ended := fun j job hjob hj =>
      h.ended j job (hbefore (Nat.lt_of_lt_of_le hj h.collected_le) hjob) hj
    recorded := fun j job hjob hj =>
      h.recorded j job (hbefore (Nat.lt_of_lt_of_le hj h.collected_le) hjob) hj
    broke := fun fault words hbroken =>
      absurd (h.broke fault words hbroken).1 (Nat.ne_of_lt hlt)
    result_eq := by
      show s.result = _
      rw [h.result_eq, gathered, gathered, List.take_append_of_le_length h.collected_le]
    failed_eq := h.failed_eq }

/-- A job that goes on was not waited for yet. -/
theorem Sound.goesOn (h : s.Sound) {j : Nat} {job : PoolJob} {point : PoolJob.Point} (polls : Nat)
    (hget : s.jobs[j]? = some job) (hnot : job.point.isOver = false) :
    Sound { s.put j job point with polls } := by
  have hlate : s.collected ≤ j := by
    by_contra hlt
    rw [h.ended j job hget (Nat.lt_of_not_le hlt)] at hnot
    cases hnot
  have hjobs : ({ s.put j job point with polls }).jobs = s.jobs.set j { job with point } := rfl
  exact {
    budget_le := h.budget_le
    jobs_le := by rw [hjobs, List.length_set]; exact h.jobs_le
    collected_le := by rw [hjobs, List.length_set]; exact h.collected_le
    submitted := by rw [hjobs, List.length_set]; exact h.submitted
    finding := by
      intro k other hother
      rcases getElem?_set_cases hget hother with ⟨rfl, rfl⟩ | ⟨-, hother⟩
      · exact h.finding k job hget
      · exact h.finding k other hother
    ended := by
      intro k other hother hk
      rcases getElem?_set_cases hget hother with ⟨rfl, -⟩ | ⟨-, hother⟩
      · exact absurd hk (Nat.not_lt.mpr hlate)
      · exact h.ended k other hother hk
    recorded := by
      intro k other hother hk
      rcases getElem?_set_cases hget hother with ⟨rfl, -⟩ | ⟨-, hother⟩
      · exact absurd hk (Nat.not_lt.mpr hlate)
      · exact h.recorded k other hother hk
    broke := by
      intro fault words hbroken
      obtain ⟨hall, broken, hplace, hover, hraised⟩ := h.broke fault words hbroken
      -- the job that could not be recorded has ended
      have hne : s.collected ≠ j := by
        rintro rfl
        obtain rfl := Option.some.inj (hget.symm.trans hplace)
        rw [hnot] at hover
        cases hover
      rw [hjobs, List.length_set]
      refine ⟨hall, broken, ?_, hover, hraised⟩
      show (s.jobs.set j _)[s.collected]? = some broken
      rw [List.getElem?_set_ne (Ne.symm hne)]
      exact hplace
    result_eq := by
      have hsame : (s.jobs.set j { job with point }).take s.collected =
          s.jobs.take s.collected := List.take_set_of_le hlate
      show s.result = Enrichment.result ⟨s.given, s.documentText,
        ((s.jobs.set j { job with point }).take s.collected).map (·.point.seen)⟩
      rw [hsame]
      exact h.result_eq
    failed_eq := h.failed_eq }

/-- What the next job has brought is written back. -/
theorem Sound.gathers (h : s.Sound) {job : PoolJob} {f : Finding}
    (hall : s.jobs.length = s.budget) (hbroken : s.broken = none)
    (hjob : s.jobs[s.collected]? = some job)
    (hget : s.findings[s.collected]? = some f) (hover : job.point.isOver)
    (hrecorded : Enrichment.raised? job.point.seen = none) :
    (s.gather f job.point).Sound := by
  obtain ⟨hgiven, htext, hbudget, -, hjobs, -⟩ := s.gather_keeps f job.point
  obtain ⟨hcollected, hstill⟩ := collected_gather (s := s) (f := f) hover hrecorded
  have hlt : s.collected < s.jobs.length := (List.getElem?_eq_some_iff.mp hjob).1
  exact {
    budget_le := by rw [hbudget, hgiven]; exact h.budget_le
    jobs_le := by rw [hbudget, hjobs]; exact h.jobs_le
    collected_le := by rw [hcollected, hjobs]; exact hlt
    submitted := fun _ => by rw [hbudget, hjobs]; exact hall
    finding := by rw [hjobs, hgiven]; exact h.finding
    ended := by
      rw [hjobs, hcollected]
      intro k other hother hk
      rcases Nat.lt_succ_iff_lt_or_eq.mp hk with hk | rfl
      · exact h.ended k other hother hk
      · obtain rfl := Option.some.inj (hother.symm.trans hjob)
        exact hover
    recorded := by
      rw [hjobs, hcollected]
      intro k other hother hk
      rcases Nat.lt_succ_iff_lt_or_eq.mp hk with hk | rfl
      · exact h.recorded k other hother hk
      · obtain rfl := Option.some.inj (hother.symm.trans hjob)
        exact hrecorded
    broke := by
      rw [hstill, hbroken]
      intro fault words hbroken
      cases hbroken
    result_eq := by
      have hlast : s.jobs.take (s.collected + 1) = s.jobs.take s.collected ++ [job] := by
        rw [List.take_add_one, hjob]
        rfl
      have hplace : s.given[s.gathered.jobs.length]? = some f := by
        rw [h.length_gathered, ← h.findings_eq (Nat.le_refl _), hget]
      have hresult : Enrichment.result ⟨s.given, s.documentText, s.gathered.jobs⟩ = s.result :=
        h.result_eq.symm
      rw [result_gather hget hover hrecorded, gathered, hgiven, htext, hjobs, hcollected, hlast,
        List.map_append]
      show _ = Enrichment.result ⟨s.given, s.documentText, s.gathered.jobs ++ [job.point.seen]⟩
      rw [Enrichment.result_concat hplace h.recorded_gathered, hresult, h.length_gathered]
      rfl
    failed_eq := failed_gather f job.point h.failed_eq }

theorem Sound.step (h : s.Sound) (heffect : Effect o s s' new) : s'.Sound := by
  cases heffect with
  | rests => exact h
  | submits f hlt hget => exact h.submits hlt hget
  | goesOn j job hget hgoes => exact h.goesOn _ hget hgoes.not_over
  | gathers job f hall hbroken hjob hget hover hrecorded =>
      exact h.gathers hall hbroken hjob hget hover hrecorded
  | breaks job fault words hall hbroken hjob hover hraised =>
      refine { h with broke := fun fault' words' hbroken' => ⟨hall, job, hjob, hover, ?_⟩ }
      obtain ⟨rfl, rfl⟩ := Prod.mk.inj (Option.some.inj hbroken')
      exact hraised

/-- **Every run is sound**, and keeps what the enrichment was begun with. -/
theorem sound_run (o : Outside) (enabled : Bool) (findings : List Finding) (text : String)
    (limit : Int) (maxWorkers : Nat) (moves : List Move) :
    let s := (start enabled findings text limit maxWorkers).run o moves
    s.Sound ∧ s.given = findings ∧ s.documentText = text ∧
      s.budget = Enrichment.budget enabled limit findings.length ∧
      s.workers = min maxWorkers s.budget := by
  induction moves using List.reverseRecOn with
  | nil => exact ⟨sound_start .., rfl, rfl, rfl, rfl⟩
  | append_singleton moves m ih =>
      obtain ⟨h, hgiven, htext, hbudget, hworkers⟩ := ih
      have heffect := effect_act o ((start enabled findings text limit maxWorkers).run o moves) m
      obtain ⟨hgiven', htext', hbudget', hworkers'⟩ := heffect.keeps
      rw [run_append]
      refine ⟨h.step heffect, hgiven'.trans hgiven, htext'.trans htext, hbudget'.trans hbudget, ?_⟩
      exact hworkers'.trans (hworkers.trans (congrArg _ hbudget'.symm))

/-- When an enrichment is over, all its jobs have ended, and the caller gets what they come
to: what they brought, or what came up at the first failure that could not be recorded. -/
theorem Sound.of_isOver (h : s.Sound) (hover : s.isOver) :
    s.jobs.length = s.budget ∧
      (∀ (j : Nat) (job : PoolJob), s.jobs[j]? = some job → job.point.isOver) ∧
      s.returned =
        Enrichment.collected ⟨s.given, s.documentText, s.jobs.map (·.point.seen)⟩ := by
  cases hbroken : s.broken with
  | none =>
      have hcollected : s.collected = s.budget := by simpa [isOver, hbroken] using hover
      have hall : s.jobs.length = s.budget :=
        Nat.le_antisymm h.jobs_le (hcollected ▸ h.collected_le)
      have hgathered : s.gathered =
          ⟨s.given, s.documentText, s.jobs.map (·.point.seen)⟩ := by
        rw [gathered, List.take_of_length_le (by omega)]
      refine ⟨hall, fun j job hget => ?_, ?_⟩
      · have hj : j < s.jobs.length := (List.getElem?_eq_some_iff.mp hget).1
        exact h.ended j job hget (by omega)
      · have hnone : s.gathered.jobs.findSome? Enrichment.raised? = none :=
          List.findSome?_eq_none_iff.mpr h.recorded_gathered
        rw [← hgathered, Enrichment.collected, hnone, returned, hbroken, h.result_eq]
  | some broken =>
      obtain ⟨fault, words⟩ := broken
      obtain ⟨hall, job, hjob, -, hraised⟩ := h.broke fault words hbroken
      have hended : s.jobs.all (·.point.isOver) = true := by simpa [isOver, hbroken] using hover
      have hfirst : (s.jobs.map (·.point.seen)).findSome? Enrichment.raised? = some fault := by
        have hlast : s.jobs.map (·.point.seen) = s.gathered.jobs ++
            job.point.seen :: (s.jobs.drop (s.collected + 1)).map (·.point.seen) := by
          obtain ⟨hlt, rfl⟩ := List.getElem?_eq_some_iff.mp hjob
          rw [gathered, ← List.map_cons (f := fun job : PoolJob => job.point.seen),
            ← List.map_append, ← List.drop_eq_getElem_cons hlt, List.take_append_drop]
        rw [hlast, List.findSome?_append, List.findSome?_eq_none_iff.mpr h.recorded_gathered,
          List.findSome?_cons, hraised]
        rfl
      refine ⟨hall, fun j job hget => ?_, ?_⟩
      · exact List.all_eq_true.mp hended job (List.mem_of_getElem? hget)
      · rw [Enrichment.collected, hfirst, returned, hbroken]

/-- What a job leaves in the place of its finding once it was waited for. -/
theorem Sound.finding_of_collected (h : s.Sound) {j : Nat} {job : PoolJob}
    (hget : s.jobs[j]? = some job) (hj : j < s.collected) :
    s.findings[j]? = some (Enrichment.outcome job.finding job.point.seen) := by
  have hfindings : s.findings = (s.given.zip s.gathered.jobs).map
      (fun pair => Enrichment.outcome pair.1 pair.2) ++
        s.given.drop s.gathered.jobs.length := congrArg (·.findings) h.result_eq
  have hpair : (s.given.zip s.gathered.jobs)[j]? = some (job.finding, job.point.seen) := by
    refine List.getElem?_zip_eq_some.mpr ⟨h.finding j job hget, ?_⟩
    rw [gathered, List.getElem?_map, List.getElem?_take_of_lt hj, hget, Option.map_some]
  rw [hfindings, List.getElem?_append_left, List.getElem?_map, hpair, Option.map_some]
  rw [List.length_map]
  exact (List.getElem?_eq_some_iff.mp hpair).1

/-- A finding whose job was skipped is unchanged all the time. -/
theorem Sound.finding_of_skipped (h : s.Sound) {j : Nat} {job : PoolJob}
    (hget : s.jobs[j]? = some job) (hpoint : job.point = .skipped) :
    s.findings[j]? = some job.finding := by
  rcases Nat.lt_or_ge j s.collected with hj | hj
  · have hleft := h.finding_of_collected hget hj
    rwa [hpoint] at hleft
  · rw [h.findings_eq hj, h.finding j job hget]

end EnrichmentSession

end LintRelay
