import LintRelay.Proofs.Suggestion.Pool

/-!
# Every job polls for itself

A job polls once and asks the service when its own poll says that the work has not been
cancelled, and only then. So what the check and the service have seen of a job goes with
where it stands.
-/

namespace LintRelay

/-- What the check and the service have seen of a job, by where it stands. -/
def PoolJob.Point.events (j : Nat) (request : SuggestionRequest) : Point → List PoolEvent
  | queued | taken => []
  | cleared => [.polled j false]
  | asked | answered _ => [.polled j false, .asked j request]
  | skipped => [.polled j true]

namespace PoolJob.Point

def hasPolled : Point → Bool
  | queued | taken => false
  | cleared | asked | skipped | answered _ => true

/-- Whether a job was told that the work had not been cancelled. -/
def isCleared : Point → Bool
  | queued | taken | skipped => false
  | cleared | asked | answered _ => true

def hasAsked : Point → Bool
  | queued | taken | cleared | skipped => false
  | asked | answered _ => true

end PoolJob.Point

namespace PoolJob.Goes

variable {o : EnrichmentSession.Outside} {polls j : Nat} {request : SuggestionRequest}
  {point point' : PoolJob.Point} {new : List PoolEvent}

theorem events_eq (h : PoolJob.Goes o polls j request point point' new) :
    point'.events j request = point.events j request ++ new := by
  cases h <;> rfl

theorem job_eq (h : PoolJob.Goes o polls j request point point' new) :
    ∀ e ∈ new, e.job = j := by
  cases h <;> simp [PoolEvent.job]

/-- A job is told the next answer of the check. -/
theorem answers_eq (h : PoolJob.Goes o polls j request point point' new) :
    (List.range polls).map o.cancelled ++ new.filterMap PoolEvent.answer? =
      (List.range (polls + (new.filterMap PoolEvent.answer?).length)).map o.cancelled := by
  cases h with
  | stops hcancelled | clears hcancelled =>
      simp [PoolEvent.answer?, List.range_succ, hcancelled]
  | starts | asks | returns => exact List.append_nil _

/-- A job that has its reply got it from the service. -/
theorem reply_eq (h : PoolJob.Goes o polls j request point point' new)
    {reply : Except Fault (Option String)} (hanswered : point' = .answered reply) :
    reply = o.service j request := by
  cases h with
  | returns => exact (PoolJob.Point.answered.inj hanswered).symm
  | _ => cases hanswered

end PoolJob.Goes

namespace EnrichmentSession

/-- What the check and the service have seen of a job. -/
def eventsOf (s : EnrichmentSession) (j : Nat) : List PoolEvent :=
  match s.jobs[j]? with
  | some job => job.point.events j (s.requestFor job.finding)
  | none => []

/-- Where the jobs stand goes with what the check and the service have seen. -/
structure Traced (o : Outside) (s : EnrichmentSession) (trace : List PoolEvent) : Prop where
  each : ∀ j, trace.filter (·.job = j) = s.eventsOf j
  answers : trace.filterMap PoolEvent.answer? = (List.range s.polls).map o.cancelled
  replies : ∀ (j : Nat) (job : PoolJob) (reply : Except Fault (Option String)),
    s.jobs[j]? = some job → job.point = .answered reply →
      reply = o.service j (s.requestFor job.finding)

variable {o : Outside} {s s' : EnrichmentSession} {trace new : List PoolEvent}

theorem Traced.goesOn (h : Traced o s trace) {j : Nat} {job : PoolJob} {point : PoolJob.Point}
    (hget : s.jobs[j]? = some job)
    (hgoes : PoolJob.Goes o s.polls j (s.requestFor job.finding) job.point point new) :
    Traced o { s.put j job point with polls := s.polls + (new.filterMap PoolEvent.answer?).length }
      (trace ++ new) := by
  constructor
  case each =>
    intro k
    rw [List.filter_append, h.each k]
    show _ = match (s.jobs.set j { job with point })[k]? with
      | some job => job.point.events k (s.requestFor job.finding)
      | none => []
    rw [getElem?_set_of_getElem? hget]
    by_cases hk : k = j
    · subst hk
      have hall : new.filter (·.job = k) = new :=
        List.filter_eq_self.mpr fun e he => decide_eq_true (hgoes.job_eq e he)
      rw [if_pos rfl, hall, eventsOf, hget]
      exact hgoes.events_eq.symm
    · have hnone : new.filter (·.job = k) = [] := by
        refine List.filter_eq_nil_iff.mpr fun e he hjob => hk ?_
        rw [← hgoes.job_eq e he, of_decide_eq_true hjob]
      rw [if_neg hk, hnone, List.append_nil]
      rfl
  case answers =>
    rw [List.filterMap_append, h.answers]
    exact hgoes.answers_eq
  case replies =>
    intro k other reply hother hanswered
    rcases getElem?_set_cases hget hother with ⟨rfl, rfl⟩ | ⟨-, hother⟩
    · exact hgoes.reply_eq hanswered
    · exact h.replies k other reply hother hanswered

theorem Traced.step (h : Traced o s trace) (heffect : Effect o s s' new) :
    Traced o s' (trace ++ new) := by
  cases heffect with
  | rests => rwa [List.append_nil]
  | submits f =>
      rw [List.append_nil]
      refine ⟨fun j => ?_, h.answers, fun j job reply hjob hanswered => ?_⟩
      · rw [h.each j, eventsOf, eventsOf]
        cases hjob : s.jobs[j]? with
        | some job =>
            show _ = match (s.jobs ++ [_])[j]? with | some _ => _ | none => _
            rw [List.getElem?_append_left (List.getElem?_eq_some_iff.mp hjob).1, hjob]
            rfl
        | none =>
            show [] = match (s.jobs ++ [PoolJob.mk f .queued])[j]? with | some _ => _ | none => _
            rw [List.getElem?_append_right (List.getElem?_eq_none_iff.mp hjob)]
            split
            next hnew =>
              obtain rfl := List.mem_singleton.mp (List.mem_of_getElem? hnew)
              rfl
            next => rfl
      · rcases getElem?_concat_cases hjob with hjob | rfl
        · exact h.replies j job reply hjob hanswered
        · cases hanswered
  | goesOn j job hget hgoes => exact h.goesOn hget hgoes
  | gathers job f =>
      obtain ⟨-, htext, -, -, hjobs, hpolls⟩ := s.gather_keeps f job.point
      have hrequest : ∀ f', (s.gather f job.point).requestFor f' = s.requestFor f' := by
        intro f'
        rw [requestFor, htext]
        rfl
      rw [List.append_nil]
      refine ⟨fun j => ?_, hpolls ▸ h.answers, ?_⟩
      · rw [h.each j, eventsOf, eventsOf, hjobs]
        simp only [hrequest]
      · simp only [hjobs, hrequest]
        exact h.replies
  | breaks =>
      rw [List.append_nil]
      exact ⟨h.each, h.answers, h.replies⟩

/-- **Every run is traced.** -/
theorem traced_run (o : Outside) (enabled : Bool) (findings : List Finding) (text : String)
    (limit : Int) (maxWorkers : Nat) (moves : List Move) :
    Traced o ((start enabled findings text limit maxWorkers).run o moves)
      ((start enabled findings text limit maxWorkers).trace o moves) := by
  induction moves using List.reverseRecOn with
  | nil => exact ⟨fun j => rfl, rfl, fun j job reply hjob => by cases hjob⟩
  | append_singleton moves m ih =>
      have heffect := effect_act o ((start enabled findings text limit maxWorkers).run o moves) m
      rw [run_append, trace_concat]
      exact ih.step heffect

/-! ## The jobs of a pass -/

/-- An enrichment at work as a pass sees it. A job that is not handed in yet waits. -/
def seen (s : EnrichmentSession) : Enrichment :=
  ⟨s.given, s.documentText,
    s.jobs.map (·.point.seen) ++ List.replicate (s.budget - s.jobs.length) .waiting⟩

theorem seen_start (enabled : Bool) (findings : List Finding) (text : String) (limit : Int)
    (maxWorkers : Nat) : (start enabled findings text limit maxWorkers).seen =
      .start enabled findings text limit := rfl

theorem seen_submits {f : Finding} (hlt : s.jobs.length < s.budget) :
    seen { s with jobs := s.jobs ++ [{ finding := f }] } = s.seen := by
  obtain ⟨rest, hrest⟩ : ∃ rest, s.budget - s.jobs.length = rest + 1 :=
    ⟨s.budget - s.jobs.length - 1, by omega⟩
  have hless : s.budget - (s.jobs.length + 1) = rest := by omega
  simp only [seen, List.length_append, List.length_singleton, hrest, hless, List.map_append,
    List.append_assoc, List.replicate_succ]
  rfl

theorem seen_put {j : Nat} {job : PoolJob} (hget : s.jobs[j]? = some job)
    (point : PoolJob.Point) (polls : Nat) :
    s.seen.jobs[j]? = some job.point.seen ∧
      seen { s.put j job point with polls } =
        { s.seen with jobs := s.seen.jobs.set j point.seen } := by
  have hj : j < (s.jobs.map (·.point.seen)).length := by
    rw [List.length_map]
    exact (List.getElem?_eq_some_iff.mp hget).1
  constructor
  · rw [seen, List.getElem?_append_left hj, List.getElem?_map, hget, Option.map_some]
  · simp only [seen, put, List.length_set, List.map_set, List.set_append_left _ _ hj]

/-- A pool polls and gets replies as the jobs of a pass do, and does nothing else to them. -/
theorem Effect.seen_cases (h : Effect o s s' new) :
    s'.seen = s.seen ∨
      ∃ j, (∃ cancelled, new = [.polled j cancelled] ∧ s'.seen = s.seen.poll j cancelled) ∨
        ∃ reply, s'.seen = s.seen.reply j reply := by
  cases h with
  | rests => exact .inl rfl
  | submits f hlt => exact .inl (seen_submits hlt)
  | goesOn j job hget hgoes =>
      obtain ⟨hbefore, hafter⟩ := seen_put hget _ _
      rw [hafter]
      have hsame : ∀ job', s.seen.jobs[j]? = some job' →
          { s.seen with jobs := s.seen.jobs.set j job' } = s.seen := fun job' hjob => by
        rw [set_of_getElem? hjob]
      obtain ⟨f, point⟩ := job
      cases hgoes with
      | starts | asks => exact .inl (hsame _ hbefore)
      | stops | clears =>
          refine .inr ⟨j, .inl ⟨_, rfl, ?_⟩⟩
          rw [Enrichment.poll, hbefore]
          rfl
      | returns =>
          refine .inr ⟨j, .inr
            ⟨(o.service j (s.requestFor f)).mapError SuggestError.ofFault, ?_⟩⟩
          rw [Enrichment.reply, hbefore]
          rfl
  | gathers job f =>
      obtain ⟨hgiven, htext, hbudget, -, hjobs, -⟩ := s.gather_keeps f job.point
      left
      rw [seen, seen, hgiven, htext, hbudget, hjobs]
  | breaks => exact .inl rfl

/-- When a pool is done, so are the jobs that the pass sees, and it gets what they come to. -/
theorem Sound.seen_of_isOver (h : s.Sound) (hover : s.isOver) :
    s.seen.isOver ∧ s.returned = s.seen.collected := by
  obtain ⟨hall, hended, hreturned⟩ := h.of_isOver hover
  have hseen : s.seen = ⟨s.given, s.documentText, s.jobs.map (·.point.seen)⟩ := by
    rw [seen, hall, Nat.sub_self, List.replicate_zero, List.append_nil]
  rw [hseen]
  refine ⟨List.all_eq_true.mpr fun state hstate => ?_, hreturned⟩
  obtain ⟨job, hjob, rfl⟩ := List.mem_map.mp hstate
  obtain ⟨j, hget⟩ := List.getElem?_of_mem hjob
  have hpoint := hended j job hget
  revert hpoint
  cases job.point <;> simp [PoolJob.Point.isOver, PoolJob.Point.seen, EnrichmentJob.isOver]

/-! ## Counting -/

/-- An event of a kind happens to a job when it gets to certain points, and once. -/
structure Marks (kind : PoolEvent → Bool) (past : PoolJob.Point → Bool) : Prop where
  queued : past .queued = false
  goes : ∀ {o : Outside} {polls j : Nat} {request : SuggestionRequest}
    {point point' : PoolJob.Point} {new : List PoolEvent},
    PoolJob.Goes o polls j request point point' new →
      (if past point' then 1 else 0) = (if past point then 1 else 0) + new.countP kind

variable {kind : PoolEvent → Bool} {past : PoolJob.Point → Bool}

theorem Marks.step (h : Marks kind past) (heffect : Effect o s s' new) :
    s'.jobs.countP (past ·.point) = s.jobs.countP (past ·.point) + new.countP kind := by
  cases heffect with
  | rests => rfl
  | submits f =>
      show (s.jobs ++ [PoolJob.mk f .queued]).countP _ = _
      simp [List.countP_append, h.queued]
  | goesOn j job hget hgoes =>
      obtain ⟨hlt, rfl⟩ := List.getElem?_eq_some_iff.mp hget
      have hgoes := h.goes hgoes
      have hpos : (if past s.jobs[j].point then 1 else 0) ≤ s.jobs.countP (past ·.point) := by
        split
        next hpast => exact List.countP_pos_iff.mpr ⟨_, List.getElem_mem hlt, hpast⟩
        next => exact Nat.zero_le _
      show (s.jobs.set j _).countP _ = _
      rw [List.countP_set hlt, hgoes]
      omega
  | gathers job f =>
      rw [(s.gather_keeps f job.point).2.2.2.2.1]
      rfl
  | breaks => rfl

/-- As many events of a kind have happened as there are jobs past them. -/
theorem Marks.count (h : Marks kind past) (o : Outside) (enabled : Bool) (findings : List Finding)
    (text : String) (limit : Int) (maxWorkers : Nat) (moves : List Move) :
    ((start enabled findings text limit maxWorkers).trace o moves).countP kind =
      ((start enabled findings text limit maxWorkers).run o moves).jobs.countP (past ·.point) := by
  induction moves using List.reverseRecOn with
  | nil => rfl
  | append_singleton moves m ih =>
      have heffect := effect_act o ((start enabled findings text limit maxWorkers).run o moves) m
      rw [run_append, trace_concat, List.countP_append, ih]
      exact (h.step heffect).symm

theorem marks_polled : Marks (·.answer?.isSome) PoolJob.Point.hasPolled :=
  ⟨rfl, fun hgoes => by cases hgoes <;> rfl⟩

theorem marks_cleared : Marks (·.answer? == some false) PoolJob.Point.isCleared :=
  ⟨rfl, fun hgoes => by cases hgoes <;> rfl⟩

theorem marks_asked : Marks (·.request?.isSome) PoolJob.Point.hasAsked :=
  ⟨rfl, fun hgoes => by cases hgoes <;> rfl⟩

/-! ## When all is over -/

/-- A job that has ended was skipped since its own poll said so, or has the reply to its
request. -/
theorem Traced.ended_cases (h : Traced o s trace) {j : Nat} {job : PoolJob}
    (hget : s.jobs[j]? = some job) (hover : job.point.isOver) :
    (job.point = .skipped ∧ trace.filter (·.job = j) = [.polled j true]) ∨
      (job.point = .answered (o.service j (s.requestFor job.finding)) ∧
        trace.filter (·.job = j) =
          [.polled j false, .asked j (s.requestFor job.finding)]) := by
  have heach : trace.filter (·.job = j) = job.point.events j (s.requestFor job.finding) := by
    rw [h.each j, eventsOf, hget]
  cases hpoint : job.point with
  | skipped =>
      rw [hpoint] at heach
      exact .inl ⟨rfl, heach⟩
  | answered reply =>
      obtain rfl := h.replies j job reply hget hpoint
      rw [hpoint] at heach
      exact .inr ⟨rfl, heach⟩
  | queued | taken | cleared | asked => simp [hpoint, PoolJob.Point.isOver] at hover

/-- When the check never says that the work has been cancelled, a job that has ended has the
reply to its request. -/
theorem Traced.answered (h : Traced o s trace) (hnever : ∀ n, o.cancelled n = false) {j : Nat}
    {job : PoolJob} (hget : s.jobs[j]? = some job) (hover : job.point.isOver) :
    job.point = .answered (o.service j (s.requestFor job.finding)) ∧
      trace.filter (·.job = j) = [.polled j false, .asked j (s.requestFor job.finding)] := by
  refine (h.ended_cases hget hover).resolve_left ?_
  rintro ⟨-, hevents⟩
  have hmem : .polled j true ∈ trace.filter (·.job = j) := hevents ▸ List.mem_singleton_self _
  have hanswer : true ∈ trace.filterMap PoolEvent.answer? :=
    List.mem_filterMap.mpr ⟨_, (List.mem_filter.mp hmem).1, rfl⟩
  rw [h.answers] at hanswer
  obtain ⟨n, -, hcancelled⟩ := List.mem_map.mp hanswer
  rw [hnever n] at hcancelled
  cases hcancelled

section

variable (o : Outside) (enabled : Bool) (findings : List Finding) (text : String) (limit : Int)
  (maxWorkers : Nat) (moves : List Move)

theorem polls_eq (hover : ((start enabled findings text limit maxWorkers).run o moves).isOver) :
    ((start enabled findings text limit maxWorkers).trace o moves).filterMap PoolEvent.answer? =
      (List.range (Enrichment.budget enabled limit findings.length)).map o.cancelled := by
  obtain ⟨h, -, -, hbudget, -⟩ := sound_run o enabled findings text limit maxWorkers moves
  have htraced := traced_run o enabled findings text limit maxWorkers moves
  obtain ⟨hall, hended, -⟩ := h.of_isOver hover
  -- as many jobs have polled as there are polls, and every job that has ended has polled
  have hpolls := congrArg List.length htraced.answers
  rw [List.length_filterMap_eq_countP,
    marks_polled.count o enabled findings text limit maxWorkers moves,
    List.countP_eq_length.mpr, hall, hbudget, List.length_map, List.length_range] at hpolls
  · rw [hpolls, htraced.answers]
  · intro job hjob
    obtain ⟨j, hget⟩ := List.getElem?_of_mem hjob
    have hpoint := hended j job hget
    revert hpoint
    cases job.point <;> simp [PoolJob.Point.isOver, PoolJob.Point.hasPolled]

/-- Each job was told by its own poll, and has asked the service if it was not told that the
work had been cancelled; if it was, its finding is unchanged. Others have neither polled nor
asked. -/
theorem each_polls (hover : ((start enabled findings text limit maxWorkers).run o moves).isOver) :
    let s := (start enabled findings text limit maxWorkers).run o moves
    let trace := (start enabled findings text limit maxWorkers).trace o moves
    (∀ j f, j < Enrichment.budget enabled limit findings.length → findings[j]? = some f →
      (trace.filter (·.job = j) = [.polled j true] ∧ s.findings[j]? = some f) ∨
        trace.filter (·.job = j) = [.polled j false, .asked j (.ofFinding text f)]) ∧
    ∀ j, Enrichment.budget enabled limit findings.length ≤ j →
      trace.filter (·.job = j) = [] := by
  intro s trace
  obtain ⟨h, hgiven, htext, hbudget, -⟩ :=
    sound_run o enabled findings text limit maxWorkers moves
  have htraced := traced_run o enabled findings text limit maxWorkers moves
  obtain ⟨hall, hended, -⟩ := h.of_isOver hover
  constructor
  · intro j f hlt hf
    obtain ⟨job, hget⟩ : ∃ job, s.jobs[j]? = some job :=
      ⟨_, List.getElem?_eq_getElem (by rw [hall, hbudget]; exact hlt)⟩
    have hfinding : findings[j]? = some job.finding := by
      rw [← hgiven]
      exact h.finding j job hget
    obtain rfl := Option.some.inj (hfinding.symm.trans hf)
    rcases htraced.ended_cases hget (hended j job hget) with ⟨hpoint, hevents⟩ | ⟨-, hevents⟩
    · exact .inl ⟨hevents, h.finding_of_skipped hget hpoint⟩
    · rw [requestFor, htext] at hevents
      exact .inr hevents
  · intro j hj
    have hnone : s.jobs[j]? = none := List.getElem?_eq_none (by rw [hall, hbudget]; exact hj)
    rw [htraced.each j, eventsOf, hnone]

/-- What is counted as requested, when the service replies with texts and failures only, are
the jobs that were not told that the work had been cancelled, and these have asked. -/
theorem requested_eq (hreplies : ∀ j request, o.service j request ≠ .ok none)
    (hover : ((start enabled findings text limit maxWorkers).run o moves).isOver) :
    let s := (start enabled findings text limit maxWorkers).run o moves
    let trace := (start enabled findings text limit maxWorkers).trace o moves
    ∀ result, s.returned = .ok result →
      result.requested = (trace.filterMap PoolEvent.answer?).count false ∧
        result.requested = (trace.filterMap PoolEvent.request?).length := by
  intro s trace result hok
  obtain ⟨h, -⟩ := sound_run o enabled findings text limit maxWorkers moves
  have htraced := traced_run o enabled findings text limit maxWorkers moves
  obtain ⟨-, hended, hreturned⟩ := h.of_isOver hover
  have hrequested : result.requested =
      s.jobs.countP fun job => Enrichment.counts job.point.seen := by
    rw [Enrichment.eq_result_of_collected (hreturned.symm.trans hok)]
    exact List.countP_map
  have hsame : ∀ job ∈ s.jobs, Enrichment.counts job.point.seen = job.point.hasAsked ∧
      job.point.isCleared = job.point.hasAsked := by
    intro job hjob
    obtain ⟨j, hget⟩ := List.getElem?_of_mem hjob
    rcases htraced.ended_cases hget (hended j job hget) with ⟨hpoint, -⟩ | ⟨hpoint, -⟩
    · rw [hpoint]
      exact ⟨rfl, rfl⟩
    · have hreply := hreplies j (s.requestFor job.finding)
      rw [hpoint]
      refine ⟨?_, rfl⟩
      rcases hservice : o.service j (s.requestFor job.finding) with fault | (- | suggestion)
      · rfl
      · exact absurd hservice hreply
      · rfl
  constructor
  · rw [List.count_filterMap, marks_cleared.count, hrequested]
    exact List.countP_congr fun job hjob => by rw [(hsame job hjob).1, (hsame job hjob).2]
  · rw [List.length_filterMap_eq_countP, marks_asked.count, hrequested]
    exact List.countP_congr fun job hjob => by rw [(hsame job hjob).1]

end

end EnrichmentSession

end LintRelay
