import LintRelay.Proofs.Suggestion.AnyOrder
import LintRelay.Proofs.Validation.Records

/-!
# Cancellation is cooperative

A job asks the service only when its own poll says that the work has not been cancelled. A
pass polls whether it was superseded, and it stays superseded once it is, so none of its jobs
asks after that, and what its jobs were told before goes nowhere.
-/

namespace LintRelay

namespace Pass

/-- A job asks the service with a poll that finds its pass current. -/
theorem of_asked {p : Pass} {sh : Shared} {a : PassAction} {job : Nat}
    {request : SuggestionRequest} (h : .asked job request ∈ p.notes sh a) :
    a = .poll job ∧ p.point ≠ .queued ∧ sh.board.generation p.document.uri = p.token := by
  unfold notes at h
  split at h
  case h_4 e job' hpoint =>
    unfold Enrichment.notesOfPoll at h
    split at h
    next =>
      split at h
      next => cases h
      next hcurrent =>
        obtain ⟨rfl, -⟩ := PassNote.asked.inj (List.mem_singleton.mp h)
        exact ⟨rfl, by simp [hpoint], by simpa using hcurrent⟩
    next => cases h
  case h_5 =>
    unfold Enrichment.notesOfReply at h
    split at h <;> simp at h
  all_goals simp at h

/-- A set that the sink took is that of an outcome. -/
theorem Point.Accounts.of_taken {uri : String} {mine : List Delivery} {q : Point}
    (h : q.Accounts uri mine) {d : Delivery} (hd : d ∈ mine) (htaken : d.taken) :
    ∃ x, q.outcome? = some x ∧ x.isPublished ∧ d.publication = ⟨uri, x.diagnostics⟩ := by
  have hpublished : ∀ x : PassOutcome,
      (if x.isPublished then ∃ d, mine = [d] ∧ d.taken ∧ d.publication = ⟨uri, x.diagnostics⟩
        else mine = []) → x.isPublished ∧ d.publication = ⟨uri, x.diagnostics⟩ := by
    intro x hx
    split at hx
    next hpublished =>
      obtain ⟨d', rfl, -, hpublication⟩ := hx
      obtain rfl := List.mem_singleton.mp hd
      exact ⟨hpublished, hpublication⟩
    next =>
      rw [hx] at hd
      cases hd
  cases q with
  | leaving result | ended result =>
      cases result with
      | ok x => exact ⟨x, rfl, hpublished x h⟩
      | error => exact absurd htaken (h d hd)
  | _ =>
      obtain rfl : mine = [] := h
      cases hd

end Pass

namespace Session

/-- A pass was superseded: it has begun, and another token is current. -/
def Superseded (s : Session) (i : Nat) : Prop :=
  ∃ r, s.passes[i]? = some r ∧ r.pass.point ≠ .queued ∧ s.board.generation r.uri ≠ r.pass.token

/-- A document's generation never goes back. -/
theorem generation_le_run {s : Session} (hs : s.QueueWaits) (moves : List Move) (uri : String) :
    s.board.generation uri ≤ (s.run moves).board.generation uri :=
  run_induction (P := fun b _ _ => s.board.generation uri ≤ b.generation uri) hs (Nat.le_refl _)
    moves fun _ hle heffect => Nat.le_trans hle (heffect.generation_le uri)

section

variable (o : Orchestrator) (workers : Nat) (before : List Move) {i : Nat}

/-- A pass that was superseded has an earlier token than the current one, and keeps it. -/
theorem Superseded.token_lt (h : ((start o workers).run before).Superseded i)
    (after : List Move) :
    ∃ r, ((start o workers).run (before ++ after)).passes[i]? = some r ∧
      r.pass.point ≠ .queued ∧
      r.pass.token < ((start o workers).run before).board.generation r.uri ∧
      r.pass.token < ((start o workers).run (before ++ after)).board.generation r.uri := by
  obtain ⟨r, hget, hbegun, hstale⟩ := h
  have hs := queueWaits_run o workers before
  have hlt : r.pass.token < ((start o workers).run before).board.generation r.uri :=
    Nat.lt_of_le_of_ne ((tokens_run o workers before).bounded i r hget hbegun) (Ne.symm hstale)
  obtain ⟨r', hget', hbecomes⟩ := becomes_run hs after hget
  obtain ⟨hbegun', htoken⟩ := hbecomes.begun hbegun
  have huri : r'.uri = r.uri := congrArg Document.uri hbecomes.document
  rw [run_append]
  refine ⟨r', hget', hbegun', ?_, ?_⟩ <;> rw [huri, htoken]
  · exact hlt
  · exact Nat.lt_of_lt_of_le hlt (generation_le_run hs after r.uri)

/-- **A pass that was superseded stays so.** -/
theorem Superseded.run (h : ((start o workers).run before).Superseded i) (after : List Move) :
    ((start o workers).run (before ++ after)).Superseded i := by
  obtain ⟨r, hget, hbegun, -, hlt⟩ := h.token_lt o workers before after
  exact ⟨r, hget, hbegun, Nat.ne_of_gt hlt⟩

/-- What is noted in a run is noted with one of its moves. -/
theorem noted_of_mem_journal {s : Session} {note : PassNote} {moves : List Move}
    (h : note ∈ s.journal i moves) :
    ∃ front m back, moves = front ++ m :: back ∧ note ∈ (s.run front).noted i m := by
  induction moves generalizing s with
  | nil => cases h
  | cons m moves ih =>
      rcases List.mem_append.mp h with hnow | hlater
      · exact ⟨[], m, moves, rfl, hnow⟩
      · obtain ⟨front, m', back, rfl, hnote⟩ := ih hlater
        exact ⟨m :: front, m', back, rfl, hnote⟩

/-- A job asks the service with a poll of its own, and not when its pass was superseded. -/
theorem of_noted_asked {s : Session} {m : Move} {job : Nat} {request : SuggestionRequest}
    (h : .asked job request ∈ s.noted i m) :
    (∃ sink, m = .act i sink (.poll job)) ∧ ¬s.Superseded i := by
  unfold noted at h
  split at h
  next j sink a r hget =>
    split at h
    next hj =>
      subst hj
      obtain ⟨rfl, -, hcurrent⟩ := Pass.of_asked h
      refine ⟨⟨sink, rfl⟩, ?_⟩
      rintro ⟨r', hget', -, hstale⟩
      obtain rfl := Option.some.inj (hget'.symm.trans hget)
      exact hstale hcurrent
    next => cases h
  next => cases h

/-- A pass that was superseded asks the service for nothing. -/
theorem Superseded.not_asked (h : ((start o workers).run before).Superseded i)
    (after : List Move) (job : Nat) (request : SuggestionRequest) :
    .asked job request ∉ ((start o workers).run before).journal i after := by
  intro hasked
  obtain ⟨front, m, back, rfl, hnoted⟩ := noted_of_mem_journal hasked
  have hstill := h.run o workers before front
  rw [run_append] at hstill
  exact (of_noted_asked hnoted).2 hstill

/-- A pass that was superseded hands no further set over. -/
theorem Superseded.handed_eq (h : ((start o workers).run before).Superseded i)
    (after : List Move) : ((start o workers).run (before ++ after)).handed i =
      ((start o workers).run before).handed i := by
  obtain ⟨r, hget, -, hlt, -⟩ := h.token_lt o workers before after
  have hdelivered := delivered_run o workers (before ++ after)
  obtain ⟨later, hdeliveries, hlater⟩ :=
    deliveries_run (queueWaits_run o workers before) after
  rw [← run_append] at hdeliveries
  rw [handed, handed, hdeliveries, List.filter_append]
  refine (congrArg _ (List.filter_eq_nil_iff.mpr fun d hd hpass => ?_)).trans (List.append_nil _)
  -- a later set would go under a token that is not behind the generation of that moment
  obtain ⟨q, hq, hfrom⟩ := hdelivered.ofPass d (hdeliveries ▸ List.mem_append_right _ hd)
  rw [of_decide_eq_true hpass] at hq
  obtain rfl := Option.some.inj (hq.symm.trans hget)
  have hle := hlater d hd
  rw [← hfrom.uri, ← hfrom.token] at hle
  exact absurd hlt (Nat.not_lt.mpr hle)

/-- A pass that is superseded while it is under way never hands a set over. -/
theorem Superseded.handed_eq_nil (h : ((start o workers).run before).Superseded i)
    (hway : ∀ r, ((start o workers).run before).passes[i]? = some r → r.pass.point.isUnderWay)
    (after : List Move) : ((start o workers).run (before ++ after)).handed i = [] := by
  rw [h.handed_eq o workers before after]
  obtain ⟨r, hget, -, -⟩ := h
  have haccounts := (accounts_run o workers before hget).1
  exact (Pass.Point.accounts_iff_of_isUnderWay (hway r hget)).mp haccounts

/-- What a set suggests that the sink took is what the service replied to the jobs of the
pass that handed it over. -/
theorem suggestions_of_taken (moves : List Move) {d : Delivery}
    (hd : d ∈ ((start o workers).run moves).deliveries) (htaken : d.taken) :
    d.publication.diagnostics = [] ∨
      ∃ r reports, ((start o workers).run moves).passes[d.pass]? = some r ∧
        r.pass.document.Shows o.context.relatedInformation (r.pass.document.findings reports)
          (PassNote.suggestion? ((start o workers).journal d.pass moves))
          d.publication.diagnostics := by
  obtain ⟨r, hget, -⟩ := (delivered_run o workers moves).ofPass d hd
  have hmine : d ∈ ((start o workers).run moves).handed d.pass :=
    List.mem_filter.mpr ⟨hd, decide_eq_true rfl⟩
  obtain ⟨x, hx, hpublished, hpublication⟩ :=
    (accounts_run o workers moves hget).1.of_taken hmine htaken
  have hcourse := course_run o workers moves hget
  have hleaving : Pass.Course o.context (MeetsFault moves d.pass) r.pass.document
      ((start o workers).journal d.pass moves) (.leaving (.ok x)) := by
    cases hpoint : r.pass.point with
    | leaving result | ended result =>
        cases result with
        | ok y =>
            rw [hpoint] at hx hcourse
            obtain rfl := Option.some.inj hx
            first | exact hcourse | exact hcourse.leaving
        | error => simp [hpoint, Pass.Point.outcome?] at hx
    | _ => simp [hpoint, Pass.Point.outcome?] at hx
  rw [hpublication]
  rcases hleaving.outcome_cases with ⟨hstatus, output, hlinted⟩ | ⟨-, hempty, -⟩ |
    ⟨hstatus, -⟩ | hstatus
  · obtain ⟨reports, -, -, hshows⟩ := hleaving.shows_of_published hstatus ((hlinted _).mpr rfl)
    exact .inr ⟨r, reports, hget, hshows⟩
  · exact .inl hempty
  · simp [PassOutcome.isPublished, hstatus] at hpublished
  · simp [PassOutcome.isPublished, hstatus] at hpublished

/-- A request was asked for with a poll of its job, at a moment up to which the pass had not
been superseded. -/
theorem current_of_asked (moves : List Move) {job : Nat} {request : SuggestionRequest}
    (h : .asked job request ∈ (start o workers).journal i moves) :
    ∃ front sink back, moves = front ++ .act i sink (.poll job) :: back ∧
      .asked job request ∈ ((start o workers).run front).noted i (.act i sink (.poll job)) ∧
      ∀ earlier later, front = earlier ++ later →
        ¬((start o workers).run earlier).Superseded i := by
  obtain ⟨front, m, back, rfl, hnoted⟩ := noted_of_mem_journal h
  obtain ⟨⟨sink, rfl⟩, hcurrent⟩ := of_noted_asked hnoted
  refine ⟨front, sink, back, rfl, hnoted, ?_⟩
  rintro earlier later rfl hsuperseded
  exact hcurrent (hsuperseded.run o workers earlier later)

end

/-- **Cancellation is cooperative.** Whatever the check says from one poll to the next and
whatever the workers do first, an enrichment comes to its end, and by then the check was
polled once for each finding within the budget. A job has asked the service exactly if its own
poll said that the work had not been cancelled, and the finding is unchanged if it said that
it had; those counted as requested in what the caller gets are the polls that said it had not,
when the service replies with texts and failures only. Such a pool is what the jobs of a pass
are. So in every run of an orchestrator, a job asks with a poll that finds its pass not
superseded, and a pass that was superseded stays so: none of its jobs asks any more, it hands
no further set over, and none at all if it was under way. What the sink has taken suggests what
was replied to the jobs of the pass that handed it over. -/
theorem cancellation_is_cooperative :
    (∀ (o : EnrichmentSession.Outside) (enabled : Bool) (findings : List Finding) (text : String)
      (limit : Int) (maxWorkers : Nat) (moves : List EnrichmentSession.Move),
      let pool := EnrichmentSession.start enabled findings text limit maxWorkers
      let s := pool.run o moves
      let trace := pool.trace o moves
      let budget := Enrichment.budget enabled limit findings.length
      (∀ m, s.step o m = s ∨ (s.step o m).distance < s.distance) ∧
      (0 < maxWorkers → s.isOver ∨ ∃ m, (s.step o m).distance < s.distance) ∧
      pool.seen = .start enabled findings text limit ∧
      (∀ m, (s.step o m).seen = s.seen ∨
        ∃ j, (∃ cancelled, (s.act o m).2 = [.polled j cancelled] ∧
            (s.step o m).seen = s.seen.poll j cancelled) ∨
          ∃ reply, (s.step o m).seen = s.seen.reply j reply) ∧
      (s.isOver →
        s.seen.isOver ∧ s.returned = s.seen.collected ∧
        trace.filterMap PoolEvent.answer? = (List.range budget).map o.cancelled ∧
        (∀ j f, j < budget → findings[j]? = some f →
          (trace.filter (·.job = j) = [.polled j true] ∧ s.findings[j]? = some f) ∨
            trace.filter (·.job = j) = [.polled j false, .asked j (.ofFinding text f)]) ∧
        (∀ j, budget ≤ j → trace.filter (·.job = j) = []) ∧
        ((∀ j request, o.service j request ≠ .ok none) → ∀ result, s.returned = .ok result →
          result.requested = (trace.filterMap PoolEvent.answer?).count false ∧
            result.requested = (trace.filterMap PoolEvent.request?).length))) ∧
    ∀ (o : Orchestrator) (workers : Nat) (moves : List Move),
      let s := (start o workers).run moves
      (∀ i job request, .asked job request ∈ (start o workers).journal i moves →
        ∃ front sink back, moves = front ++ .act i sink (.poll job) :: back ∧
          .asked job request ∈
            ((start o workers).run front).noted i (.act i sink (.poll job)) ∧
          ∀ earlier later, front = earlier ++ later →
            ¬((start o workers).run earlier).Superseded i) ∧
      (∀ i, s.Superseded i → ∀ after,
        ((start o workers).run (moves ++ after)).Superseded i ∧
        (∀ job request, .asked job request ∉ s.journal i after) ∧
        ((start o workers).run (moves ++ after)).handed i = s.handed i ∧
        ((∀ r, s.passes[i]? = some r → r.pass.point.isUnderWay) →
          ((start o workers).run (moves ++ after)).handed i = [])) ∧
      ∀ d ∈ s.deliveries, d.taken → d.publication.diagnostics = [] ∨
        ∃ r reports, s.passes[d.pass]? = some r ∧
          r.pass.document.Shows o.context.relatedInformation
            (r.pass.document.findings reports)
            (PassNote.suggestion? ((start o workers).journal d.pass moves))
            d.publication.diagnostics := by
  constructor
  · intro o enabled findings text limit maxWorkers moves pool s trace budget
    obtain ⟨h, -, -, -, hworkers⟩ :=
      EnrichmentSession.sound_run o enabled findings text limit maxWorkers moves
    refine ⟨fun m => (EnrichmentSession.effect_act o s m).nearer, fun hpositive => ?_,
      EnrichmentSession.seen_start .., fun m => (EnrichmentSession.effect_act o s m).seen_cases,
      fun hover => ?_⟩
    · cases hover : s.isOver with
      | true => exact .inl rfl
      | false => exact .inr (h.advances o hpositive hworkers hover)
    · obtain ⟨hseen, hresult⟩ := h.seen_of_isOver hover
      obtain ⟨heach, hothers⟩ :=
        EnrichmentSession.each_polls o enabled findings text limit maxWorkers moves hover
      refine ⟨hseen, hresult, ?_, heach, hothers, fun hreplies => ?_⟩
      · exact EnrichmentSession.polls_eq o enabled findings text limit maxWorkers moves hover
      · exact EnrichmentSession.requested_eq o enabled findings text limit maxWorkers moves
          hreplies hover
  · intro o workers moves s
    refine ⟨fun i job request hasked => current_of_asked o workers moves hasked, ?_,
      fun d hd htaken => suggestions_of_taken o workers moves hd htaken⟩
    intro i hsuperseded after
    exact ⟨hsuperseded.run o workers moves after, hsuperseded.not_asked o workers moves after,
      hsuperseded.handed_eq o workers moves after,
      fun hway => hsuperseded.handed_eq_nil o workers moves hway after⟩

end Session

end LintRelay
