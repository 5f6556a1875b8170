import LintRelay.Proofs.Validation.Completing

/-!
# A pass on its own without readable output

A pass that is left to itself comes to ask the linter, whatever the settings, unless there
are no words for the provider's failure. If the linter gives no output that can be read, the
pass ends all the same, and it has published nothing but the empty set that the policy may
ask for.
-/

namespace LintRelay

/-- How a pass over a document ends on an answer of the linter that gives no reports, and what
it publishes. -/
inductive Document.Fails (ctx : PassContext) (d : Document) :
    Except LintError String → Except PassError PassOutcome → List Publication → Prop
  | cleared (failure : LinterFailure) (h : ctx.onLinterFailure = .clear) :
      Fails ctx d (.error (.failed failure)) (.ok ⟨d.uri, .cleared, [], some failure⟩) [⟨d.uri, []⟩]
  | kept (failure : LinterFailure) (h : ctx.onLinterFailure = .keepStale) :
      Fails ctx d (.error (.failed failure)) (.ok ⟨d.uri, .linterFailed, [], some failure⟩) []
  | broken (fault : Fault) :
      Fails ctx d (.error (.unexpected fault)) (.error (.linter fault)) []
  | unreadable {output : String} {e : Decimal.Oversized}
      (h : (Report.parse output).reports = .error e) :
      Fails ctx d (.ok output) (.error (.report e)) []

/-- An answer of the linter gives reports, or it is settled how a pass fails on it. -/
theorem Document.reads_or_fails (d : Document) (ctx : PassContext)
    (answer : Except LintError String) :
    (∃ output reports, answer = .ok output ∧ (Report.parse output).reports = .ok reports) ∨
      ∃ result sent, d.Fails ctx answer result sent := by
  match answer with
  | .ok output =>
      cases h : (Report.parse output).reports with
      | ok reports => exact .inl ⟨output, reports, rfl, h⟩
      | error e => exact .inr ⟨_, _, .unreadable h⟩
  | .error (.failed failure) =>
      cases h : ctx.onLinterFailure with
      | clear => exact .inr ⟨_, _, .cleared failure h⟩
      | keepStale => exact .inr ⟨_, _, .kept failure h⟩
  | .error (.unexpected fault) => exact .inr ⟨_, _, .broken fault⟩

namespace SoloRun

variable {ctx : PassContext} {sink : Sink} {asks : Prop} {c : Collaborators} {d : Document}
  {events : List Publication} {result : Except PassError PassOutcome} {sent : List Publication}
  {r : SoloRun}

theorem finish_step (h : nearer (r.step ctx sink c).pass.point.distance r.pass.point.distance) :
    r.finish ctx sink c = (r.step ctx sink c).finish ctx sink c := by
  rw [finish, dif_pos h]

theorem finish_of_result? (h : r.pass.result? = some result) : r.finish ctx sink c = r := by
  rw [finish, dif_neg (not_nearer_step h)]

/-- A pass that nobody holds up comes to ask the linter, if there are words for what the
provider may answer. -/
theorem finish_preparing (ctx : PassContext) (sink : Sink) {c : Collaborators}
    (htold : asks → ∀ e, c.settings d.uri = .error e → e.raised? = none) (r : SoloRun)
    (h : r.pass.Preparing asks c d events r.shared) :
    ∃ (r' : SoloRun) (s : DocumentSettings), r.finish ctx sink c = r'.finish ctx sink c ∧
      r'.pass.Preparing asks c d events r'.shared ∧ r'.pass.point = .linting s := by
  have hreading : ∀ r : SoloRun, r.pass.Preparing asks c d events r.shared →
      ∀ read, r.pass.point = .reading read → read.point.isBroken = false := by
    intro r h read hpoint
    refine Bool.eq_false_iff.mpr fun hbroken => ?_
    obtain ⟨key, fault, ticket, rfl⟩ := SettingsRead.eq_of_isBroken hbroken
    have hahead := h.point
    rw [hpoint] at hahead
    obtain ⟨hasks, e, hanswer, hraised⟩ := hahead.heeds
    rw [htold hasks e hanswer] at hraised
    cases hraised
  have hstep : ∀ r : SoloRun, r.pass.Preparing asks c d events r.shared →
      (∀ s, r.pass.point ≠ .linting s) →
      (r.step ctx sink c).pass.Preparing asks c d events (r.step ctx sink c).shared ∧
        nearer (r.step ctx sink c).pass.point.distance r.pass.point.distance := by
    intro r h hlinting
    obtain ⟨hshared, hpass⟩ := step_eq ctx sink c r
    rw [hshared, hpass]
    obtain ⟨hpreparing, hnearer⟩ := h.act ctx sink hlinting (hreading r h)
    exact ⟨hpreparing, hnearer⟩
  -- by induction on the run: either the linter is reached, or a step keeps what `Preparing` says
  induction r using finish.induct ctx sink c with
  | case1 r next hnearer ih =>
      by_cases hlinting : ∃ s, r.pass.point = .linting s
      · obtain ⟨s, hpoint⟩ := hlinting
        exact ⟨r, s, rfl, h, hpoint⟩
      · rw [finish_step hnearer]
        exact ih (hstep r h (not_exists.mp hlinting)).1
  | case2 r next hnot =>
      by_cases hlinting : ∃ s, r.pass.point = .linting s
      · obtain ⟨s, hpoint⟩ := hlinting
        exact ⟨r, s, rfl, h, hpoint⟩
      · exact absurd (hstep r h (not_exists.mp hlinting)).2 hnot

/-- A pass on its own that ends with a result, and publishes some sets until then. -/
def Ends (ctx : PassContext) (sink : Sink) (c : Collaborators) (r : SoloRun)
    (result : Except PassError PassOutcome) (sent : List Publication) : Prop :=
  (r.finish ctx sink c).pass.result? = some result ∧
    (r.finish ctx sink c).shared.board.history.events = r.shared.board.history.events ++ sent

theorem Ends.of_step {a : PassAction} (now later : List Publication)
    (hnext : r.pass.next ctx c = a)
    (hnearer : nearer (r.pass.act ctx sink r.shared a).pass.point.distance r.pass.point.distance)
    (hevents : (r.pass.act ctx sink r.shared a).shared.board.history.events =
      r.shared.board.history.events ++ now)
    (hrest : ∀ r' : SoloRun, r'.pass = (r.pass.act ctx sink r.shared a).pass →
      r'.shared = (r.pass.act ctx sink r.shared a).shared → r'.Ends ctx sink c result later) :
    r.Ends ctx sink c result (now ++ later) := by
  obtain ⟨hshared, hpass⟩ := step_eq ctx sink c r
  rw [hnext] at hshared hpass
  obtain ⟨hresult, hsent⟩ := hrest _ hpass hshared
  rw [Ends, finish_step (by rw [hpass]; exact hnearer)]
  refine ⟨hresult, ?_⟩
  rw [hsent, hshared, hevents, List.append_assoc]

theorem Ends.of_quiet_step {a : PassAction} (hnext : r.pass.next ctx c = a)
    (hnearer : nearer (r.pass.act ctx sink r.shared a).pass.point.distance r.pass.point.distance)
    (hevents : (r.pass.act ctx sink r.shared a).shared.board.history.events =
      r.shared.board.history.events)
    (hrest : ∀ r' : SoloRun, r'.pass = (r.pass.act ctx sink r.shared a).pass →
      r'.shared = (r.pass.act ctx sink r.shared a).shared → r'.Ends ctx sink c result sent) :
    r.Ends ctx sink c result sent :=
  Ends.of_step [] sent hnext hnearer (by rw [hevents, List.append_nil]) hrest

theorem ends_of_leaving (hpoint : r.pass.point = .leaving result) :
    r.Ends ctx sink c result [] := by
  have hnext : r.pass.next ctx c = .proceed := by simp [Pass.next, Pass.demand?, hpoint]
  refine Ends.of_quiet_step hnext ?_ ?_ ?_
  all_goals
    simp only [Pass.act, Pass.proceed, hpoint]
  · rfl
  · rw [Board.history_finish]
  · intro r' hpass hshared
    have hended : r'.pass.result? = some result := by rw [hpass]; rfl
    rw [Ends, finish_of_result? hended]
    exact ⟨hended, (List.append_nil _).symm⟩

theorem ends_of_parsing {s : DocumentSettings} {output : String} {e : Decimal.Oversized}
    (hread : (Report.parse output).reports = .error e)
    (hpoint : r.pass.point = .parsing s output) : r.Ends ctx sink c (.error (.report e)) [] := by
  have hnext : r.pass.next ctx c = .proceed := by simp [Pass.next, Pass.demand?, hpoint]
  refine Ends.of_quiet_step hnext ?_ ?_ ?_
  all_goals
    simp only [Pass.act, Pass.proceed, hpoint, Pass.read, hread]
  · rfl
  · exact fun r' hpass _ => ends_of_leaving (by rw [hpass]; rfl)

section

variable {failure : LinterFailure} (hdocument : r.pass.document = d)
  (hcurrent : r.shared.board.generation d.uri = r.pass.token)

include hdocument hcurrent

theorem ends_of_clearing (hsink : sink ⟨d.uri, []⟩ = none) (hpoint : r.pass.point = .clearing failure) :
    r.Ends ctx sink c (.ok ⟨d.uri, .cleared, [], some failure⟩) [⟨d.uri, []⟩] := by
  subst hdocument
  have hnext : r.pass.next ctx c = .proceed := by simp [Pass.next, Pass.demand?, hpoint]
  refine Ends.of_step [_] [] hnext ?_ ?_ ?_
  all_goals
    simp only [Pass.act, Pass.proceed, hpoint]
    rw [Pass.publishAs_of_current hcurrent]
  · rw [hsink]
    rfl
  · rw [Board.history_publish _ _ _ _ _ hcurrent, hsink]
    rfl
  · intro r' hpass _
    rw [hsink] at hpass
    exact ends_of_leaving (by rw [hpass]; rfl)

theorem ends_of_failed (hpoint : r.pass.point = .failed failure) :
    r.Ends ctx sink c (.ok ⟨d.uri, .linterFailed, [], some failure⟩) [] := by
  subst hdocument
  have hnext : r.pass.next ctx c = .proceed := by simp [Pass.next, Pass.demand?, hpoint]
  refine Ends.of_quiet_step hnext ?_ ?_ ?_
  all_goals
    simp only [Pass.act, Pass.proceed, hpoint]
    rw [if_pos ((Board.isCurrent_eq_true_iff ..).mpr hcurrent)]
  · rfl
  · rfl
  · exact fun r' hpass _ => ends_of_leaving (by rw [hpass]; rfl)

theorem ends_of_failing (hpoint : r.pass.point = .failing failure) :
    r.Ends ctx sink c (.ok ⟨d.uri, .linterFailed, [], some failure⟩) [] := by
  have hnext : r.pass.next ctx c = .proceed := by simp [Pass.next, Pass.demand?, hpoint]
  refine Ends.of_quiet_step hnext ?_ ?_ ?_
  all_goals
    simp only [Pass.act, Pass.proceed, hpoint]
  · rfl
  · rw [Board.history_finish]
  · intro r' hpass hshared
    refine ends_of_failed (by rw [hpass]; exact hdocument) ?_ (by rw [hpass]; rfl)
    rw [hshared, hpass, Board.generation_finish]
    exact hcurrent

/-- Output that cannot be read breaks the pass off. -/
theorem ends_of_linted {s : DocumentSettings} {output : String} {e : Decimal.Oversized}
    (hread : (Report.parse output).reports = .error e) (hpoint : r.pass.point = .linted s output) :
    r.Ends ctx sink c (.error (.report e)) [] := by
  subst hdocument
  have hnext : r.pass.next ctx c = .proceed := by simp [Pass.next, Pass.demand?, hpoint]
  refine Ends.of_quiet_step hnext ?_ ?_ ?_
  all_goals
    simp only [Pass.act, Pass.proceed, hpoint]
    rw [Pass.enter_of_current hcurrent]
  · rfl
  · rfl
  · exact fun r' hpass _ => ends_of_parsing hread (by rw [hpass]; rfl)

end

/-- What the linter's answer leads to, if it gives no reports. -/
theorem ends_of_linting (hsink : sink ⟨d.uri, []⟩ = none)
    (hfails : d.Fails ctx (c.lint d).2 result sent) (h : r.pass.Preparing asks c d events r.shared)
    {s : DocumentSettings} (hpoint : r.pass.point = .linting s) :
    r.Ends ctx sink c result sent := by
  have hcurrent : r.shared.board.generation d.uri = r.pass.token :=
    h.current (by rw [hpoint]; rfl)
  have hnext : r.pass.next ctx c = .linted (c.lint d).2 := by
    simp [Pass.next, Pass.demand?, hpoint, Collaborators.answer, h.document]
  generalize (c.lint d).2 = answer at hnext hfails
  cases hfails with
  | cleared failure hpolicy =>
      refine Ends.of_quiet_step hnext ?_ ?_ ?_
      all_goals
        simp only [Pass.act, hpoint, Pass.afterFailure, hpolicy]
      · rfl
      · intro r' hpass hshared
        exact ends_of_clearing (by rw [hpass]; exact h.document)
          (by rw [hpass, hshared]; exact hcurrent) hsink (by rw [hpass]; rfl)
  | kept failure hpolicy =>
      refine Ends.of_quiet_step hnext ?_ ?_ ?_
      all_goals
        simp only [Pass.act, hpoint, Pass.afterFailure, hpolicy]
      · rfl
      · intro r' hpass hshared
        exact ends_of_failing (by rw [hpass]; exact h.document)
          (by rw [hpass, hshared]; exact hcurrent) (by rw [hpass]; rfl)
  | broken fault =>
      refine Ends.of_quiet_step hnext ?_ ?_ ?_
      all_goals
        simp only [Pass.act, hpoint]
      · rfl
      · rfl
      · exact fun r' hpass _ => ends_of_leaving (by rw [hpass]; rfl)
  | unreadable hread =>
      refine Ends.of_quiet_step hnext ?_ ?_ ?_
      all_goals
        simp only [Pass.act, hpoint]
      · rfl
      · rfl
      · intro r' hpass hshared
        have hdocument : r'.pass.document = d := by rw [hpass]; exact h.document
        exact ends_of_linted hdocument (by rw [hpass, hshared]; exact hcurrent) hread
          (by rw [hpass]; rfl)

end SoloRun

/-- **A pass on its own without readable output ends as it should**, and has published nothing
but the empty set that the policy may ask for. There have to be words for what the provider
answers, if it is asked. -/
theorem Orchestrator.validate_fails (o : Orchestrator) {sink : Sink} {c : Collaborators}
    {d : Document} {result : Except PassError PassOutcome} {sent : List Publication}
    (hfails : d.Fails o.context (c.lint d).2 result sent) (hsink : sink ⟨d.uri, []⟩ = none)
    (hfree : SettingsRead.IsFree o.shared.settings { key := d.uri })
    (htold : o.shared.settings.Asks d.uri →
      ∀ e, c.settings d.uri = .error e → e.raised? = none) :
    (o.validate sink c d).pass.result? = some result ∧
      (o.validate sink c d).shared.board.history.events =
        o.shared.board.history.events ++ sent := by
  have hstart : Pass.Preparing (o.shared.settings.Asks d.uri) c d
      o.shared.board.history.events o.shared { document := d } :=
    ⟨rfl, by rintro ⟨⟩, rfl, rfl, hfree, id⟩
  obtain ⟨r, s, hfinish, hpreparing, hpoint⟩ :=
    SoloRun.finish_preparing o.context sink htold
      { shared := o.shared, pass := { document := d } } hstart
  obtain ⟨hresult, hevents⟩ := SoloRun.ends_of_linting hsink hfails hpreparing hpoint
  rw [hpreparing.events] at hevents
  rw [Orchestrator.validate, hfinish]
  exact ⟨hresult, hevents⟩

end LintRelay
