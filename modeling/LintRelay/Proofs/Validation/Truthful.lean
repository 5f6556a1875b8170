import Mathlib.Data.List.Induction
import LintRelay.Proofs.Validation.Courses

/-!
# Outcomes are truthful

What a pass tells at its end is what it did: it tells of a published set when it
handed one over, which the sink took, and of nothing else. What was told to it as an
answer breaks it off where that is a failure which cannot be told in its turn; else only
what came unasked does.
-/

namespace LintRelay

namespace Enrichment

variable {e : Enrichment} {notes : List PassNote}

/-- Replies are noted for the jobs that have them. -/
theorem Noted.replied_iff (h : e.Noted notes) (hjobs : e.jobs.length ≤ e.findings.length)
    {job : Nat} {reply : SuggestReply} :
    .replied job reply ∈ notes ↔ e.jobs[job]? = some (.answered reply) := by
  have hown : .replied job reply ∈ notes ↔ .replied job reply ∈ e.notesOf job := by
    rw [← h.each job, List.mem_filter]
    simp [PassNote.job?]
  rw [hown, notesOf]
  cases hjob : e.jobs[job]? with
  | none => simp
  | some state =>
      have hlt := Nat.lt_of_lt_of_le (List.getElem?_eq_some_iff.mp hjob).1 hjobs
      rw [e.request?_of_lt hlt]
      cases state <;> simp [EnrichmentJob.notes, eq_comm]

/-- What breaks off collecting came up at the failure of a job. -/
theorem job_of_collected_eq_error {fault : Fault} (herror : e.collected = .error fault) :
    ∃ (job : Nat) (failure : SuggestError),
      e.jobs[job]? = some (.answered (.error failure)) ∧ failure.raised? = some fault := by
  rw [collected] at herror
  split at herror
  next fault' hfirst =>
    obtain rfl := Except.error.inj herror
    obtain ⟨state, hstate, hraised⟩ := List.exists_of_findSome?_eq_some hfirst
    obtain ⟨job, hget⟩ := List.getElem?_of_mem hstate
    cases state with
    | waiting | asked | skipped => cases hraised
    | answered reply =>
        cases reply with
        | ok => cases hraised
        | error failure => exact ⟨job, failure, hget, hraised⟩
  next => cases herror

end Enrichment

namespace Pass

/-- The sets that a pass handed over go with where it stands: none before it has its
result, then the one of its outcome, and none that the sink took if it broke off. -/
def Point.Accounts (uri : String) (mine : List Delivery) : Point → Prop
  | .leaving (.ok x) | .ended (.ok x) =>
    if x.isPublished then ∃ d, mine = [d] ∧ d.taken ∧ d.publication = ⟨uri, x.diagnostics⟩
    else mine = []
  | .leaving (.error _) | .ended (.error _) => ∀ d ∈ mine, ¬ d.taken
  | _ => mine = []

theorem Point.accounts_iff_of_isUnderWay {uri : String} {mine : List Delivery} {q : Point}
    (h : q.isUnderWay) : q.Accounts uri mine ↔ mine = [] := by
  cases q <;> first | rfl | cases h

theorem Offering.isPublished {p : Pass} {x : PassOutcome} (h : p.Offering x) : x.isPublished := by
  rcases h with ⟨-, hstatus⟩ | ⟨_, -, -, hstatus⟩ <;> simp [PassOutcome.isPublished, hstatus]

theorem Effect.accounts {sink : Sink} {b b' : Board} {p p' : Pass} {st : List ValidationStage}
    {xs : List Publication} (h : Effect sink b p b' p' st xs) (i : Nat) {mine : List Delivery}
    (hmine : p.point.Accounts p.document.uri mine) :
    p'.point.Accounts p.document.uri (mine ++ xs.map fun x =>
      ⟨i, p.token, b.generation x.uri, x, (sink x).isNone⟩) := by
  cases h with
  | delivers x _ hfrom =>
      obtain rfl := (Point.accounts_iff_of_isUnderWay hfrom.isUnderWay).mp hmine
      cases hsink : sink ⟨p.document.uri, x.diagnostics⟩ with
      | none => simp [move, Point.Accounts, hfrom.isPublished, hsink]
      | some fault => simp [move, Point.Accounts, hsink]
  | gives result hfrom hresult =>
      obtain rfl := (Point.accounts_iff_of_isUnderWay hfrom).mp hmine
      cases result with
      | error => simp [move, Point.Accounts]
      | ok x =>
          rcases hresult x rfl with ⟨hstatus, -⟩ | ⟨hstatus, -⟩ <;>
            simp [move, Point.Accounts, PassOutcome.isPublished, hstatus]
  | begins hqueued =>
      rw [hqueued] at hmine
      rw [List.map_nil, List.append_nil]
      exact hmine
  | waits => rwa [List.map_nil, List.append_nil]
  | goesOn q hfrom hto =>
      obtain rfl := (Point.accounts_iff_of_isUnderWay
        (Point.isUnderWay_of_holdsStage hfrom)).mp hmine
      exact (Point.accounts_iff_of_isUnderWay hto).mpr rfl
  | enters _ q _ _ hfrom hto =>
      obtain rfl := (Point.accounts_iff_of_isUnderWay hfrom).mp hmine
      exact (Point.accounts_iff_of_isUnderWay hto).mpr rfl
  | leavesStage failure hfailing =>
      rw [hfailing] at hmine
      rw [List.map_nil, List.append_nil]
      exact hmine
  | ends result hleaving =>
      rw [hleaving] at hmine
      rw [List.map_nil, List.append_nil]
      cases result <;> exact hmine

/-- What broke a pass off: something that came unasked, or up in telling a failure of the
provider or of the service, a fault of the linter that is no failed run, an output that
cannot be read, or a refusal by the sink. -/
def Breaks (notes : List PassNote) (refuses : Fault → Prop) : PassError → Prop
  | .delay fault => .interrupted fault ∈ notes
  | .settings fault =>
    .interrupted fault ∈ notes ∨ ∃ e, .untold e ∈ notes ∧ e.raised? = some fault
  | .enrichment fault =>
    .interrupted fault ∈ notes ∨ ∃ job e, .replied job (.error e) ∈ notes ∧ e.raised? = some fault
  | .linter fault => .linted (.error (.unexpected fault)) ∈ notes
  | .report e => ∃ output, .linted (.ok output) ∈ notes ∧ (Report.parse output).reports = .error e
  | .sink fault => refuses fault

section

variable {ctx : PassContext} {refuses : Fault → Prop} {d : Document} {notes : List PassNote}

theorem linted_iff_of_asks {s : DocumentSettings} {output : String} {e : Enrichment}
    (h : d.Asks ctx s output notes e) (answer : Except LintError String) :
    .linted answer ∈ .settled s :: .linted (.ok output) :: notes ↔ answer = .ok output := by
  have hnotes : .linted answer ∉ notes := fun hlinted => by
    obtain ⟨job, hjob⟩ := h.noted.ofJobs _ hlinted
    cases hjob
  simp [hnotes]

theorem Course.leaving {result : Except PassError PassOutcome}
    (h : Course ctx refuses d notes (.ended result)) :
    Course ctx refuses d notes (.leaving result) := by
  cases h with
  | ended before => exact before

/-- What was noted before a pass told its outcome. -/
theorem Course.outcome_cases {x : PassOutcome} (h : Course ctx refuses d notes (.leaving (.ok x))) :
    (x.status = .published ∧ ∃ output, ∀ answer,
      .linted answer ∈ notes ↔ answer = .ok output) ∨
    (x.status = .cleared ∧ x.diagnostics = [] ∧ ctx.onLinterFailure = .clear ∧
      ∃ failure, ∀ answer, .linted answer ∈ notes ↔ answer = .error (.failed failure)) ∨
    (x.status = .linterFailed ∧ ctx.onLinterFailure = .keepStale ∧
      ∃ failure, ∀ answer, .linted answer ∈ notes ↔ answer = .error (.failed failure)) ∨
    x.status = .superseded := by
  cases h with
  | published hasks => exact .inl ⟨rfl, _, linted_iff_of_asks hasks⟩
  | cleared s failure hpolicy =>
      exact .inr (.inl ⟨rfl, rfl, hpolicy, failure, fun answer => by simp⟩)
  | linterFailed s failure hpolicy =>
      exact .inr (.inr (.inl ⟨rfl, hpolicy, failure, fun answer => by simp⟩))
  | superseded => exact .inr (.inr (.inr rfl))

/-- What was noted before a pass broke off. A failed run of the linter does not break
it off. -/
theorem Course.breaks {e : PassError} (h : Course ctx refuses d notes (.leaving (.error e))) :
    Breaks notes refuses e ∧
      ∀ failure, .linted (.error (.failed failure)) ∈ notes → ∃ fault, e = .sink fault := by
  cases h with
  | refused hrefuses => exact ⟨hrefuses, fun _ _ => ⟨_, rfl⟩⟩
  | overslept fault => simp [Breaks]
  | unsettled before fault =>
      cases before with
      | reading | untold => simp [Breaks]
  | unkept hraised => exact ⟨.inr ⟨_, List.mem_cons_self, hraised⟩, by simp⟩
  | unlinted s fault => simp [Breaks]
  | unreadable s output e hread => exact ⟨⟨output, by simp, hread⟩, by simp⟩
  | unenriched before fault =>
      cases before with
      | enriching hasks =>
          refine ⟨by simp [Breaks], fun failure hlinted => ?_⟩
          rw [List.mem_append, linted_iff_of_asks hasks] at hlinted
          simp at hlinted
  | unrecorded hasks hcollected =>
      obtain ⟨job, failure, hjob, hraised⟩ := Enrichment.job_of_collected_eq_error hcollected
      have hreplied := (hasks.noted.replied_iff hasks.length_jobs_le.2).mpr hjob
      refine ⟨.inr ⟨job, failure, by simp [hreplied], hraised⟩, fun failure hlinted => ?_⟩
      rw [linted_iff_of_asks hasks] at hlinted
      cases hlinted

end

end Pass

namespace Session

variable (o : Orchestrator) (workers : Nat) (moves : List Move)

/-- In every run, the sets that a pass handed over go with where it stands; and while it
meets no fault of the sink, the sink takes them. -/
theorem accounts_run {i : Nat} {r : PassRecord}
    (hget : ((start o workers).run moves).passes[i]? = some r) :
    r.pass.point.Accounts r.uri (((start o workers).run moves).handed i) ∧
      ((∀ fault, ¬ MeetsFault moves i fault) →
        ∀ d ∈ ((start o workers).run moves).handed i, d.taken) := by
  refine pass_induction (P := fun r _ mine => r.pass.point.Accounts r.uri mine ∧
    ((∀ fault, ¬ MeetsFault moves i fault) → ∀ d ∈ mine, d.taken)) o workers moves hget ?_ ?_
  · intro r hqueued
    rw [hqueued]
    exact ⟨rfl, by simp⟩
  · rintro sh r notes mine sink a ha ⟨haccounts, htaken⟩
    have heffect : Pass.Effect sink sh.board r.pass
        (r.pass.act o.context sink sh a).shared.board (r.pass.act o.context sink sh a).pass
        (r.pass.stores o.context sh a) (r.pass.offers o.context sh a) :=
      Pass.effect_act
    refine ⟨?_, fun hkeeps d hd => ?_⟩
    · simp only [PassRecord.uri, Pass.document_act]
      exact heffect.accounts i haccounts
    · rcases List.mem_append.mp hd with hd | hd
      · exact htaken hkeeps d hd
      · obtain ⟨x, -, rfl⟩ := List.mem_map.mp hd
        refine Option.isNone_iff_eq_none.mpr (Option.eq_none_iff_forall_ne_some.mpr ?_)
        exact fun fault hfault => hkeeps fault ⟨sink, a, x, ha, hfault⟩

end Session

end LintRelay
