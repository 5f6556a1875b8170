import LintRelay.Proofs.Suggestion.Pool
import LintRelay.Proofs.Validation.Outcomes

/-!
# What passes compute

The set that a pass publishes comes of the output that the linter gave it: the reports
in it are read, the findings of those that describe the document may get suggestions,
and every finding gives a diagnostic.
-/

namespace LintRelay

/-- The findings of an output are being enriched for a document. -/
def Document.Enriches (d : Document) (output : String) (e : Enrichment) : Prop :=
  e.documentText = d.text ∧
    ∃ reports, (Report.parse output).reports = .ok reports ∧ e.findings = d.findings reports

/-- A set of diagnostics comes of the linter's output for a document. -/
def Document.Yields (d : Document) (ctx : PassContext) (output : String)
    (set : List Diagnostic) : Prop :=
  ∃ e, d.Enriches output e ∧ e.isOver ∧
    set = Diagnostic.ofFindings d.uri ctx.relatedInformation e.result.findings

theorem Document.Enriches.poll {d : Document} {output : String} {e : Enrichment}
    (h : d.Enriches output e) (j : Nat) (cancelled : Bool) :
    d.Enriches output (e.poll j cancelled) := by
  rw [Enrichment.poll]
  split <;> exact h

theorem Document.Enriches.reply {d : Document} {output : String} {e : Enrichment}
    (h : d.Enriches output e) (j : Nat) (r : SuggestReply) :
    d.Enriches output (e.reply j r) := by
  rw [Enrichment.reply]
  split <;> exact h

namespace Pass

/-- Where a pass stands has come of outputs that it was given. -/
def Point.ComesOf (ctx : PassContext) (d : Document) (given : String → Prop) (q : Point) : Prop :=
  match q with
  | .linted _ output | .parsing _ output => given output
  | .parsed _ findings => ∃ output reports, given output ∧
      (Report.parse output).reports = .ok reports ∧ findings = d.findings reports
  | .enriching e => ∃ output, given output ∧ d.Enriches output e
  | .publishing set => ∃ output, given output ∧ d.Yields ctx output set
  | q => ∀ o, q.outcome? = some o → o.status = .published →
      ∃ output, given output ∧ d.Yields ctx output o.diagnostics

variable {ctx : PassContext} {sink : Sink} {sh : Shared} {p : Pass} {given : String → Prop}

theorem comesOf_superseded :
    (supersededChange sh p).pass.point.ComesOf ctx p.document given := by
  rintro o ho hstatus
  obtain rfl := Option.some.inj ho
  cases hstatus

theorem comesOf_enter {s : ValidationStage} {q : Point} (h : q.ComesOf ctx p.document given) :
    (enter sh p s q).pass.point.ComesOf ctx p.document given := by
  rw [enter]
  split
  · exact h
  · exact comesOf_superseded

theorem comesOf_publishAs {set : List Diagnostic} {o : PassOutcome} {log : List LogRecord}
    (h : (Point.leaving (.ok o)).ComesOf ctx p.document given) :
    (publishAs sink sh p set o log).pass.point.ComesOf ctx p.document given := by
  rw [publishAs]
  split
  · exact h
  · exact comesOf_superseded
  · rintro o ho
    cases ho

theorem comesOf_proceed (h : p.point.ComesOf ctx p.document given) :
    (p.proceed ctx sink sh).pass.point.ComesOf ctx p.document given := by
  cases hpoint : p.point with
  | queued | failing =>
      simp only [proceed, hpoint]
      exact fun o ho => by cases ho
  | begun =>
      simp only [proceed, hpoint]
      split <;> exact fun o ho => by cases ho
  | woken =>
      simp only [proceed, hpoint]
      split
      · exact fun o ho => by cases ho
      · exact comesOf_superseded
  | reading r =>
      simp only [proceed, hpoint]
      split <;> exact fun o ho => by cases ho
  | settled s =>
      simp only [proceed, hpoint]
      exact comesOf_enter fun o ho => by cases ho
  | linted s output =>
      rw [hpoint] at h
      simp only [proceed, hpoint]
      exact comesOf_enter h
  | parsing s output =>
      rw [hpoint] at h
      simp only [proceed, hpoint, read]
      split
      next => exact fun o ho => by cases ho
      next reports hparse => exact ⟨output, reports, h, hparse, rfl⟩
  | parsed s findings =>
      rw [hpoint] at h
      obtain ⟨output, reports, hgiven, hparse, rfl⟩ := h
      simp only [proceed, hpoint]
      exact comesOf_enter ⟨output, hgiven, rfl, reports, hparse, rfl⟩
  | enriching e =>
      rw [hpoint] at h
      simp only [proceed, hpoint, collect]
      split
      next hover =>
        split
        next => exact fun o ho => by cases ho
        next result hcollected =>
          obtain ⟨output, hgiven, henriches⟩ := h
          obtain rfl := Enrichment.eq_result_of_collected hcollected
          exact ⟨output, hgiven, e, henriches, hover, rfl⟩
      next =>
        rw [hpoint]
        exact h
  | publishing set =>
      rw [hpoint] at h
      simp only [proceed, hpoint]
      refine comesOf_publishAs fun o ho _ => ?_
      obtain rfl := Option.some.inj ho
      exact h
  | clearing failure =>
      simp only [proceed, hpoint]
      refine comesOf_publishAs fun o ho hstatus => ?_
      obtain rfl := Option.some.inj ho
      cases hstatus
  | failed failure =>
      simp only [proceed, hpoint]
      split
      · intro o ho hstatus
        obtain rfl := Option.some.inj ho
        cases hstatus
      · exact comesOf_superseded
  | leaving result =>
      rw [hpoint] at h
      simp only [proceed, hpoint]
      cases result <;> exact h
  | dozing | linting | ended =>
      rw [hpoint] at h
      simp only [proceed, hpoint]
      exact h

/-- Whatever a pass does, it makes it of the outputs that it is given. -/
theorem comesOf_act (sink : Sink) (sh : Shared) {a : PassAction}
    (h : p.point.ComesOf ctx p.document given)
    (hgiven : ∀ output, a = .linted (.ok output) → given output) :
    (p.act ctx sink sh a).pass.point.ComesOf ctx p.document given := by
  cases a with
  | proceed => exact comesOf_proceed h
  | wake =>
      simp only [act]
      split
      · exact fun o ho => by cases ho
      · exact h
  | fetched answer =>
      simp only [act]
      split
      · exact fun o ho => by cases ho
      · exact h
  | linted answer =>
      simp only [act]
      split
      next output _ => exact hgiven output rfl
      next =>
        simp only [afterFailure]
        split <;> exact fun o ho => by cases ho
      next => exact fun o ho => by cases ho
      next => exact h
  | poll job =>
      simp only [act]
      split
      next e hpoint =>
        rw [hpoint] at h
        obtain ⟨output, hout, henriches⟩ := h
        exact ⟨output, hout, henriches.poll ..⟩
      next => exact h
  | replied job reply =>
      simp only [act]
      split
      next e hpoint =>
        rw [hpoint] at h
        obtain ⟨output, hout, henriches⟩ := h
        exact ⟨output, hout, henriches.reply ..⟩
      next => exact h
  | interrupted fault =>
      simp only [act]
      split
      · exact fun o ho => by cases ho
      · exact fun o ho => by cases ho
      · exact fun o ho => by cases ho
      · exact h

end Pass

namespace Session

/-- Where the passes stand has come of the outputs that each of them was given. -/
def Computed (ctx : PassContext) (given : Nat → String → Prop) (rs : List PassRecord) : Prop :=
  ∀ (i : Nat) (r : PassRecord), rs[i]? = some r →
    r.pass.point.ComesOf ctx r.pass.document (given i)

section

variable {ctx : PassContext} {given : Nat → String → Prop} {s : Session}

/-- A pass that has not begun was given nothing. -/
theorem Computed.append {rs : List PassRecord} (h : Computed ctx given rs) {r : PassRecord}
    (hqueued : r.pass.point = .queued) : Computed ctx given (rs ++ [r]) := by
  intro i q hq
  rcases getElem?_concat_cases hq with hq | rfl
  · exact h i q hq
  · rw [hqueued]
    exact fun o ho => by cases ho

theorem Computed.step (hs : s.QueueWaits) (h : Computed s.orchestrator.context given s.passes)
    (m : Move) (hgiven : ∀ i sink output, m = .act i sink (.linted (.ok output)) →
      given i output) : Computed s.orchestrator.context given (s.step m).passes := by
  cases m with
  | call d => exact h.append rfl
  | take =>
      simp only [Session.step, take]
      split
      next => exact h
      next p queue hqueue =>
        split
        · exact h.append (hs p (by rw [hqueue]; exact List.mem_cons_self))
        · exact h
  | act i sink a =>
      simp only [Session.step, act]
      split
      next => exact h
      next r hget =>
        intro j q hq
        rcases getElem?_set_cases hget hq with ⟨rfl, rfl⟩ | ⟨-, hq⟩
        · have hact := Pass.comesOf_act sink s.orchestrator.shared (h j r hget)
            fun output ha => hgiven j sink output (congrArg (Move.act j sink) ha)
          simpa only [Orchestrator.act, Pass.document_act] using hact
        · exact h j q hq
  | _ => exact h

theorem computed_run (o : Orchestrator) (workers : Nat) (moves : List Move) :
    Computed o.context (fun i output => ∃ sink, .act i sink (.linted (.ok output)) ∈ moves)
      ((start o workers).run moves).passes := by
  have hrun : ∀ (given : Nat → String → Prop) (s : Session) (moves : List Move), s.QueueWaits →
      Computed s.orchestrator.context given s.passes →
      (∀ i sink output, .act i sink (.linted (.ok output)) ∈ moves → given i output) →
      Computed s.orchestrator.context given (s.run moves).passes := by
    intro given s moves
    induction moves generalizing s with
    | nil => exact fun _ h _ => h
    | cons m moves ih =>
        intro hs h hgiven
        have hsteps := steps_step hs m
        have hstep := h.step hs m fun i sink output hm =>
          hgiven i sink output (hm ▸ List.mem_cons_self)
        rw [← hsteps.context] at hstep ⊢
        exact ih _ hsteps.waits hstep fun i sink output hm =>
          hgiven i sink output (List.mem_cons_of_mem m hm)
  exact hrun _ _ moves (queueWaits_start o workers) (fun i r hget => by simp [start] at hget)
    fun i sink output hm => ⟨sink, hm⟩

theorem yields_of_published (o : Orchestrator) (workers : Nat) (moves : List Move) {i : Nat}
    {r : PassRecord} (hget : ((start o workers).run moves).passes[i]? = some r)
    {x : PassOutcome} (hresult : r.pass.result? = some (.ok x)) (hstatus : x.status = .published) :
    ∃ sink output, .act i sink (.linted (.ok output)) ∈ moves ∧
      r.pass.document.Yields ((start o workers).run moves).orchestrator.context output
        x.diagnostics := by
  have hcomes := computed_run o workers moves i r hget
  rw [Pass.point_of_result? hresult] at hcomes
  obtain ⟨output, ⟨sink, hlinted⟩, hyields⟩ := hcomes x rfl hstatus
  refine ⟨sink, output, hlinted, ?_⟩
  rw [(run_keeps (queueWaits_start o workers) moves).2.2]
  exact hyields

end

end Session

end LintRelay
