import LintRelay.Proofs.Text.Splitting
import LintRelay.Proofs.Validation.Outcomes
import LintRelay.Proofs.Validation.Undisturbed

/-!
# Closing a document

A closed document is silent as far as its passes have begun: they have lost their
token. A pass that was scheduled before the document was closed but begins afterwards
takes a token of its own and hands its set over.
-/

namespace LintRelay

theorem Report.reports_parse_empty : (Report.parse "").reports = .ok [] := by
  rw [parse, Text.lines_empty]
  rfl

theorem Document.findings_nil (d : Document) : d.findings [] = [] := by
  unfold findings reports
  split <;> simp [FileReport.allFindings]

namespace Session

section

variable (o : Orchestrator) (workers : Nat) (moves : List Move)

theorem delivery_of_published {i : Nat} {r : PassRecord} {x : PassOutcome}
    (hget : ((start o workers).run moves).passes[i]? = some r)
    (hpoint : r.pass.point = .ended (.ok x)) (hstatus : x.status = .published) :
    ∃ d ∈ ((start o workers).run moves).deliveries,
      d.pass = i ∧ d.taken ∧ d.publication = ⟨r.uri, x.diagnostics⟩ := by
  rcases told_run o workers moves i r x hget (by rw [hpoint]; rfl) with ⟨h, -⟩ | h | ⟨-, h⟩
  · rw [hstatus] at h
    cases h
  · rw [hstatus] at h
    cases h
  · exact h

/-- A pass that is taken up and has not begun can still hand a set over, unless another
reader holds the settings of its document back. -/
theorem can_deliver_of_queued {i : Nat} {r : PassRecord}
    (hget : ((start o workers).run moves).passes[i]? = some r)
    (hqueued : r.pass.point = .queued)
    (hfree : ((start o workers).run moves).orchestrator.shared.settings.entry r.uri = none) :
    ∃ after, (∃ r', ((start o workers).run (moves ++ after)).passes[i]? = some r' ∧
        r'.pooled = r.pooled ∧ r'.pass.document = r.pass.document) ∧
      ∃ d ∈ ((start o workers).run (moves ++ after)).deliveries,
        d.pass = i ∧ d.taken ∧ d.publication.uri = r.uri := by
  obtain ⟨after, -, r', -, -, -, hpasses, hpooled, hdocument, hpoint⟩ := can_publish hget hqueued
    (fun _ => hfree) Report.reports_parse_empty (.inr r.pass.document.findings_nil)
  have hget' : ((start o workers).run (moves ++ after)).passes[i]? = some r' := by
    rw [run_append, hpasses, getElem?_set_of_getElem? hget, if_pos rfl]
  refine ⟨after, ⟨r', hget', hpooled, hdocument⟩, ?_⟩
  obtain ⟨d, hd, hpass, htaken, hpublication⟩ :=
    delivery_of_published o workers _ hget' hpoint rfl
  refine ⟨d, hd, hpass, htaken, ?_⟩
  rw [hpublication]
  exact congrArg Document.uri hdocument

/-- No delivery belongs to a pass that has not begun, or was not even taken up. -/
theorem not_mem_deliveries_of_not_over {i : Nat}
    (h : ∀ r, ((start o workers).run moves).passes[i]? = some r → r.pass.point = .queued)
    {d : Delivery} (hpass : d.pass = i) : d ∉ ((start o workers).run moves).deliveries := by
  intro hd
  obtain ⟨r, hget, hfrom⟩ := (delivered_run o workers moves).ofPass d hd
  exact Pass.Point.ne_queued_of_isOver hfrom.isOver (h r (hpass ▸ hget))

end

variable (o : Orchestrator) (workers : Nat) (before : List Move) (uri : String)

/-- When a document is closed, every pass over it that has begun has an earlier token
than the current one. -/
theorem token_lt_of_closed {i : Nat} {r : PassRecord}
    (hget : ((start o workers).run (before ++ [.handle (.closed uri)])).passes[i]? = some r)
    (huri : r.uri = uri) (hbegun : r.pass.point ≠ .queued) :
    r.pass.token <
      ((start o workers).run (before ++ [.handle (.closed uri)])).board.generation uri := by
  rw [run_append] at hget ⊢
  have hle := (tokens_run o workers before).bounded i r hget hbegun
  have hnext : (((start o workers).run before).run [.handle (.closed uri)]).board.generation uri =
      ((start o workers).run before).board.generation uri + 1 := by
    rw [show (((start o workers).run before).run [.handle (.closed uri)]).board =
      ((start o workers).run before).board.supersede uri from rfl, Board.generation_supersede,
      if_pos rfl]
  rw [hnext]
  rw [huri] at hle
  omega

theorem entry_of_closed :
    ((start o workers).run
      (before ++ [.handle (.closed uri)])).orchestrator.shared.settings.entry uri = none := by
  rw [run_append]
  exact if_pos rfl

/-- A pass that had begun when its document was closed makes no further delivery. -/
theorem queued_of_delivery_after_closed {after : List Move} {d : Delivery}
    (hd : d ∈ (((start o workers).run (before ++ [.handle (.closed uri)])).run after).deliveries)
    (hnew : d ∉ ((start o workers).run (before ++ [.handle (.closed uri)])).deliveries)
    {r : PassRecord}
    (hget : ((start o workers).run (before ++ [.handle (.closed uri)])).passes[d.pass]? = some r)
    (huri : r.uri = uri) : r.pass.point = .queued := by
  refine Classical.byContradiction fun hbegun => ?_
  have hs := queueWaits_run o workers (before ++ [.handle (.closed uri)])
  have hlt := token_lt_of_closed o workers before uri hget huri hbegun
  obtain ⟨later, hdeliveries, hlater⟩ := deliveries_run hs after
  have hle := hlater d ((List.mem_append.mp (hdeliveries ▸ hd)).resolve_left hnew)
  -- the pass has kept the token that it had when the document was closed
  obtain ⟨r', hget', hbecomes⟩ := becomes_run hs after hget
  rw [← run_append] at hd hget'
  obtain ⟨q, hq, hfrom⟩ := (delivered_run o workers _).ofPass d hd
  obtain rfl := Option.some.inj (hq.symm.trans hget')
  have hdocument : d.publication.uri = uri :=
    hfrom.uri.symm.trans ((congrArg Document.uri hbecomes.document).trans huri)
  rw [hdocument, ← hfrom.token, (hbecomes.begun hbegun).2] at hle
  exact absurd hle (Nat.not_le_of_lt hlt)

/-- **Closing silences the passes that have begun, and only those.** Once a document has
been closed, no pass over it that had begun hands a set over, wherever it stood. A pass
that was scheduled before but had not begun still can: both when a worker has taken it
up and when it waits in the queue, as long as there is a worker. -/
theorem closing_silences_begun_passes (o : Orchestrator) (workers : Nat) (before : List Move)
    (uri : String) :
    let s := (start o workers).run (before ++ [.handle (.closed uri)])
    (∀ after, ∀ d ∈ (s.run after).deliveries, d ∉ s.deliveries →
      ∀ r, s.passes[d.pass]? = some r → r.uri = uri → r.pass.point = .queued) ∧
    (∀ (i : Nat) (r : PassRecord), s.passes[i]? = some r → r.uri = uri →
      r.pass.point = .queued →
      ∃ after, ∃ d ∈ (s.run after).deliveries, d ∉ s.deliveries ∧ d.pass = i ∧ d.taken ∧
        d.publication.uri = uri) ∧
    (0 < workers → ∀ (k : Nat) (p : Pass), s.orchestrator.queue[k]? = some p →
      p.document.uri = uri →
      ∃ after, (∃ r : PassRecord, (s.run after).passes[s.passes.length + k]? = some r ∧
          r.pooled ∧ r.pass.document = p.document) ∧
        ∃ d ∈ (s.run after).deliveries, d ∉ s.deliveries ∧ d.pass = s.passes.length + k ∧
          d.taken ∧ d.publication.uri = uri) := by
  intro s
  refine ⟨fun after d hd hnew r hget huri =>
    queued_of_delivery_after_closed o workers before uri hd hnew hget huri, ?_, ?_⟩
  · intro i r hget huri hqueued
    obtain ⟨after, -, d, hd, hpass, htaken, hdocument⟩ :=
      can_deliver_of_queued o workers _ hget hqueued (by rw [huri]; exact entry_of_closed ..)
    rw [run_append] at hd
    refine ⟨after, d, hd, ?_, hpass, htaken, hdocument.trans huri⟩
    refine not_mem_deliveries_of_not_over o workers _ (fun q hq => ?_) hpass
    rw [← Option.some.inj (hget.symm.trans hq)]
    exact hqueued
  · intro hworkers k p hp huri
    have hs : s.QueueWaits := queueWaits_run o workers _
    have hkept : s.workers = workers := (run_keeps (queueWaits_start o workers) _).2.1
    obtain ⟨taking, hget, hsettings⟩ := can_take_up hs (by rwa [hkept]) hp
    -- once it is taken up, the pass acts alone
    rw [← run_append] at hget hsettings
    have hfree : ((start o workers).run (before ++ [.handle (.closed uri)] ++
        taking)).orchestrator.shared.settings.entry p.document.uri = none := by
      rw [hsettings, huri]
      exact entry_of_closed o workers before uri
    obtain ⟨after, hpass, d, hd, hplace, htaken, hdocument⟩ :=
      can_deliver_of_queued o workers _ hget (hs p (List.mem_of_getElem? hp)) hfree
    rw [List.append_assoc, run_append] at hpass hd
    refine ⟨taking ++ after, hpass, d, hd, ?_, hplace, htaken, hdocument.trans huri⟩
    refine not_mem_deliveries_of_not_over o workers _ (fun q hq => ?_) hplace
    have hbound : s.passes.length + k < s.passes.length := (List.getElem?_eq_some_iff.mp hq).1
    omega

end Session

end LintRelay
