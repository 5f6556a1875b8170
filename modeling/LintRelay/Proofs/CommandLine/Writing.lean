import LintRelay.CommandLine.Run
import LintRelay.Proofs.Publication.Stream
import LintRelay.Proofs.Report.Legible
import LintRelay.Proofs.Validation.Completing

/-!
# What a command can write

A number is written only if it has no more digits than are read. So whatever was read of a
linter's output can be written: its reports in their own layout, and the sets that are
published for a document in JSON and in tables.
-/

namespace LintRelay

open LintRelay.Console

namespace Report

theorem ShortCoordinates.isWritable {r : Range} (h : ShortCoordinates r) : isWritable r = true := by
  -- for any number of digits, so that the power is not computed
  have hpow : ∀ n digits : Nat, n < 10 ^ digits → n < Nat.pow 10 digits := fun _ _ h => h
  obtain ⟨⟨hline, hcolumn⟩, hline', hcolumn'⟩ := h
  simp only [Report.isWritable, List.all_cons, List.all_nil, Bool.and_eq_true,
    Decimal.isWritable_iff]
  exact ⟨⟨hpow _ _ hline, hpow _ _ hcolumn⟩, ⟨hpow _ _ hline', hpow _ _ hcolumn'⟩, trivial⟩

variable {output : String} {reports : List FileReport}

theorem isWritable_of_parse (h : (parse output).reports = .ok reports) :
    ∀ r ∈ reports, ∀ f ∈ r.findings, isWritable f.range = true := fun r hr f hf =>
  ((legible_of_parse h r hr).findings f hf).range.isWritable

theorem write_of_parse (h : (parse output).reports = .ok reports) :
    write reports = .ok (render reports) := by
  rw [write, if_pos]
  simpa only [List.all_eq_true] using isWritable_of_parse h

end Report

namespace Document

variable {d : Document} {related : Bool} {findings : List Finding}
  {suggestion : Nat → Finding → Option String} {set : List Diagnostic}

theorem isWritable_of_mem_findings {output : String} {reports : List FileReport}
    (h : (Report.parse output).reports = .ok reports) :
    ∀ f ∈ d.findings reports, Report.isWritable f.range = true := by
  have hsub : d.reports reports ⊆ reports := by
    intro r hr
    unfold Document.reports at hr
    split at hr
    · exact hr
    · dsimp only at hr
      split_ifs at hr
      · exact hr
      · exact List.mem_of_mem_filter hr
  intro f hf
  obtain ⟨r, hr, hf⟩ := List.mem_flatMap.mp hf
  exact Report.isWritable_of_parse h r (hsub hr) f hf

theorem Shows.isWritable (h : d.Shows related findings suggestion set)
    (hfindings : ∀ f ∈ findings, Report.isWritable f.range = true) :
    ∀ x ∈ set, x.toLsp.isWritable = true := by
  intro x hx
  obtain ⟨k, hk⟩ := List.getElem?_of_mem hx
  have hlt : k < findings.length := h.length ▸ (List.getElem?_eq_some_iff.mp hk).1
  have htells := h.each k _ x (List.getElem?_eq_getElem hlt) hk
  have hwritable := hfindings _ (List.getElem_mem hlt)
  rw [Diagnostic.isWritable_toLsp, htells.range, hwritable, Bool.true_and, List.all_eq_true]
  intro i hi
  rw [htells.related] at hi
  have hplace : i.range = findings[k].range := by
    split_ifs at hi
    · simp only [List.mem_append, List.mem_map, List.mem_singleton] at hi
      obtain ⟨_, -, rfl⟩ | rfl := hi <;> rfl
    · exact absurd hi List.not_mem_nil
  rw [hplace, hwritable]

end Document

namespace CommandLine

variable {o : CheckOptions} {p : Publication}

theorem blocks_of_json (hjson : o.json) (h : ∀ x ∈ p.diagnostics, x.toLsp.isWritable = true) :
    o.blocks p = .ok [.text (p.line ++ "\n")] := by
  have hp : p.toLsp.isWritable = true := by
    rw [Publication.isWritable_toLsp]
    exact List.all_eq_true.mpr h
  rw [CheckOptions.blocks, if_pos hjson, Publication.jsonLine_eq, if_pos hp]
  rfl

theorem rowOf_of_isWritable {colour marks : Bool} {x : Diagnostic}
    (h : x.toLsp.isWritable = true) : ∃ row, rowOf colour marks x = .ok row := by
  rw [Diagnostic.isWritable_toLsp, Bool.and_eq_true] at h
  have hstart : (Decimal.isWritable x.range.start.line &&
      Decimal.isWritable x.range.start.column) = true := by
    have hrange := h.1
    simp only [Report.isWritable, List.all_cons, Bool.and_eq_true] at hrange
    rw [Bool.and_eq_true]
    exact hrange.1
  rw [rowOf, placeText, if_pos hstart]
  exact ⟨_, rfl⟩

theorem exists_blocks (h : ∀ x ∈ p.diagnostics, x.toLsp.isWritable = true) :
    ∃ blocks, o.blocks p = .ok blocks := by
  cases hjson : o.json with
  | true => exact ⟨_, blocks_of_json hjson h⟩
  | false =>
      have hrows : ∃ rows, p.diagnostics.mapM (rowOf o.colour o.marks) = .ok rows := by
        generalize p.diagnostics = xs at h
        induction xs with
        | nil => exact ⟨[], rfl⟩
        | cons x xs ih =>
            rw [List.forall_mem_cons] at h
            obtain ⟨row, hrow⟩ : ∃ row, rowOf o.colour o.marks x = .ok row :=
              rowOf_of_isWritable h.1
            obtain ⟨rows, hrows⟩ := ih h.2
            exact ⟨row :: rows, by rw [List.mapM_cons, hrow, hrows]; rfl⟩
      obtain ⟨rows, hrows⟩ := hrows
      simp only [CheckOptions.blocks, hjson, Bool.false_eq_true, if_false, table?, hrows]
      split_ifs <;> exact ⟨_, rfl⟩

theorem sink_eq_none (h : ∀ x ∈ p.diagnostics, x.toLsp.isWritable = true) : o.sink p = none := by
  obtain ⟨blocks, hblocks⟩ := exists_blocks (o := o) h
  rw [CheckOptions.sink, hblocks]

/-- The sink of a check takes what a pass over readable output is due to publish. -/
theorem sink_eq_none_of_isDue {d : Document} {ctx : PassContext} {c : Collaborators}
    {output : String} {reports : List FileReport} {set : List Diagnostic}
    (hread : (Report.parse output).reports = .ok reports) (hdue : d.IsDue ctx c reports set) :
    o.sink ⟨d.uri, set⟩ = none := by
  obtain ⟨s, -, hshows⟩ := hdue
  exact sink_eq_none (p := ⟨d.uri, set⟩)
    (hshows.isWritable (Document.isWritable_of_mem_findings hread))

end CommandLine

end LintRelay
