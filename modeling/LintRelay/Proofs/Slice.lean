import Mathlib.Algebra.Ring.Nat
import Mathlib.Data.List.GetD
import Mathlib.Tactic.SplitIfs
import LintRelay.Position

/-!
# Slices and offsets

Every place has an offset in a text: the characters before it, with the line feeds between
the lines. A slice is what stands between the offsets of the two ends of its range, however
far these lie outside the text, and so the slices of adjacent ranges make up that of the
whole.
-/

namespace LintRelay

/-- The offset of a place on one of some lines: the lines before, each with its line feed, and
the column as far as the line goes. -/
def Position.offsetAmong (lines : List (List Char)) (p : Position) : Nat :=
  ((lines.take p.line).map (·.length + 1)).sum + min p.column (lines.getD p.line []).length

/-- The offset of a place in a text; one past the last line is at the end. -/
def Position.offset (text : String) (p : Position) : Nat :=
  let lines := text.toList.splitOn '\n'
  if p.line < lines.length then p.offsetAmong lines else text.length

/-! ## Lines put together -/

/-- Lines put together are the first one, and the others behind their line feeds. -/
theorem intercalate_lines_cons (line : List Char) (rest : List (List Char)) :
    ['\n'].intercalate (line :: rest) = line ++ rest.flatMap ('\n' :: ·) := by
  induction rest generalizing line with
  | nil => simp [List.intercalate_singleton]
  | cons second rest ih =>
    rw [List.intercalate_cons_cons, ih second, List.flatMap_cons]
    simp

/-- Lines put together are some of them with their line feeds, and the others put together. -/
theorem intercalate_lines_append (before : List (List Char)) (line : List Char)
    (rest : List (List Char)) :
    ['\n'].intercalate (before ++ line :: rest) =
      before.flatMap (· ++ ['\n']) ++ (line ++ rest.flatMap ('\n' :: ·)) := by
  induction before with
  | nil => exact intercalate_lines_cons line rest
  | cons first before ih =>
    obtain ⟨second, others, hothers⟩ := List.exists_cons_of_ne_nil
      (List.append_ne_nil_of_right_ne_nil before (List.cons_ne_nil line rest))
    rw [List.cons_append, List.flatMap_cons, hothers, List.intercalate_cons_cons, ← hothers, ih]
    simp only [List.append_assoc]

/-- Lines with their line feeds are the text of the lines, and a line feed behind it. -/
theorem flatMap_lf {lines : List (List Char)} (hne : lines ≠ []) :
    lines.flatMap (· ++ ['\n']) = ['\n'].intercalate lines ++ ['\n'] := by
  obtain ⟨before, last, rfl⟩ := (List.eq_nil_or_concat lines).resolve_left hne
  rw [List.concat_eq_append, intercalate_lines_append, List.flatMap_append]
  simp

section

variable {lines : List (List Char)} {p q : Position}

/-- The lines put together, cut at a place: those before it, its own, and those after it. -/
theorem intercalate_lines_at (h : p.line < lines.length) :
    ['\n'].intercalate lines = (lines.take p.line).flatMap (· ++ ['\n']) ++
      (lines.getD p.line [] ++ (lines.drop (p.line + 1)).flatMap ('\n' :: ·)) := by
  rw [← intercalate_lines_append, List.getD_eq_getElem _ _ h, ← List.drop_eq_getElem_cons h,
    List.take_append_drop]

theorem length_linesBefore (before : List (List Char)) :
    (before.flatMap (· ++ ['\n'])).length = (before.map (·.length + 1)).sum := by
  simp [List.length_flatMap]

theorem drop_offsetAmong (h : p.line < lines.length) :
    (['\n'].intercalate lines).drop (p.offsetAmong lines) =
      ['\n'].intercalate ((lines.getD p.line []).drop p.column :: lines.drop (p.line + 1)) := by
  have hcolumn : min p.column (lines.getD p.line []).length ≤ (lines.getD p.line []).length :=
    Nat.min_le_right ..
  have hdrop : ∀ cs : List Char, cs.drop (min p.column cs.length) = cs.drop p.column := by
    intro cs
    rw [List.drop_eq_drop_iff]
    omega
  rw [intercalate_lines_at h, Position.offsetAmong, ← length_linesBefore,
    List.drop_length_add_append, List.drop_append_of_le_length hcolumn, hdrop,
    intercalate_lines_cons]

theorem take_offsetAmong (h : p.line < lines.length) :
    (['\n'].intercalate lines).take (p.offsetAmong lines) =
      ['\n'].intercalate (lines.take p.line ++ [(lines.getD p.line []).take p.column]) := by
  have hcolumn : min p.column (lines.getD p.line []).length ≤ (lines.getD p.line []).length :=
    Nat.min_le_right ..
  rw [intercalate_lines_at h, Position.offsetAmong, ← length_linesBefore,
    List.take_length_add_append, List.take_append_of_le_length hcolumn, ← List.take_eq_take_min,
    intercalate_lines_append]
  simp

theorem offsetAmong_le (h : p ≤ q) (hq : q.line < lines.length) :
    p.offsetAmong lines ≤ q.offsetAmong lines := by
  rcases (Position.le_iff p q).mp h with hline | ⟨hline, hcolumn⟩
  · -- the line of the earlier place stands among those before the later one
    have hp : p.line < lines.length := Nat.lt_trans hline hq
    have hbefore : lines.take q.line = lines.take p.line ++
        lines.getD p.line [] :: (lines.take q.line).drop (p.line + 1) := by
      have hlong : p.line < (lines.take q.line).length := by
        rw [List.length_take]
        omega
      have htake : (lines.take q.line).take p.line = lines.take p.line := by
        rw [List.take_take, Nat.min_eq_left (Nat.le_of_lt hline)]
      have hself : (lines.take q.line)[p.line] = lines[p.line] := List.getElem_take
      rw [List.getD_eq_getElem _ _ hp, ← hself, ← htake, ← List.drop_eq_getElem_cons hlong,
        List.take_append_drop]
    rw [Position.offsetAmong, Position.offsetAmong, hbefore, List.map_append, List.sum_append,
      List.map_cons, List.sum_cons]
    omega
  · rw [Position.offsetAmong, Position.offsetAmong, hline]
    omega

theorem offsetAmong_le_length (h : p.line < lines.length) :
    p.offsetAmong lines ≤ (['\n'].intercalate lines).length := by
  rw [intercalate_lines_at h, Position.offsetAmong, ← length_linesBefore, List.length_append,
    List.length_append]
  omega

end

namespace Range

/-! ## Slices of lines -/

variable {r : Range} {lines : List (List Char)}

/-- The lines up to the end of a range, the last one cut there. -/
def linesUpto (r : Range) (lines : List (List Char)) : List (List Char) :=
  let last := min r.stop.line (lines.length - 1)
  lines.take last ++ [if r.stop.line = last then (lines.getD last []).take r.stop.column
    else lines.getD last []]

theorem start_line_le (h : r.start.line < lines.length) :
    r.start.line ≤ min r.stop.line (lines.length - 1) := by
  have hordered := (Position.le_iff _ _).mp r.ordered
  omega

theorem length_linesUpto (hne : lines ≠ []) :
    (r.linesUpto lines).length = min r.stop.line (lines.length - 1) + 1 := by
  have hpos : 0 < lines.length := List.length_pos_iff.mpr hne
  rw [linesUpto, List.length_append, List.length_take, List.length_singleton]
  omega

/-- The line that a range starts on, among the lines up to its end. -/
theorem getD_linesUpto (h : r.start.line < lines.length) :
    (r.linesUpto lines).getD r.start.line [] =
      if r.start.line = r.stop.line then (lines.getD r.start.line []).take r.stop.column
      else lines.getD r.start.line [] := by
  have hle := start_line_le h
  have hlength : (lines.take (min r.stop.line (lines.length - 1))).length =
      min r.stop.line (lines.length - 1) := by
    rw [List.length_take]
    omega
  rw [linesUpto]
  by_cases hline : r.start.line = min r.stop.line (lines.length - 1)
  · rw [List.getD_append_right _ _ _ _ (by omega), hlength, hline, Nat.sub_self,
      List.getD_cons_zero]
    simp only [eq_comm]
  · have hlt : r.start.line < (lines.take (min r.stop.line (lines.length - 1))).length := by omega
    rw [List.getD_append _ _ _ _ hlt, if_neg (by omega), List.getD_eq_getElem _ _ hlt,
      List.getD_eq_getElem _ _ h, List.getElem_take]

/-- The start of a range has the same offset among the lines up to its end. -/
theorem offsetAmong_linesUpto (h : r.start.line < lines.length) :
    r.start.offsetAmong (r.linesUpto lines) = r.start.offsetAmong lines := by
  have hle := start_line_le h
  have hbefore : (r.linesUpto lines).take r.start.line = lines.take r.start.line := by
    rw [linesUpto, List.take_append_of_le_length (by rw [List.length_take]; omega),
      List.take_take, Nat.min_eq_left hle]
  rw [Position.offsetAmong, Position.offsetAmong, hbefore, getD_linesUpto h]
  split_ifs with hline
  · have hcolumn : r.start.column ≤ r.stop.column := by
      have hordered := (Position.le_iff _ _).mp r.ordered
      omega
    rw [List.length_take]
    omega
  · rfl

theorem sliceLines_eq_nil (h : lines.length ≤ r.start.line) : r.sliceLines lines = [] :=
  if_pos h

/-- A slice holds what follows the start of its range on the lines up to its end. -/
theorem sliceLines_eq (h : r.start.line < lines.length) :
    r.sliceLines lines = ((r.linesUpto lines).getD r.start.line []).drop r.start.column ::
      (r.linesUpto lines).drop (r.start.line + 1) := by
  have hle := start_line_le h
  have hlength : (lines.take (min r.stop.line (lines.length - 1))).length =
      min r.stop.line (lines.length - 1) := by
    rw [List.length_take]
    omega
  rw [getD_linesUpto h, sliceLines, if_neg (Nat.not_le.mpr h)]
  by_cases hline : r.start.line = min r.stop.line (lines.length - 1)
  · have hnone : (r.linesUpto lines).drop (r.start.line + 1) = [] := by
      apply List.drop_eq_nil_of_le
      have hlast := length_linesUpto (r := r) (List.ne_nil_of_length_pos (Nat.zero_lt_of_lt h))
      omega
    rw [if_pos hline, hnone, ← hline]
    simp only [eq_comm]
  · have hrest : (r.linesUpto lines).drop (r.start.line + 1) =
        (lines.take (min r.stop.line (lines.length - 1))).drop (r.start.line + 1) ++ _ :=
      List.drop_append_of_le_length (by omega)
    rw [if_neg hline, if_neg (by omega), hrest]

/-- The lines up to the end of a range make up the text up to its offset. -/
theorem intercalate_linesUpto_of_lt (h : r.stop.line < lines.length) :
    ['\n'].intercalate (r.linesUpto lines) =
      (['\n'].intercalate lines).take (r.stop.offsetAmong lines) := by
  have hlast : min r.stop.line (lines.length - 1) = r.stop.line := by omega
  simp only [linesUpto, hlast, if_true]
  exact (take_offsetAmong h).symm

theorem linesUpto_of_le (h : lines.length ≤ r.stop.line) (hne : lines ≠ []) :
    r.linesUpto lines = lines := by
  have hpos : 0 < lines.length := List.length_pos_iff.mpr hne
  have hlast : min r.stop.line (lines.length - 1) = lines.length - 1 := by omega
  have hpast : r.stop.line ≠ lines.length - 1 := by omega
  simp only [linesUpto, hlast, if_neg hpast]
  rw [List.getD_eq_getElem _ _ (by omega), List.take_append_getElem (by omega),
    Nat.sub_add_cancel hpos, List.take_length]

theorem toList_slice (text : String) (r : Range) :
    (r.slice text).toList =
      (text.toList.take (r.stop.offset text)).drop (r.start.offset text) := by
  have hjoin : ['\n'].intercalate (text.toList.splitOn '\n') = text.toList :=
    List.intercalate_splitOn '\n'
  have hne : text.toList.splitOn '\n' ≠ [] := List.splitOnP_ne_nil _ _
  rw [slice, String.toList_ofList, Position.offset, Position.offset]
  generalize text.toList.splitOn '\n' = lines at hjoin hne ⊢
  by_cases hstart : r.start.line < lines.length
  · have hplace : r.start.line < (r.linesUpto lines).length := by
      rw [length_linesUpto hne]
      exact Nat.lt_succ_of_le (start_line_le hstart)
    rw [if_pos hstart, sliceLines_eq hstart, ← drop_offsetAmong hplace,
      offsetAmong_linesUpto hstart]
    split_ifs with hstop
    · rw [intercalate_linesUpto_of_lt hstop, hjoin]
    · rw [linesUpto_of_le (Nat.not_lt.mp hstop) hne, hjoin, ← String.length_toList,
        List.take_length]
  · rw [if_neg hstart, sliceLines_eq_nil (Nat.not_lt.mp hstart)]
    symm
    apply List.drop_eq_nil_of_le
    rw [List.length_take, String.length_toList]
    exact Nat.min_le_right ..

theorem offset_le_length (text : String) (p : Position) : p.offset text ≤ text.length := by
  rw [Position.offset]
  split_ifs with h
  · have hle := offsetAmong_le_length h
    rwa [List.intercalate_splitOn, String.length_toList] at hle
  · exact Nat.le_refl _

theorem offset_le_offset (text : String) {p q : Position} (h : p ≤ q) :
    p.offset text ≤ q.offset text := by
  by_cases hq : q.line < (text.toList.splitOn '\n').length
  · have hp : p.line < (text.toList.splitOn '\n').length := by
      have hordered := (Position.le_iff p q).mp h
      omega
    rw [Position.offset, Position.offset, if_pos hp, if_pos hq]
    exact offsetAmong_le h hq
  · have hend : q.offset text = text.length := if_neg hq
    rw [hend]
    exact offset_le_length text p

/-- **Slices by offsets.** Every range of a text covers just the characters between the
offsets of its ends, which are in order, and the slices of adjacent ranges, one behind the
other, are the slice of the whole. -/
theorem slice_eq_between_offsets (text : String) :
    (∀ r : Range,
      r.slice text =
          String.ofList ((text.toList.take (r.stop.offset text)).drop (r.start.offset text)) ∧
        r.start.offset text ≤ r.stop.offset text ∧ r.stop.offset text ≤ text.length) ∧
    ∀ first second whole : Range, first.start = whole.start → first.stop = second.start →
      second.stop = whole.stop → first.slice text ++ second.slice text = whole.slice text := by
  refine ⟨fun r => ⟨?_, offset_le_offset text r.ordered, offset_le_length text r.stop⟩, ?_⟩
  · rw [← toList_slice, String.ofList_toList]
  · intro first second whole hstart hmeet hstop
    have hfirst := offset_le_offset text first.ordered
    have hsecond := offset_le_offset text second.ordered
    rw [hmeet] at hfirst
    apply String.toList_inj.mp
    rw [String.toList_append, toList_slice, toList_slice, toList_slice, hmeet, ← hstart, ← hstop]
    -- the first slice is the beginning of what the second one is the end of
    have hcut : text.toList.take (second.start.offset text) =
        (text.toList.take (second.stop.offset text)).take (second.start.offset text) := by
      rw [List.take_take, Nat.min_eq_left hsecond]
    have hmiddle := List.take_append_drop (second.start.offset text - first.start.offset text)
      ((text.toList.take (second.stop.offset text)).drop (first.start.offset text))
    rwa [List.drop_drop, Nat.add_sub_cancel' hfirst, ← List.drop_take, ← hcut] at hmiddle

/-- Two ranges that meet inside a line; the second goes past the end of the text. -/
theorem slice_eq_between_offsets_meeting :
    (⟨⟨0, 1⟩, ⟨1, 1⟩, by decide⟩ : Range).slice "ab\ncd\ne" = "b\nc" ∧
      (⟨⟨1, 1⟩, ⟨9, 0⟩, by decide⟩ : Range).slice "ab\ncd\ne" = "d\ne" ∧
      (⟨⟨0, 1⟩, ⟨9, 0⟩, by decide⟩ : Range).slice "ab\ncd\ne" = "b\ncd\ne" := by
  refine ⟨by decide +kernel, by decide +kernel, ?_⟩
  rw [← (slice_eq_between_offsets "ab\ncd\ne").2 ⟨⟨0, 1⟩, ⟨1, 1⟩, by decide⟩
    ⟨⟨1, 1⟩, ⟨9, 0⟩, by decide⟩ ⟨⟨0, 1⟩, ⟨9, 0⟩, by decide⟩ rfl rfl rfl]
  decide +kernel

end Range

end LintRelay
