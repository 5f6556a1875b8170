import Mathlib.Data.List.TakeWhile
import LintRelay.Proofs.Report.Outline

/-!
# Reading a location

The scanner reads the coordinates of a location from left to right, up to the
first that is no numeral. Unless a numeral on the way is too long it finds the
range that the location describes; otherwise it stops.
-/

namespace LintRelay.Report

open LintRelay.Text LintRelay.Decimal

/-- The range read from a location, or the zero range. -/
def orZero : Except Anomaly Range → Range
  | .ok range => range
  | .error _ => Range.zero

/-! ## Coordinates -/

theorem coordinateTexts_cons_of_number {t : Token}
    (h : t.marker = .lineNumber ∨ t.marker = .columnNumber) (ts : List Token) :
    coordinateTexts (t :: ts) = trim t.value.toList :: coordinateTexts ts := by
  rw [coordinateTexts, List.filter_cons_of_pos (by simpa using h)]
  rfl

theorem coordinateTexts_cons_of_other {t : Token}
    (h : ¬ (t.marker = .lineNumber ∨ t.marker = .columnNumber)) (ts : List Token) :
    coordinateTexts (t :: ts) = coordinateTexts ts := by
  rw [coordinateTexts, List.filter_cons_of_neg (by simpa using h), coordinateTexts]

theorem coordinates_cons_of_other {t : Token}
    (h : ¬ (t.marker = .lineNumber ∨ t.marker = .columnNumber)) (ts : List Token) :
    coordinates (t :: ts) = coordinates ts := by
  rw [coordinates, if_neg h]

theorem coordinates_cons_of_not_numeral {t : Token}
    (h : t.marker = .lineNumber ∨ t.marker = .columnNumber)
    (hnum : isNumeral (trim t.value.toList) = false) (ts : List Token) :
    coordinates (t :: ts) = .ok (.error (.notCoordinate t.marker t.value)) := by
  rw [coordinates, if_pos h, coordinate?]
  simp only [hnum]
  rfl

theorem coordinates_cons_of_numeral {t : Token}
    (h : t.marker = .lineNumber ∨ t.marker = .columnNumber)
    (hnum : isNumeral (trim t.value.toList) = true) (ts : List Token) :
    coordinates (t :: ts) =
      readDigits (trim t.value.toList) >>= fun n =>
        ((n :: ·) <$> ·) <$> coordinates ts := by
  rw [coordinates, if_pos h, coordinate?]
  simp only [hnum, if_true]
  cases readDigits (trim t.value.toList) with
  | error e => rfl
  | ok n =>
      change (coordinates ts >>= fun found => pure ((n :: ·) <$> found)) = _
      cases coordinates ts <;> rfl

theorem coordinates_of_numerals {ts : List Token}
    (hnum : ∀ cs ∈ coordinateTexts ts, isNumeral cs = true)
    (hfit : ∀ cs ∈ coordinateTexts ts, cs.length ≤ maxDigits) :
    coordinates ts =
      .ok (.ok ((coordinateTexts ts).map fun cs => Nat.ofDigitChars 10 cs 0)) := by
  induction ts with
  | nil => rfl
  | cons t ts ih =>
      by_cases ht : t.marker = .lineNumber ∨ t.marker = .columnNumber
      · rw [coordinateTexts_cons_of_number ht] at hnum hfit ⊢
        rw [coordinates_cons_of_numeral ht (hnum _ List.mem_cons_self), readDigits,
          if_pos (hfit _ List.mem_cons_self),
          ih (fun cs hcs => hnum cs (List.mem_cons_of_mem _ hcs))
            (fun cs hcs => hfit cs (List.mem_cons_of_mem _ hcs))]
        rfl
      · rw [coordinateTexts_cons_of_other ht] at hnum hfit ⊢
        rw [coordinates_cons_of_other ht]
        exact ih hnum hfit

/-- A coordinate that is no numeral ends the reading, if those before it can be
read. -/
theorem coordinates_of_not_numeral {ts : List Token}
    (hnum : ∃ cs ∈ coordinateTexts ts, isNumeral cs = false)
    (hfit : ∀ cs ∈ (coordinateTexts ts).takeWhile isNumeral, cs.length ≤ maxDigits) :
    ∃ anomaly, coordinates ts = .ok (.error anomaly) := by
  induction ts with
  | nil =>
      obtain ⟨cs, hcs, _⟩ := hnum
      simp [coordinateTexts] at hcs
  | cons t ts ih =>
      by_cases ht : t.marker = .lineNumber ∨ t.marker = .columnNumber
      · rw [coordinateTexts_cons_of_number ht] at hnum hfit
        cases hhead : isNumeral (trim t.value.toList) with
        | false => exact ⟨_, coordinates_cons_of_not_numeral ht hhead ts⟩
        | true =>
            -- a numeral is no reason to stop, so the bad text comes later
            rw [List.takeWhile_cons_of_pos hhead] at hfit
            obtain ⟨cs, hcs, hbad⟩ := hnum
            have hlater : cs ∈ coordinateTexts ts := by
              rcases List.mem_cons.mp hcs with rfl | hcs
              · rw [hhead] at hbad
                exact Bool.noConfusion hbad
              · exact hcs
            obtain ⟨anomaly, hrest⟩ :=
              ih ⟨cs, hlater, hbad⟩ fun cs hcs => hfit cs (List.mem_cons_of_mem _ hcs)
            refine ⟨anomaly, ?_⟩
            rw [coordinates_cons_of_numeral ht hhead, readDigits,
              if_pos (hfit _ List.mem_cons_self), hrest]
            rfl
      · rw [coordinateTexts_cons_of_other ht] at hnum hfit
        rw [coordinates_cons_of_other ht]
        exact ih hnum hfit

/-- A numeral that is too long stops the reading when it is reached. -/
theorem coordinates_of_oversized {ts : List Token} {cs : List Char}
    (hcs : cs ∈ (coordinateTexts ts).takeWhile isNumeral) (hlong : maxDigits < cs.length) :
    ∃ e, coordinates ts = .error e ∧ maxDigits < e.digits := by
  induction ts with
  | nil => simp [coordinateTexts] at hcs
  | cons t ts ih =>
      by_cases ht : t.marker = .lineNumber ∨ t.marker = .columnNumber
      · rw [coordinateTexts_cons_of_number ht] at hcs
        cases hhead : isNumeral (trim t.value.toList) with
        | false =>
            rw [List.takeWhile_cons_of_neg (by simp [hhead])] at hcs
            exact absurd hcs List.not_mem_nil
        | true =>
            rw [coordinates_cons_of_numeral ht hhead, readDigits]
            by_cases hfit : (trim t.value.toList).length ≤ maxDigits
            · rw [if_pos hfit]
              rw [List.takeWhile_cons_of_pos hhead] at hcs
              rcases List.mem_cons.mp hcs with rfl | hcs
              · omega
              · obtain ⟨e, he, hdigits⟩ := ih hcs
                refine ⟨e, ?_, hdigits⟩
                rw [he]
                rfl
            · rw [if_neg hfit]
              exact ⟨_, rfl, by simpa using hfit⟩
      · rw [coordinateTexts_cons_of_other ht] at hcs
        rw [coordinates_cons_of_other ht]
        exact ih hcs

theorem length_coordinateTexts {ts : List Token} (h : ts.map Token.marker = locationLayout) :
    (coordinateTexts ts).length = 4 := by
  have hcount : (coordinateTexts ts).length =
      ((ts.map Token.marker).filter fun m => m = .lineNumber ∨ m = .columnNumber).length := by
    rw [List.filter_map, List.length_map, coordinateTexts, List.length_map]
    rfl
  rw [hcount, h]
  decide

/-! ## Locations -/

theorem describedRange?_of_not_numeral {ts : List Token}
    (hnum : ∃ cs ∈ coordinateTexts ts, isNumeral cs = false) : describedRange? ts = none := by
  obtain ⟨cs, hcs, hbad⟩ := hnum
  have hnone : none ∈ (coordinateTexts ts).map numeral? :=
    List.mem_map.mpr ⟨cs, hcs, by simp [numeral?, hbad]⟩
  rw [describedRange?]
  split_ifs
  · split
    · rename_i heq
      rw [heq] at hnone
      simp at hnone
    · rfl
  · rfl

theorem locate_of_numerals {ts : List Token} (hlayout : ts.map Token.marker = locationLayout)
    (hnum : ∀ cs ∈ coordinateTexts ts, isNumeral cs = true)
    (hfit : ∀ cs ∈ coordinateTexts ts, cs.length ≤ maxDigits) :
    orZero <$> locate (some ts) = .ok ((describedRange? ts).getD Range.zero) := by
  have hnumeral : ∀ cs ∈ coordinateTexts ts, numeral? cs = some (Nat.ofDigitChars 10 cs 0) := by
    intro cs hmem
    rw [numeral?, if_pos (hnum cs hmem)]
  rw [locate, if_pos hlayout, describedRange?, if_pos hlayout, coordinates_of_numerals hnum hfit,
    List.map_congr_left hnumeral]
  obtain ⟨a, b, c, d, hcs⟩ := List.length_eq_four.mp (length_coordinateTexts hlayout)
  simp only [hcs, List.map_cons, List.map_nil]
  cases hrange : Range.between? ⟨Nat.ofDigitChars 10 a 0, Nat.ofDigitChars 10 b 0⟩
      ⟨Nat.ofDigitChars 10 c 0, Nat.ofDigitChars 10 d 0⟩ <;>
    simp only [bind, Except.bind, hrange] <;> rfl

/-- Where every coordinate that is reached can be read, reading gives the range
that the location describes. -/
theorem locate_of_fits {ts : List Token}
    (hfit : ts.map Token.marker = locationLayout →
      ∀ cs ∈ (coordinateTexts ts).takeWhile isNumeral, cs.length ≤ maxDigits) :
    orZero <$> locate (some ts) = .ok ((describedRange? ts).getD Range.zero) := by
  by_cases hlayout : ts.map Token.marker = locationLayout
  · have hfit := hfit hlayout
    by_cases hnum : ∀ cs ∈ coordinateTexts ts, isNumeral cs = true
    · rw [List.takeWhile_eq_self_iff.mpr hnum] at hfit
      exact locate_of_numerals hlayout hnum hfit
    · have hbad : ∃ cs ∈ coordinateTexts ts, isNumeral cs = false := by
        simpa using hnum
      obtain ⟨anomaly, hread⟩ := coordinates_of_not_numeral hbad hfit
      rw [locate, if_pos hlayout, hread, describedRange?_of_not_numeral hbad]
      rfl
  · rw [locate, if_neg hlayout, describedRange?, if_neg hlayout]
    rfl

/-- A coordinate that is too long stops the reading where it is reached. -/
theorem locate_of_oversized {ts : List Token} {cs : List Char}
    (hlayout : ts.map Token.marker = locationLayout)
    (hcs : cs ∈ (coordinateTexts ts).takeWhile isNumeral) (hlong : maxDigits < cs.length) :
    ∃ e, locate (some ts) = .error e ∧ maxDigits < e.digits := by
  obtain ⟨e, he, hdigits⟩ := coordinates_of_oversized hcs hlong
  refine ⟨e, ?_, hdigits⟩
  rw [locate, if_pos hlayout, he]
  rfl

end LintRelay.Report
