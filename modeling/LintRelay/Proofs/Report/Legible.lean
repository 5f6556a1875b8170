import Mathlib.Algebra.Group.Nat.Defs
import LintRelay.Proofs.Report.Cutting
import LintRelay.Proofs.Report.Scanning

/-!
# Legible reports

What every report that was read looks like: plain paths and rules, messages and
suggestions over lines of plain text, coordinates with no more digits than are
read. The main statement is `legible_of_parse`.
-/

namespace LintRelay.Report

open LintRelay.Text LintRelay.Decimal

/-- Lines that a message or a suggestion can run over: plain, not empty, and none
but the first one like the heading of the problems. -/
structure Legible (ls : List String) : Prop where
  plain : ∀ l ∈ ls, Plain l ∧ l ≠ ""
  later : ∀ l ∈ ls.tail, ¬ OpensProblems l

/-- Coordinates with no more digits than are read. -/
def ShortCoordinates (r : Range) : Prop :=
  (r.start.line < 10 ^ maxDigits ∧ r.start.column < 10 ^ maxDigits) ∧
    r.stop.line < 10 ^ maxDigits ∧ r.stop.column < 10 ^ maxDigits

/-- A finding such as reading gives. -/
structure LegibleFinding (f : Finding) : Prop where
  message : ∃ ls, Legible ls ∧ f.message = unlines ls
  suggestion : ∀ s ∈ f.suggestion,
    s ≠ placeholder ∧ ∃ ls, ls ≠ [] ∧ Legible ls ∧ s = unlines ls
  range : ShortCoordinates f.range
  ruleId : Plain f.ruleId
  ruleDocUri : Plain f.ruleDocUri

/-- A report such as reading gives. -/
structure LegibleReport (r : FileReport) : Prop where
  filePath : Plain r.filePath
  findings : ∀ f ∈ r.findings, LegibleFinding f

/-! ## Joined lines -/

theorem legible_nil : Legible [] :=
  ⟨fun _ h => absurd h List.not_mem_nil, fun _ h => absurd h List.not_mem_nil⟩

theorem Legible.tail {l : String} {ls : List String} (h : Legible (l :: ls)) : Legible ls :=
  ⟨fun l' hl' => h.plain l' (List.mem_cons_of_mem _ hl'),
    fun l' hl' => h.later l' (List.mem_of_mem_tail hl')⟩

theorem Legible.lines_unlines {ls : List String} (h : Legible ls) : lines (unlines ls) = ls :=
  Text.lines_unlines fun l hl => ⟨(h.plain l hl).1.unbroken, (h.plain l hl).2⟩

theorem toList_ne_nil {s : String} (h : s ≠ "") : s.toList ≠ [] := by
  simpa using h

theorem unlines_ne_empty {l : String} (hl : l ≠ "") (ls : List String) :
    unlines (l :: ls) ≠ "" := by
  cases ls with
  | nil => simpa using hl
  | cons l' ls =>
      intro h
      have hlist := congrArg String.toList h
      rw [toList_unlines_cons_cons] at hlist
      simp at hlist

theorem Legible.trimmed_unlines {ls : List String} (h : Legible ls) :
    Trimmed (unlines ls).toList := by
  induction ls with
  | nil => simp [Trimmed]
  | cons l ls ih =>
      obtain ⟨hl, hne⟩ := h.plain l List.mem_cons_self
      cases ls with
      | nil =>
          rw [unlines_singleton]
          exact hl.trimmed
      | cons l' ls =>
          have hrest : (unlines (l' :: ls)).toList ≠ [] :=
            toList_ne_nil (unlines_ne_empty (h.plain l' (by simp)).2 ls)
          rw [toList_unlines_cons_cons]
          refine ⟨fun c hc => hl.trimmed.1 c ?_, fun c hc => (ih h.tail).2 c ?_⟩
          · rwa [List.head?_append_of_ne_nil _ (toList_ne_nil hne)] at hc
          · rw [← List.getLast?_append_of_ne_nil (l.toList ++ ['\n']) hrest]
            simpa using hc

theorem Legible.stripped_unlines {ls : List String} (h : Legible ls) :
    stripped (unlines ls) = unlines ls :=
  stripped_eq_self h.trimmed_unlines

theorem Legible.normalSuggestion_unlines {ls : List String} (h : Legible ls) (hne : ls ≠ []) :
    normalSuggestion (unlines ls) = if unlines ls = placeholder then none else some (unlines ls) := by
  obtain ⟨l, ls, rfl⟩ := List.exists_cons_of_ne_nil hne
  have hempty := unlines_ne_empty (h.plain l List.mem_cons_self).2 ls
  rw [normalSuggestion, h.stripped_unlines]
  simp only [hempty, false_or]

/-! ## Parts of clean tokens -/

variable {opens : Marker → Bool} {ts : List Token}

theorem mem_sections {p : Token × List Token} (h : p ∈ sections opens ts) :
    p.1 ∈ ts ∧ p.2 ⊆ ts ∧ opens p.1.marker = true := by
  induction ts with
  | nil => exact absurd h List.not_mem_nil
  | cons t ts ih =>
      rw [sections] at h
      split_ifs at h with ht
      · rcases List.mem_cons.mp h with rfl | h
        · refine ⟨List.mem_cons_self, ?_, ht⟩
          exact fun u hu => List.mem_cons_of_mem _ ((List.takeWhile_sublist _).subset hu)
        · obtain ⟨h1, h2, h3⟩ := ih h
          exact ⟨List.mem_cons_of_mem _ h1, fun u hu => List.mem_cons_of_mem _ (h2 hu), h3⟩
      · obtain ⟨h1, h2, h3⟩ := ih h
        exact ⟨List.mem_cons_of_mem _ h1, fun u hu => List.mem_cons_of_mem _ (h2 hu), h3⟩

theorem mem_lastPart? {m : Marker} {p : Token × List Token} (h : lastPart? m ts = some p) :
    p.1 ∈ ts ∧ p.2 ⊆ ts := by
  have hmem : p ∈ sections Marker.opensPart ts :=
    (List.mem_filter.mp (List.mem_of_getLast? h)).1
  exact ⟨(mem_sections hmem).1, (mem_sections hmem).2.1⟩

/-- The lines of a part of clean tokens: what stands behind its key, unless it is
left out, and the free text after it. -/
theorem legible_lines {v : String} {omitted : Prop} [Decidable omitted] (hv : Plain v)
    (hkeep : ¬ omitted → v ≠ "") (hts : ∀ t ∈ ts, Clean t) :
    Legible ((if omitted then [] else [v]) ++ textLines ts) := by
  have htexts : ∀ l ∈ textLines ts, (Plain l ∧ l ≠ "") ∧ ¬ OpensProblems l := by
    intro l hl
    obtain ⟨t, ht, rfl⟩ := List.mem_map.mp hl
    obtain ⟨ht, htext⟩ := List.mem_filter.mp ht
    have hclean := hts t ht
    have hfree := hclean.text (by simpa using htext)
    exact ⟨⟨hclean.plain, hfree.1⟩, hfree.2⟩
  split_ifs with h
  · exact ⟨fun l hl => (htexts l hl).1, fun l hl => (htexts l (List.mem_of_mem_tail hl)).2⟩
  · refine ⟨fun l hl => ?_, fun l hl => (htexts l hl).2⟩
    rcases List.mem_cons.mp hl with rfl | hl
    · exact ⟨hv, hkeep h⟩
    · exact (htexts l hl).1

/-! ## Numerals -/

theorem ofDigitChars_lt {cs : List Char} (h : ∀ c ∈ cs, c.isDigit = true) :
    Nat.ofDigitChars 10 cs 0 < 10 ^ cs.length := by
  induction cs with
  | nil => simp
  | cons c cs ih =>
      have hrest := ih fun d hd => h d (List.mem_cons_of_mem _ hd)
      have hdigit : c.toNat - '0'.toNat ≤ 9 := by
        have hc := h c List.mem_cons_self
        simp only [Char.isDigit, Bool.and_eq_true, decide_eq_true_eq] at hc
        have h9 : c.toNat ≤ 57 := hc.2
        change c.toNat - 48 ≤ 9
        omega
      rw [Nat.ofDigitChars_cons, Nat.ofDigitChars_eq_ofDigitChars_zero, List.length_cons,
        Nat.pow_succ]
      have hle : 10 ^ cs.length * (10 * 0 + (c.toNat - '0'.toNat)) ≤ 10 ^ cs.length * 9 :=
        Nat.mul_le_mul_left _ (by omega)
      omega

theorem numeral?_lt {cs : List Char} {n : Nat} (h : numeral? cs = some n)
    (hfit : cs.length ≤ maxDigits) : n < 10 ^ maxDigits := by
  rw [numeral?] at h
  split_ifs at h with hnum
  obtain rfl := Option.some.inj h
  simp only [isNumeral, Bool.and_eq_true, List.all_eq_true] at hnum
  exact Nat.lt_of_lt_of_le (ofDigitChars_lt hnum.2) (Nat.pow_le_pow_right (by decide) hfit)

theorem shortCoordinates_zero : ShortCoordinates Range.zero := by
  have h : 0 < 10 ^ maxDigits := Nat.pow_pos (by decide)
  exact ⟨⟨h, h⟩, h, h⟩

theorem shortCoordinates_of_described {r : Range} (h : describedRange? ts = some r)
    (hfit : ts.map Token.marker = locationLayout →
      ∀ cs ∈ (coordinateTexts ts).takeWhile isNumeral, cs.length ≤ maxDigits) :
    ShortCoordinates r := by
  have hnum : ∀ cs ∈ coordinateTexts ts, isNumeral cs = true := by
    by_contra hbad
    have hnone : describedRange? ts = none :=
      describedRange?_of_not_numeral (by simpa using hbad)
    rw [hnone] at h
    cases h
  rw [describedRange?] at h
  split_ifs at h with hlayout
  -- no text stops the reading, so that all four are short
  have hfit := hfit hlayout
  rw [List.takeWhile_eq_self_iff.mpr hnum] at hfit
  obtain ⟨w, x, y, z, hcs⟩ := List.length_eq_four.mp (length_coordinateTexts hlayout)
  rw [hcs] at h hfit hnum
  have hnumeral : ∀ cs ∈ [w, x, y, z], numeral? cs = some (Nat.ofDigitChars 10 cs 0) := by
    intro cs hmem
    rw [numeral?, if_pos (hnum cs hmem)]
  have hlt : ∀ cs ∈ [w, x, y, z], Nat.ofDigitChars 10 cs 0 < 10 ^ maxDigits := by
    intro cs hmem
    exact numeral?_lt (hnumeral cs hmem) (hfit cs hmem)
  rw [List.map_congr_left hnumeral] at h
  obtain ⟨hstart, hstop⟩ := Range.between?_eq_some_iff.mp h
  rw [ShortCoordinates, hstart, hstop]
  exact ⟨⟨hlt w (by simp), hlt x (by simp)⟩, hlt y (by simp), hlt z (by simp)⟩

/-! ## What reading gives -/

theorem plain_field {i : Item} (h : ∀ t ∈ i.body, Clean t) (m : Marker) : Plain (i.field m) := by
  rw [Item.field]
  cases hpart : lastPart? m i.body with
  | none => exact plain_empty
  | some p => exact (h _ (mem_lastPart? hpart).1).plain

theorem legible_messageLines {i : Item} (hhead : Plain i.headline)
    (hbody : ∀ t ∈ i.body, Clean t) : Legible i.messageLines :=
  legible_lines hhead (fun h => (not_or.mp h).1) fun t ht =>
    hbody t ((List.takeWhile_sublist _).subset ht)

theorem legible_suggestionLines {i : Item} (hbody : ∀ t ∈ i.body, Clean t) :
    Legible i.suggestionLines := by
  rw [Item.suggestionLines]
  cases hpart : lastPart? .suggestion i.body with
  | none => exact legible_nil
  | some p =>
      obtain ⟨hkey, hsub⟩ := mem_lastPart? hpart
      exact legible_lines (hbody _ hkey).plain id fun t ht => hbody t (hsub ht)

theorem shortCoordinates_range {i : Item} (h : i.CoordinatesFit) :
    ShortCoordinates (i.range?.getD Range.zero) := by
  cases hrange : i.range? with
  | none => exact shortCoordinates_zero
  | some r =>
      obtain ⟨ts, hloc, hdescribed⟩ := Option.bind_eq_some_iff.mp hrange
      exact shortCoordinates_of_described hdescribed (h ts hloc)

theorem legible_finding {i : Item} (hhead : Plain i.headline) (hbody : ∀ t ∈ i.body, Clean t)
    (hfit : i.CoordinatesFit) : LegibleFinding i.finding := by
  have hmessage := legible_messageLines hhead hbody
  have hsuggestion := legible_suggestionLines hbody
  refine ⟨⟨_, hmessage, hmessage.stripped_unlines⟩, ?_, shortCoordinates_range hfit,
    plain_field hbody .ruleId, plain_field hbody .ruleDocUri⟩
  intro s hs
  have hs : i.suggestion? = some s := hs
  rw [Item.suggestion?] at hs
  split_ifs at hs with hnil
  rw [hsuggestion.normalSuggestion_unlines hnil] at hs
  split_ifs at hs with hplaceholder
  obtain rfl := Option.some.inj hs
  exact ⟨hplaceholder, _, hnil, hsuggestion, rfl⟩

def textTokens (s : String) : List Token :=
  (lines s).flatMap lineTokens

theorem map_snd_indexedTokens (ls : List String) :
    (indexedTokens ls).map (·.2) = ls.flatMap lineTokens := by
  have hzip : ∀ n, ((ls.zipIdx n).flatMap fun p => (lineTokens p.1).map (p.2, ·)).map (·.2) =
      ls.flatMap lineTokens := by
    induction ls with
    | nil => intro n; rfl
    | cons l ls ih =>
        intro n
        rw [List.zipIdx_cons, List.flatMap_cons, List.map_append, ih, List.flatMap_cons]
        simp [Function.comp_def]
  exact hzip 0

theorem parse_eq_ok_iff {s : String} {rs : List FileReport} :
    (parse s).reports = .ok rs ↔
      (∀ i ∈ allItems (textTokens s), i.CoordinatesFit) ∧ rs = outline (textTokens s) := by
  rw [parse, reports_eq_ok_iff, map_snd_indexedTokens]
  rfl

theorem clean_of_mem_textTokens {s : String} {t : Token} (h : t ∈ textTokens s) : Clean t := by
  obtain ⟨l, hl, ht⟩ := List.mem_flatMap.mp h
  exact clean_of_mem_lineTokens (unbroken_of_mem_lines hl) ht

theorem legible_of_parse {s : String} {rs : List FileReport} (h : (parse s).reports = .ok rs) :
    ∀ r ∈ rs, LegibleReport r := by
  obtain ⟨hfit, rfl⟩ := parse_eq_ok_iff.mp h
  intro r hr
  obtain ⟨p, hp, rfl⟩ := List.mem_map.mp hr
  obtain ⟨hheader, hsection, -⟩ := mem_sections hp
  refine ⟨(clean_of_mem_textTokens hheader).plain, fun f hf => ?_⟩
  obtain ⟨i, hi, rfl⟩ := List.mem_map.mp hf
  have hfit := hfit i (List.mem_flatMap.mpr ⟨p, hp, hi⟩)
  obtain ⟨q, hq, rfl⟩ := List.mem_map.mp hi
  obtain ⟨hkey, hbody, -⟩ := mem_sections hq
  exact legible_finding (clean_of_mem_textTokens (hsection hkey)).plain
    (fun t ht => clean_of_mem_textTokens (hsection (hbody ht))) hfit

end LintRelay.Report
