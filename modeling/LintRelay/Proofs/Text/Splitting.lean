import Mathlib.Data.List.TakeWhile
import LintRelay.Text.Classes
import LintRelay.Text.Lines

/-!
# Splitting into lines

Lines that hold no break come back when they are joined by line feeds and split
again. Splitting a joined text in general gives the lines of the two parts, with
at most one empty line between them, or none where the first one is ended by the
line feed that joins them.
-/

namespace LintRelay.Text

/-- No character that ends a line. -/
def Unbroken (cs : List Char) : Prop :=
  ∀ c ∈ cs, isLineBreak c = false

instance (cs : List Char) : Decidable (Unbroken cs) :=
  List.decidableBAll (fun c => isLineBreak c = false) cs

theorem Unbroken.sublist {a b : List Char} (hb : Unbroken b) (h : a ⊆ b) : Unbroken a :=
  fun c hc => hb c (h hc)

theorem Unbroken.append {a b : List Char} (ha : Unbroken a) (hb : Unbroken b) :
    Unbroken (a ++ b) := by
  intro c hc
  rcases List.mem_append.mp hc with hc | hc
  · exact ha c hc
  · exact hb c hc

/-! ## One character at a time -/

theorem splitLines_crlf (cs : List Char) :
    splitLines ('\r' :: '\n' :: cs) = [] :: splitLines cs := by
  rw [splitLines]

/-- The step at a character that is not a carriage return before its line feed. -/
theorem splitLines_cons {c : Char} {cs : List Char}
    (h : c = '\r' → cs.head? ≠ some '\n') :
    splitLines (c :: cs) =
      if isLineBreak c then [] :: splitLines cs
      else (c :: (splitLines cs).headD []) :: (splitLines cs).tail := by
  rw [splitLines]
  · cases splitLines cs <;> rfl
  · rintro rest rfl rfl
    exact h rfl rfl

theorem splitLines_lf (cs : List Char) : splitLines ('\n' :: cs) = [] :: splitLines cs := by
  rw [splitLines_cons (by simp), if_pos (by decide)]

/-- A character that ends no line is put before the first line, whatever the lines are. -/
theorem splitLines_cons_of_unbroken {c : Char} (hc : isLineBreak c = false) (cs : List Char) :
    splitLines (c :: cs) = (c :: (splitLines cs).headD []) :: (splitLines cs).tail := by
  have hcr : c ≠ '\r' := by
    rintro rfl
    exact absurd hc (by decide)
  rw [splitLines_cons fun h => absurd h hcr, if_neg (by simp [hc])]

theorem splitLines_eq_nil {cs : List Char} : splitLines cs = [] ↔ cs = [] := by
  constructor
  · intro h
    induction cs using splitLines.induct with
    | case1 => rfl
    | case2 cs _ => simp [splitLines_crlf] at h
    | case3 c cs hcr hbreak _ => simp [splitLines, hbreak] at h
    | case4 c cs hcr hbreak _ _ => simp_all [splitLines]
    | case5 c cs hcr hbreak _ _ _ _ => simp_all [splitLines]
  · rintro rfl
    rfl

/-! ## Lines without breaks -/

/-- The first line of a text ends at the first line feed if no break comes before it. -/
theorem splitLines_append_lf {l : List Char} (hl : Unbroken l) (cs : List Char) :
    splitLines (l ++ '\n' :: cs) = l :: splitLines cs := by
  induction l with
  | nil => exact splitLines_lf cs
  | cons c l ih =>
      rw [List.cons_append, splitLines_cons_of_unbroken (hl c List.mem_cons_self),
        ih (hl.sublist (List.subset_cons_self c l))]
      rfl

theorem splitLines_of_unbroken {l : List Char} (hl : Unbroken l) (hne : l ≠ []) :
    splitLines l = [l] := by
  induction l with
  | nil => exact absurd rfl hne
  | cons c l ih =>
      rw [splitLines_cons_of_unbroken (hl c List.mem_cons_self)]
      by_cases hl' : l = []
      · subst hl'
        rfl
      · rw [ih (hl.sublist (List.subset_cons_self c l)) hl']
        rfl

theorem unbroken_of_mem_splitLines {cs l : List Char} (h : l ∈ splitLines cs) : Unbroken l := by
  induction cs using splitLines.induct generalizing l with
  | case1 => simp [splitLines] at h
  | case2 cs ih =>
      rw [splitLines_crlf] at h
      rcases List.mem_cons.mp h with rfl | h
      · simp [Unbroken]
      · exact ih h
  | case3 c cs hcr hbreak ih =>
      rw [splitLines_cons (by rintro rfl; cases cs <;> simp_all), if_pos hbreak] at h
      rcases List.mem_cons.mp h with rfl | h
      · simp [Unbroken]
      · exact ih h
  | case4 c cs hcr hbreak hnil ih =>
      rw [splitLines_cons (by rintro rfl; cases cs <;> simp_all), if_neg hbreak, hnil] at h
      rw [List.mem_singleton.mp h]
      simpa [Unbroken] using hbreak
  | case5 c cs hcr hbreak first rest hlines ih =>
      rw [splitLines_cons (by rintro rfl; cases cs <;> simp_all), if_neg hbreak, hlines] at h
      rcases List.mem_cons.mp h with rfl | h
      · intro d hd
        rcases List.mem_cons.mp hd with rfl | hd
        · simpa using hbreak
        · exact ih (by rw [hlines]; exact List.mem_cons_self) d hd
      · exact ih (by rw [hlines]; exact List.mem_cons_of_mem _ h)

/-- The lines are the same when every carriage return is written as a line feed. -/
theorem splitLines_uniformReturns (cs : List Char) :
    splitLines (uniformReturns cs) = splitLines cs := by
  induction cs using uniformReturns.induct with
  | case1 => rfl
  | case2 cs ih =>
      rw [uniformReturns, splitLines_lf, splitLines_crlf, ih]
  | case3 c cs hcrlf ih =>
      rw [uniformReturns]
      · by_cases hc : c = '\r'
        · subst hc
          have hhead : '\r' = '\r' → cs.head? ≠ some '\n' := by
            intro _
            cases cs <;> simp_all
          rw [if_pos rfl, splitLines_lf, splitLines_cons hhead, if_pos (by decide), ih]
        · rw [if_neg hc, splitLines_cons fun h => absurd h hc, splitLines_cons fun h => absurd h hc,
            ih]
      · exact hcrlf

/-! ## Joined texts -/

/-- A line feed between two texts ends the last line of the first one. If that
line has been ended already, one more empty line comes between them. -/
theorem splitLines_append (a b : List Char) :
    ∃ gap, (∀ l ∈ gap, l = []) ∧
      splitLines (a ++ '\n' :: b) = splitLines a ++ gap ++ splitLines b := by
  induction a using splitLines.induct with
  | case1 => exact ⟨[[]], by simp, splitLines_lf b⟩
  | case2 cs ih =>
      obtain ⟨gap, hgap, hsplit⟩ := ih
      refine ⟨gap, hgap, ?_⟩
      rw [List.cons_append, List.cons_append, splitLines_crlf, splitLines_crlf, hsplit]
      rfl
  | case3 c cs hcr hbreak ih =>
      have hhead : c = '\r' → cs.head? ≠ some '\n' := by
        rintro rfl
        cases cs <;> simp_all
      by_cases hend : c = '\r' ∧ cs = []
      · -- the line feed goes with the carriage return at the end of `a`
        obtain ⟨rfl, rfl⟩ := hend
        refine ⟨[], by simp, ?_⟩
        exact splitLines_crlf b
      · obtain ⟨gap, hgap, hsplit⟩ := ih
        refine ⟨gap, hgap, ?_⟩
        have hhead' : c = '\r' → (cs ++ '\n' :: b).head? ≠ some '\n' := by
          rintro rfl
          cases cs <;> simp_all
        rw [List.cons_append, splitLines_cons hhead', if_pos hbreak, splitLines_cons hhead,
          if_pos hbreak, hsplit]
        rfl
  | case4 c cs hcr hbreak hnil _ =>
      obtain rfl : cs = [] := splitLines_eq_nil.mp hnil
      have hne : c ≠ '\r' := by
        rintro rfl
        exact hbreak (by decide)
      refine ⟨[], by simp, ?_⟩
      rw [List.cons_append, List.nil_append, splitLines_cons fun h => absurd h hne,
        splitLines_cons fun h => absurd h hne, if_neg hbreak, if_neg hbreak, splitLines_lf]
      rfl
  | case5 c cs hcr hbreak first rest hlines ih =>
      obtain ⟨gap, hgap, hsplit⟩ := ih
      have hne : c ≠ '\r' := by
        rintro rfl
        exact hbreak (by decide)
      refine ⟨gap, hgap, ?_⟩
      rw [List.cons_append, splitLines_cons fun h => absurd h hne,
        splitLines_cons fun h => absurd h hne, if_neg hbreak, if_neg hbreak, hsplit, hlines]
      rfl

theorem toList_unlines_cons_cons (l l' : String) (ls : List String) :
    (unlines (l :: l' :: ls)).toList = l.toList ++ '\n' :: (unlines (l' :: ls)).toList := by
  simp [unlines]

@[simp] theorem unlines_nil : unlines [] = "" := by
  simp [unlines]

@[simp] theorem unlines_singleton (l : String) : unlines [l] = l := by
  simp [unlines]

@[simp] theorem lines_empty : lines "" = [] :=
  rfl

/-- Lines that are neither empty nor broken are the lines of their text. -/
theorem lines_unlines {ls : List String} (h : ∀ l ∈ ls, Unbroken l.toList ∧ l ≠ "") :
    lines (unlines ls) = ls := by
  induction ls with
  | nil => simp
  | cons l ls ih =>
      obtain ⟨hl, hne⟩ := h l List.mem_cons_self
      have ih := ih fun l' hl' => h l' (List.mem_cons_of_mem _ hl')
      cases ls with
      | nil =>
          rw [unlines_singleton, lines, splitLines_of_unbroken hl (by simpa using hne)]
          simp
      | cons l' ls =>
          rw [lines, toList_unlines_cons_cons, splitLines_append_lf hl, List.map_cons]
          rw [lines] at ih
          rw [ih, String.ofList_toList]

theorem unbroken_of_mem_lines {s l : String} (h : l ∈ lines s) : Unbroken l.toList := by
  obtain ⟨cs, hcs, rfl⟩ := List.mem_map.mp h
  rw [String.toList_ofList]
  exact unbroken_of_mem_splitLines hcs

/-! ## Entries that others follow -/

/-- A line feed ends what comes before it, so that the lines after it are told by themselves. -/
theorem splitLines_append_cons_lf (a b : List Char) :
    splitLines (a ++ '\n' :: b) = splitLines (a ++ ['\n']) ++ splitLines b := by
  have hplain {c : Char} {cs : List Char} (hc : isLineBreak c = false)
      (ih : splitLines (cs ++ '\n' :: b) = splitLines (cs ++ ['\n']) ++ splitLines b) :
      splitLines (c :: cs ++ '\n' :: b) = splitLines (c :: cs ++ ['\n']) ++ splitLines b := by
    have hne : splitLines (cs ++ ['\n']) ≠ [] := by simp [splitLines_eq_nil]
    obtain ⟨l, ls, hls⟩ := List.exists_cons_of_ne_nil hne
    rw [List.cons_append, List.cons_append, splitLines_cons_of_unbroken hc,
      splitLines_cons_of_unbroken hc, ih, hls]
    rfl
  induction a using splitLines.induct with
  | case1 =>
      rw [List.nil_append, List.nil_append, splitLines_lf, splitLines_lf]
      rfl
  | case2 cs ih =>
      simp only [List.cons_append, splitLines_crlf, ih]
  | case3 c cs hcr hbreak ih =>
      by_cases hend : c = '\r' ∧ cs = []
      · -- the line feed goes with the carriage return
        obtain ⟨rfl, rfl⟩ := hend
        simp only [List.cons_append, List.nil_append, splitLines_crlf]
        rfl
      · have hhead (ds : List Char) : c = '\r' → (cs ++ '\n' :: ds).head? ≠ some '\n' := by
          rintro rfl
          cases cs <;> simp_all
        rw [List.cons_append, List.cons_append, splitLines_cons (hhead b), splitLines_cons (hhead []),
          if_pos hbreak, if_pos hbreak, ih]
        rfl
  | case4 c cs hcr hbreak hnil ih => exact hplain (by simpa using hbreak) ih
  | case5 c cs hcr hbreak first rest hlines ih => exact hplain (by simpa using hbreak) ih

/-- What is put before a text without a break belongs to the first line. -/
theorem splitLines_unbroken_append {p cs : List Char} (hp : Unbroken p) (hcs : cs ≠ []) :
    splitLines (p ++ cs) = (p ++ (splitLines cs).headD []) :: (splitLines cs).tail := by
  induction p with
  | nil =>
      obtain ⟨l, ls, hls⟩ := List.exists_cons_of_ne_nil (mt splitLines_eq_nil.mp hcs)
      rw [List.nil_append, hls]
      rfl
  | cons c p ih =>
      rw [List.cons_append, splitLines_cons_of_unbroken (hp c List.mem_cons_self),
        ih (hp.sublist (List.subset_cons_self c p))]
      rfl

/-- The lines of an entry that is followed by others. -/
def endedLines (e : String) : List String :=
  lines (e ++ "\n")

theorem endedLines_of_unbroken {e : String} (h : Unbroken e.toList) : endedLines e = [e] := by
  rw [endedLines, lines, String.toList_append]
  simp [splitLines_append_lf h [], splitLines]

theorem endedLines_append {p : String} (hp : Unbroken p.toList) (s : String) :
    endedLines (p ++ s) = (p ++ (endedLines s).headD "") :: (endedLines s).tail := by
  have hne : (s ++ "\n").toList ≠ [] := by simp
  have hsplit := splitLines_unbroken_append hp hne
  rw [endedLines, lines, String.append_assoc, String.toList_append, hsplit, endedLines, lines]
  cases splitLines (s ++ "\n").toList <;> simp

/-- Entries are split one by one, up to the last one. -/
theorem lines_unlines_concat (es : List String) {last : String} (h : Unbroken last.toList)
    (hne : last ≠ "") : lines (unlines (es ++ [last])) = es.flatMap endedLines ++ [last] := by
  induction es with
  | nil => exact lines_unlines (by simp [h, hne])
  | cons e es ih =>
      have hjoin : (unlines (e :: es ++ [last])).toList =
          e.toList ++ '\n' :: (unlines (es ++ [last])).toList := by
        cases es <;> exact toList_unlines_cons_cons ..
      rw [List.flatMap_cons, List.append_assoc, ← ih, lines, hjoin, splitLines_append_cons_lf,
        List.map_append, endedLines, lines, lines, String.toList_append]
      rfl

/-- Behind a break there is another line, unless the break is a carriage return that a line
feed completes. -/
theorem splitLines_break_tail {c : Char} (hc : isLineBreak c = true) (cs : List Char) :
    (splitLines (c :: cs ++ ['\n'])).tail = [] ↔ c = '\r' ∧ cs = [] := by
  by_cases hcrlf : c = '\r' ∧ cs.head? = some '\n'
  · obtain ⟨rfl, hhead⟩ := hcrlf
    obtain ⟨cs, rfl⟩ := List.head?_eq_some_iff.mp hhead
    simp [splitLines_crlf, splitLines_eq_nil]
  · by_cases hend : c = '\r' ∧ cs = []
    · obtain ⟨rfl, rfl⟩ := hend
      simp [splitLines_crlf, splitLines_eq_nil]
    · have hhead : c = '\r' → (cs ++ ['\n']).head? ≠ some '\n' := by
        rintro rfl
        cases cs <;> simp_all
      rw [List.cons_append, splitLines_cons hhead, if_pos hc]
      simp [splitLines_eq_nil, hend]

/-- A text of one line: nothing in it ends the line, unless a carriage return at its end that
goes with the line feed behind it. -/
def OneLine (s : String) : Prop :=
  Unbroken s.toList ∨ ∃ cs, Unbroken cs ∧ s.toList = cs ++ ['\r']

theorem endedLines_tail_eq_nil_iff {e : String} : (endedLines e).tail = [] ↔ OneLine e := by
  set p := e.toList.takeWhile fun c => !isLineBreak c
  set rest := e.toList.dropWhile fun c => !isLineBreak c with hrest
  have he : e.toList = p ++ rest := List.takeWhile_append_dropWhile.symm
  have hp : Unbroken p := fun c hc => by simpa using List.mem_takeWhile_imp hc
  have hlines : (endedLines e).tail = [] ↔ (splitLines (rest ++ ['\n'])).tail = [] := by
    rw [endedLines, lines, String.toList_append, he, List.append_assoc,
      show "\n".toList = ['\n'] from rfl, splitLines_unbroken_append hp (by simp),
      ← List.map_tail, List.map_eq_nil_iff, List.tail_cons]
  rw [hlines, OneLine, he]
  cases hcs : rest with
  | nil => simpa [splitLines_lf, splitLines] using .inl hp
  | cons c cs =>
      have hc : isLineBreak c = true := by
        have hhead := List.head?_dropWhile_not (fun c => !isLineBreak c) e.toList
        rw [← hrest, hcs] at hhead
        simpa using hhead
      rw [splitLines_break_tail hc]
      constructor
      · rintro ⟨rfl, rfl⟩
        exact .inr ⟨p, hp, rfl⟩
      · rintro (h | ⟨ds, hds', heq⟩)
        · exact absurd (h c (by simp)) (by simp [hc])
        · cases cs with
          | nil => exact ⟨by simpa using (List.append_inj' heq rfl).2, rfl⟩
          | cons d cs =>
              -- the break would stand before the end
              have hds : ds = (p ++ c :: d :: cs).dropLast := by rw [heq, List.dropLast_concat]
              have hmem : c ∈ ds := by simp [hds]
              simp [hds' c hmem] at hc

end LintRelay.Text
