import LintRelay.Proofs.Report.Cutting

/-!
# The tokens of a line, put together again

Nothing of a line is lost in its tokens but blanks and dashes that keys can do without, and
nothing is left in them that could be cut: what a token carries holds no key, wherever it is
written next.
-/

namespace LintRelay.Report

open LintRelay.Text

/-- A text without its blanks. -/
def solid (cs : List Char) : List Char :=
  cs.filter (!isBlank ·)

/-- What a token stands for on its line, blanks apart: free text for itself, a key for its
name, its colon and what follows, after a dash that only some keys can do without. -/
inductive StandsFor : Token → List Char → Prop where
  | text (v : String) : StandsFor ⟨.text, v⟩ (solid v.toList)
  | key (m : Marker) (hm : m ∈ Marker.keys) (dashed : Bool) (hdash : m ∈ itemKeys → dashed = true)
      (v : String) :
      StandsFor ⟨m, v⟩
        ((if dashed then ['-'] else []) ++ (m.name.toList ++ ':' :: solid v.toList))

/-! ## Texts without blanks -/

theorem solid_append (a b : List Char) : solid (a ++ b) = solid a ++ solid b :=
  List.filter_append ..

theorem solid_cons (c : Char) (cs : List Char) : solid (c :: cs) = solid [c] ++ solid cs :=
  solid_append [c] cs

theorem solid_of_blanks {cs : List Char} (h : Blanks cs) : solid cs = [] := by
  apply List.filter_eq_nil_iff.mpr
  intro c hc
  simp [h c hc]

theorem solid_trim (cs : List Char) : solid (trim cs) = solid cs := by
  obtain ⟨a, b, ha, hb, hcs, _⟩ := exists_blanks_trim cs
  calc solid (trim cs) = solid (a ++ trim cs ++ b) := by
        rw [solid_append, solid_append, solid_of_blanks ha, solid_of_blanks hb, List.nil_append,
          List.append_nil]
    _ = solid cs := by rw [← hcs]

theorem solid_name (m : Marker) : solid m.name.toList = m.name.toList := by
  cases m <;> decide

theorem solid_of_keyAt {m : Marker} {dashed : Bool} {cs rest : List Char}
    (h : KeyAt m dashed cs rest) :
    solid cs = (if dashed then ['-'] else []) ++ (m.name.toList ++ ':' :: solid rest) := by
  have hkey : solid (m.name.toList ++ ':' :: rest) = m.name.toList ++ ':' :: solid rest := by
    rw [solid_append, solid_name]
    rfl
  obtain ⟨_, hcs⟩ := h
  cases dashed with
  | false =>
      obtain rfl : cs = m.name.toList ++ ':' :: rest := hcs
      exact hkey
  | true =>
      obtain ⟨bs, _, hbs, rfl⟩ := hcs
      have hdash : solid ('-' :: (bs ++ (m.name.toList ++ ':' :: rest))) =
          '-' :: solid (bs ++ (m.name.toList ++ ':' :: rest)) := rfl
      rw [hdash, solid_append, solid_of_blanks hbs, hkey]
      rfl

/-! ## What is cut off -/

theorem dashed_of_counts {m : Marker} {first dashed : Bool} (h : m.counts first dashed = true)
    (hm : m ∈ itemKeys) : dashed = true := by
  revert h hm
  cases m <;> simp [Marker.counts, itemKeys]

/-- The text before the first key and what the tokens stand for are the whole. -/
theorem cutAtKeys_standsFor (first fresh : Bool) (cs : List Char) :
    ∃ pieces, List.Forall₂ StandsFor (cutAtKeys first fresh cs).2 pieces ∧
      solid cs = solid (cutAtKeys first fresh cs).1 ++ pieces.flatten := by
  induction first, fresh, cs using cutAtKeys_induction with
  | nil first fresh =>
      rw [cutAtKeys_nil]
      exact ⟨[], .nil, rfl⟩
  | key first cs m rest hkey ih =>
      obtain ⟨hm, dashed, hcounts, hat⟩ := keyAt?_eq_some_iff.mp hkey
      obtain ⟨pieces, hpieces, hsolid⟩ := ih
      rw [cutAtKeys_of_key hkey]
      refine ⟨_ :: pieces, .cons (.key m hm dashed (dashed_of_counts hcounts) _) hpieces, ?_⟩
      rw [solid_of_keyAt hat, hsolid, String.toList_ofList, solid_trim]
      simp [solid]
  | skip first fresh c cs hnone ih =>
      obtain ⟨pieces, hpieces, hsolid⟩ := ih
      rw [cutAtKeys_cons hnone]
      refine ⟨pieces, hpieces, ?_⟩
      rw [solid_cons c cs, hsolid, solid_cons c (cutAtKeys false (isBlank c) cs).1,
        List.append_assoc]

/-- Behind the start of a line no key `problems` counts. -/
theorem marker_ne_problems {fresh : Bool} {cs : List Char} {t : Token}
    (ht : t ∈ (cutAtKeys false fresh cs).2) : t.marker ≠ .problems := by
  suffices h : ∀ first fresh cs, first = false → ∀ t ∈ (cutAtKeys first fresh cs).2,
      t.marker ≠ .problems from h false fresh cs rfl t ht
  intro first fresh cs
  induction first, fresh, cs using cutAtKeys_induction with
  | nil first fresh =>
      rw [cutAtKeys_nil]
      exact fun _ t ht => absurd ht List.not_mem_nil
  | key first cs m rest hkey ih =>
      rintro rfl t ht
      obtain ⟨_, dashed, hcounts, _⟩ := keyAt?_eq_some_iff.mp hkey
      rw [cutAtKeys_of_key hkey] at ht
      rcases List.mem_cons.mp ht with rfl | ht
      · rintro rfl
        cases hcounts
      · exact ih rfl t ht
  | skip first fresh c cs hnone ih =>
      intro _ t ht
      rw [cutAtKeys_cons hnone] at ht
      exact ih rfl t ht

/-- At the start of a line `problems` counts, and then nothing is before it. -/
theorem marker_ne_problems_of_lead (fresh : Bool) (cs : List Char) :
    ((cutAtKeys true fresh cs).1 ≠ [] →
        ∀ t ∈ (cutAtKeys true fresh cs).2, t.marker ≠ .problems) ∧
      ∀ t ∈ (cutAtKeys true fresh cs).2.tail, t.marker ≠ .problems := by
  cases hkey : if fresh then keyAt? true cs else none with
  | some found =>
      obtain ⟨rfl, hkey⟩ : fresh = true ∧ keyAt? true cs = some found := by
        split_ifs at hkey with hfresh
        exact ⟨hfresh, hkey⟩
      rw [cutAtKeys_of_key hkey]
      exact ⟨fun h => absurd rfl h, fun t ht => marker_ne_problems ht⟩
  | none =>
      cases cs with
      | nil =>
          rw [cutAtKeys_nil]
          exact ⟨fun h => absurd rfl h, fun t ht => absurd ht List.not_mem_nil⟩
      | cons c cs =>
          rw [cutAtKeys_cons fun hfresh => by rwa [if_pos hfresh] at hkey]
          exact ⟨fun _ t ht => marker_ne_problems ht,
            fun t ht => marker_ne_problems (List.mem_of_mem_tail ht)⟩

/-- Free text and `problems` stand first on their line, if they stand there. -/
theorem marker_of_mem_tail {line : String} {t : Token} (ht : t ∈ (lineTokens line).tail) :
    t.marker ≠ .text ∧ t.marker ≠ .problems := by
  obtain ⟨-, -, htokens⟩ := cutAtKeys_spec true true (trim line.toList)
  obtain ⟨hlead, htail⟩ := marker_ne_problems_of_lead true (trim line.toList)
  have hkey : ∀ t ∈ (cutAtKeys true true (trim line.toList)).2, t.marker ≠ .text := by
    intro t ht htext
    have hm := (htokens t ht).1
    rw [htext] at hm
    exact absurd hm (by decide)
  rw [lineTokens_eq] at ht
  split_ifs at ht with hempty
  · exact ⟨hkey t (List.mem_of_mem_tail ht), htail t ht⟩
  · have hne : (cutAtKeys true true (trim line.toList)).1 ≠ [] := by
      intro h
      rw [h] at hempty
      exact hempty rfl
    exact ⟨hkey t ht, hlead hne t ht⟩

/-- What the tokens of a line stand for is the line, blanks apart. -/
theorem lineTokens_standsFor (line : String) :
    ∃ pieces, List.Forall₂ StandsFor (lineTokens line) pieces ∧
      solid line.toList = pieces.flatten := by
  obtain ⟨pieces, hpieces, hsolid⟩ := cutAtKeys_standsFor true true (trim line.toList)
  rw [solid_trim] at hsolid
  rw [lineTokens_eq]
  split_ifs with hempty
  · rw [← solid_trim (cutAtKeys true true (trim line.toList)).1, hempty] at hsolid
    exact ⟨pieces, hpieces, hsolid⟩
  · refine ⟨_ :: pieces, .cons (.text _) hpieces, ?_⟩
    rw [hsolid, String.toList_ofList, solid_trim]
    rfl

/-- **Segmentation.** The tokens of a line stand for all of it, blanks apart, and in its order;
what they carry is trimmed, free text is not empty, and only the first token can be free text
or `problems`; and what a token carries is whole: written behind a key it is all that this key
has, and free text is all that a line with it has. -/
theorem lineTokens_segment (line : String) :
    (∃ pieces, List.Forall₂ StandsFor (lineTokens line) pieces ∧
      solid line.toList = pieces.flatten) ∧
    (∀ t ∈ lineTokens line, Trimmed t.value.toList ∧ (t.marker = .text → t.value ≠ "")) ∧
    (∀ t ∈ (lineTokens line).tail, t.marker ≠ .text ∧ t.marker ≠ .problems) ∧
    ∀ t ∈ lineTokens line,
      lineTokens ("rule_id: " ++ t.value) = [⟨.ruleId, t.value⟩] ∧
        (t.marker = .text → lineTokens t.value = [t]) := by
  refine ⟨lineTokens_standsFor line, fun t ht => ?_, fun t ht => marker_of_mem_tail ht,
    fun t ht => ⟨?_, fun htext => ?_⟩⟩
  · have h := uncut_of_mem_lineTokens ht
    exact ⟨h.trimmed, fun htext => (h.text htext).1⟩
  · have h := uncut_of_mem_lineTokens ht
    have hline : ("rule_id: " ++ t.value).toList =
        [] ++ (keyText .ruleId false ++ ':' :: ' ' :: t.value.toList) :=
      String.toList_append ..
    exact lineTokens_key_of_keyless hline Blanks.nil (by decide) rfl h.trimmed h.keyless
  · have h := uncut_of_mem_lineTokens ht
    obtain ⟨hne, hkeyless⟩ := h.text htext
    rw [lineTokens_text_of_keyless rfl Blanks.nil h.trimmed hne hkeyless, ← htext]

/-- A line with text, a dashed key, a key whose value looks like keys that do not count, and an
empty key. -/
theorem lineTokens_segment_crowded :
    lineTokens "a -\tmessage: b suggestion: problems: message: c location:" =
        [⟨.text, "a"⟩, ⟨.message, "b"⟩, ⟨.suggestion, "problems: message: c"⟩, ⟨.location, ""⟩] ∧
      lineTokens ("rule_id: " ++ "problems: message: c") = [⟨.ruleId, "problems: message: c"⟩] ∧
      lineTokens "a" = [⟨.text, "a"⟩] := by
  have htokens : lineTokens "a -\tmessage: b suggestion: problems: message: c location:" =
      [⟨.text, "a"⟩, ⟨.message, "b"⟩, ⟨.suggestion, "problems: message: c"⟩, ⟨.location, ""⟩] := by
    decide +kernel
  obtain ⟨-, -, -, hwhole⟩ :=
    lineTokens_segment "a -\tmessage: b suggestion: problems: message: c location:"
  rw [htokens] at hwhole
  exact ⟨htokens, (hwhole ⟨.suggestion, "problems: message: c"⟩ (by simp)).1,
    (hwhole ⟨.text, "a"⟩ (by simp)).2 rfl⟩

end LintRelay.Report
