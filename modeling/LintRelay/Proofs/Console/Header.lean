import Mathlib.Data.List.SplitLengths
import LintRelay.Proofs.Console.Markup
import LintRelay.Proofs.Console.Message
import LintRelay.Proofs.Path
import LintRelay.Proofs.Slice
import LintRelay.Text.Printable

/-!
# Headers and their titles

The title of a header is read as markup. So a header shows its title as it is exactly if markup
takes nothing out of the title, and it cannot be shown at all if the first tag in the title
closes.
-/

namespace LintRelay.Console

open LintRelay.Text

/-! ## Text without styles -/

namespace StyledText

theorem map_chars_cutAt (t : StyledText) (start : Nat) (lengths : List Nat) :
    (t.cutAt start lengths).map (·.chars) = lengths.splitLengths (t.chars.drop start) := by
  induction lengths generalizing start with
  | nil => rfl
  | cons n lengths ih =>
      rw [cutAt, List.map_cons, ih, List.splitLengths_cons, List.drop_drop]
      congr 1
      rw [slice, List.drop_take, Nat.add_sub_cancel_left]

/-- A line without the line feed at its end. -/
def unended (cs : List Char) : List Char :=
  if cs.getLast? = some '\n' then cs.dropLast else cs

theorem unended_eq_self {cs : List Char} (h : '\n' ∉ cs) : unended cs = cs :=
  if_neg fun hlast => h (List.mem_of_getLast? hlast)

theorem unended_append_lf (cs : List Char) : unended (cs ++ ['\n']) = cs := by
  rw [unended, if_pos List.getLast?_concat, List.dropLast_concat]

theorem map_unended_splitLengths {pieces : List (List Char)} (hne : pieces ≠ [])
    (h : ∀ piece ∈ pieces, '\n' ∉ piece) :
    (List.splitLengths (pieces.dropLast.map (·.length + 1) ++ [(pieces.getLastD []).length])
      (['\n'].intercalate pieces)).map unended = pieces := by
  induction pieces with
  | nil => exact absurd rfl hne
  | cons piece pieces ih =>
      rw [List.forall_mem_cons] at h
      cases pieces with
      | nil =>
          simpa using unended_eq_self h.1
      | cons next rest =>
          have hcut : ['\n'].intercalate (piece :: next :: rest) =
              (piece ++ ['\n']) ++ ['\n'].intercalate (next :: rest) :=
            List.intercalate_cons_cons
          have hlength : piece.length + 1 = (piece ++ ['\n']).length := by simp
          rw [hcut, List.dropLast_cons_cons, List.map_cons, List.cons_append, List.splitLengths_cons,
            hlength, List.take_left, List.drop_left, List.map_cons, unended_append_lf]
          exact congrArg (piece :: ·) (ih (List.cons_ne_nil _ _) h.2)

theorem map_chars_lines (t : StyledText) : t.lines.map (·.chars) = t.chars.splitOn '\n' := by
  have hline : ∀ line : StyledText,
      (if line.chars.getLast? = some '\n' then line.slice 0 (line.chars.length - 1)
        else line).chars = unended line.chars := by
    intro line
    rw [unended]
    split_ifs
    · rw [slice, List.drop_zero, List.dropLast_eq_take]
    · rfl
  rw [lines, List.map_map]
  calc (t.cutAt 0 (lengthsTo '\n' t.chars)).map _
      = ((t.cutAt 0 (lengthsTo '\n' t.chars)).map (·.chars)).map unended := by
        rw [List.map_map]
        exact List.map_congr_left fun line _ => hline line
    _ = ((lengthsTo '\n' t.chars).splitLengths t.chars).map unended := by
        rw [map_chars_cutAt, List.drop_zero]
    _ = t.chars.splitOn '\n' := by
        have hne : t.chars.splitOn '\n' ≠ [] := List.splitOnP_ne_nil _ _
        have hpieces := map_unended_splitLengths hne fun _ => Path.not_mem_of_mem_splitOn
        rwa [List.intercalate_splitOn] at hpieces

theorem expandTabs_eq_self {t : StyledText} (h : '\t' ∉ t.chars) : t.expandTabs = t :=
  if_neg (by simpa using h)

theorem chars_of_render {t : StyledText} {cs : List Char} (h : t.render false = .ok cs) :
    cs = t.chars := by
  obtain ⟨styles, -, hcs⟩ := bind_eq_ok_iff.mp h
  exact (Except.ok.inj hcs).symm

end StyledText

/-- Without styles and tabs a text is written as it is, and a line feed behind it. -/
theorem toList_renderText {t : StyledText} {s : String} (htab : '\t' ∉ t.chars)
    (h : renderText t false = .ok s) : s.toList = t.chars ++ ['\n'] := by
  obtain ⟨lines, hlines, hs⟩ := bind_eq_ok_iff.mp h
  have hchars : lines = t.chars.splitOn '\n' := by
    rw [← t.map_chars_lines]
    refine eq_map_of_mapM hlines fun line hline cs hcs => ?_
    have hsubset : line.chars ⊆ t.chars := by
      refine Path.subset_of_mem_splitOn (c := '\n') ?_
      rw [← t.map_chars_lines]
      exact List.mem_map_of_mem hline
    rw [StyledText.expandTabs_eq_self fun h => htab (hsubset h)] at hcs
    exact StyledText.chars_of_render hcs
  have hne : t.chars.splitOn '\n' ≠ [] := List.splitOnP_ne_nil _ _
  rw [← Except.ok.inj hs, String.toList_ofList, hchars, flatMap_lf hne, List.intercalate_splitOn]

theorem exists_renderText {t : StyledText} {style : String} {known : Style}
    (hknown : styleOf style = .ok known) (ht : t.IsIn style) (styled : Bool) :
    ∃ s, renderText t styled = .ok s := by
  have hrendered : t.lines.mapM (fun line => line.expandTabs.render styled) =
      .ok (t.lines.map fun line => line.expandTabs.renderedIn known styled) :=
    Report.mapM_eq_ok fun line hmem => (ht.of_mem_lines hmem).expandTabs.render hknown styled
  rw [renderText, hrendered]
  exact ⟨_, rfl⟩

/-! ## Titles -/

/-- A title on one line: its characters are printable, none is the colon of an emoji code, and it
does not end in a space. -/
structure IsTitle (title : String) : Prop where
  printable : title.toList.all isPrintable
  noColon : ':' ∉ title.toList
  noSpaceAtEnd : title.toList.getLast? ≠ some ' '

theorem toNat_of_isPrintable {c : Char} (h : isPrintable c = true) : 0x20 ≤ c.toNat := by
  by_cases hc : c.toNat < 0x7F
  · rw [isPrintable, if_pos hc] at h
    exact of_decide_eq_true h
  · omega

theorem isHidden_eq_false {c : Char} (h : 0x20 ≤ c.toNat) : isHidden c = false := by
  simp only [isHidden, List.mem_cons, List.not_mem_nil, or_false, decide_eq_false_iff_not]
  omega

/-- The line of a header in plain text, behind an empty one. -/
def titleText (title : String) : String :=
  "\n--- " ++ title ++ " ---"

theorem toList_titleText (title : String) :
    (titleText title).toList = "\n--- ".toList ++ title.toList ++ " ---".toList := by
  simp [titleText]

theorem isUnmarked_titleText (title : String) :
    IsUnmarked (titleText title).toList ↔ IsUnmarked title.toList := by
  rw [toList_titleText]
  exact isUnmarked_append (by decide) (by decide) (by decide) (by decide) _

namespace IsTitle

variable {title : String}

theorem toNat_of_mem (h : IsTitle title) {c : Char} (hc : c ∈ title.toList) : 0x20 ≤ c.toNat :=
  toNat_of_isPrintable (List.all_eq_true.mp h.printable c hc)

theorem toNat_of_mem_titleText (h : IsTitle title) {c : Char} (hc : c ∈ (titleText title).toList) :
    c = '\n' ∨ 0x20 ≤ c.toNat := by
  have hpre : "\n--- ".toList = ['\n', '-', '-', '-', ' '] := rfl
  have hpost : " ---".toList = [' ', '-', '-', '-'] := rfl
  rw [toList_titleText, hpre, hpost, List.mem_append, List.mem_append] at hc
  rcases hc with (hc | hc) | hc
  · simp only [List.mem_cons, List.not_mem_nil, or_false] at hc
    rcases hc with rfl | rfl | rfl | rfl | rfl <;> decide
  · exact .inr (h.toNat_of_mem hc)
  · simp only [List.mem_cons, List.not_mem_nil, or_false] at hc
    rcases hc with rfl | rfl | rfl | rfl <;> decide

theorem isHidden_of_mem_titleText (h : IsTitle title) :
    ∀ c ∈ (titleText title).toList, isHidden c = false := by
  intro c hc
  rcases h.toNat_of_mem_titleText hc with rfl | hc
  · rfl
  · exact isHidden_eq_false hc

theorem tab_not_mem_titleText (h : IsTitle title) : '\t' ∉ (titleText title).toList := by
  intro hc
  have := h.toNat_of_mem_titleText hc
  revert this
  decide

end IsTitle

theorem writtenAfter_eq_none_iff {before : String} {text : Except MarkupError String} {s : String} :
    writtenAfter before text = ⟨before ++ s, none⟩ ↔ text = .ok s := by
  cases text with
  | error e =>
      refine iff_of_false (fun h => ?_) (fun h => by cases h)
      cases congrArg Written.fault h
  | ok s' =>
      rw [writtenAfter, Written.mk.injEq, String.append_right_inj, Except.ok.injEq]
      simp

/-- What wrote anything was written to its end. -/
theorem fault_writtenAfter_of_text {before : String} {text : Except MarkupError String}
    (h : (writtenAfter before text).text ≠ before) : (writtenAfter before text).fault = none := by
  cases text with
  | error e => exact absurd rfl h
  | ok s => rfl

theorem styleOf_ruleStyle : ∃ known, styleOf ruleStyle = .ok known :=
  ⟨_, rfl⟩

/-- **A header in plain text shows its title** exactly if there is no markup in it. -/
theorem plainHeader_eq_iff {title : String} (h : IsTitle title) :
    plainHeader title = ⟨"\n--- " ++ title ++ " ---\n", none⟩ ↔ IsUnmarked title.toList := by
  have hline : "\n--- " ++ title ++ " ---\n" = "" ++ (titleText title ++ "\n") := by
    simp [titleText, String.append_assoc]
  rw [hline, plainHeader, writtenAfter_eq_none_iff, ← isUnmarked_titleText]
  constructor
  · intro hwritten
    obtain ⟨t, ht, hrendered⟩ := bind_eq_ok_iff.mp hwritten
    have htab : '\t' ∉ t.chars := fun hc =>
      h.tab_not_mem_titleText ((markupText_sublist ht).subset hc)
    have hchars := toList_renderText htab (mapError_eq_ok_iff.mp hrendered)
    rw [String.toList_append] at hchars
    exact (markupText_verbatim_iff h.isHidden_of_mem_titleText).mp
      ⟨t, ht, (List.append_cancel_right hchars).symm⟩
  · intro hunmarked
    obtain ⟨known, hknown⟩ := styleOf_ruleStyle
    have hplain : StyledText.IsIn ruleStyle ⟨(titleText title).toList, []⟩ := fun s hs =>
      absurd hs List.not_mem_nil
    obtain ⟨s, hs⟩ := exists_renderText hknown hplain false
    have hchars := toList_renderText h.tab_not_mem_titleText hs
    have hs' : s = titleText title ++ "\n" := String.toList_injective (by simpa using hchars)
    refine bind_eq_ok_iff.mpr ⟨_, hunmarked.markupText_eq h.isHidden_of_mem_titleText, ?_⟩
    exact mapError_eq_ok_iff.mpr (hs' ▸ hs)

/-- **A header whose first tag closes cannot be shown**, in a line of dashes or without. -/
theorem header_of_closesFirst {title : String} (h : ClosesFirst title.toList)
    (colour terminal : Bool) :
    ∃ e, header title colour terminal = ⟨if colour then "\n" else "", some e⟩ := by
  cases colour with
  | false =>
      have hline : ClosesFirst (titleText title).toList := by
        rw [toList_titleText]
        exact h.append (by decide) (by decide) _
      obtain ⟨e, he⟩ := hline.exists_error
      refine ⟨e, ?_⟩
      show plainHeader title = _
      rw [plainHeader]
      show writtenAfter "" (markupText (titleText title).toList >>= _) = _
      rw [he]
      rfl
  | true =>
      have hne : title ≠ "" := by
        rintro rfl
        obtain ⟨before, body, after, heq, -⟩ := h
        simp at heq
      obtain ⟨e, he⟩ := h.exists_error
      refine ⟨e, ?_⟩
      show ruledHeader title terminal = _
      rw [ruledHeader, if_neg hne, he]
      rfl

/-! ## Titles in a line of dashes -/

namespace StyledText

variable {style : String} {t : StyledText}

theorem IsIn.setChars (ht : t.IsIn style) (cs : List Char) : (t.setChars cs).IsIn style := by
  intro s hs
  obtain ⟨s', hs', hcut⟩ := List.mem_filterMap.mp hs
  split_ifs at hcut
  rw [← Option.some.inj hcut]
  exact ht s' hs'

end StyledText

theorem isIn_rule {title : StyledText} (h : title.IsIn ruleStyle) :
    (rule title).IsIn ruleStyle := by
  have hline : (titleLine title).IsIn ruleStyle := (h.setChars _).expandTabs
  have hfitted : (fitTitle (terminalWidth - 4) (titleLine title)).IsIn ruleStyle := by
    rw [fitTitle]
    split_ifs
    · exact hline
    · exact hline.setChars _
  exact (((StyledText.isIn_inStyle _ _).append hfitted).append
    (StyledText.isIn_inStyle _ _)).setChars _

theorem ruledHeader_empty :
    ruledHeader "" false =
      writtenAfter "\n" ((renderText (.inStyle ruleStyle (dashes terminalWidth)) false).mapError
        .style) := by
  rw [ruledHeader, if_pos rfl]
  exact congrArg (writtenAfter "\n") (pure_bind _ _)

theorem ruledHeader_of_markupText {title : String} {t : StyledText} (hne : title ≠ "")
    (ht : markupText title.toList = .ok t) :
    ruledHeader title false =
      writtenAfter "\n" ((renderText (rule t) false).mapError .style) := by
  rw [ruledHeader, if_neg hne, ht]
  -- Nothing is to be computed of the line itself.
  generalize rule = ruled
  rfl

theorem fault_writtenAfter {line : StyledText} (h : line.IsIn ruleStyle) (before : String) :
    (writtenAfter before ((renderText line false).mapError .style)).fault = none := by
  obtain ⟨known, hknown⟩ := styleOf_ruleStyle
  obtain ⟨s, hs⟩ := exists_renderText hknown h false
  rw [hs]
  rfl

/-- A title that is no markup can be shown wherever no highlights are. -/
theorem fault_header_of_isUnmarked {title : String} (h : IsTitle title)
    (hunmarked : IsUnmarked title.toList) (colour : Bool) :
    (header title colour false).fault = none := by
  cases colour with
  | false =>
      show (plainHeader title).fault = none
      rw [(plainHeader_eq_iff h).mpr hunmarked]
  | true =>
      have htitle : markupText title.toList = .ok ⟨title.toList, []⟩ :=
        hunmarked.markupText_eq fun c hc => isHidden_eq_false (h.toNat_of_mem hc)
      show (ruledHeader title false).fault = none
      by_cases hempty : title = ""
      · rw [hempty, ruledHeader_empty]
        exact fault_writtenAfter (StyledText.isIn_inStyle _ _) "\n"
      · rw [ruledHeader_of_markupText hempty htitle]
        exact fault_writtenAfter (isIn_rule fun s hs => absurd hs List.not_mem_nil) "\n"

end LintRelay.Console
