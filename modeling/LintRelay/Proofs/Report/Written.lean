import LintRelay.Proofs.Report.Legible
import LintRelay.Report.Printer

/-!
# The tokens of a written report

A legible report is written line by line so that each line gives one token: a key
with the plain text behind it, or one line of free text. The main statement is
`textTokens_render`.
-/

namespace LintRelay.Report

open LintRelay.Text LintRelay.Decimal

/-- The tokens of parts, each of which is a key and what belongs to it. -/
def joined (parts : List (Token × List Token)) : List Token :=
  parts.flatMap fun p => p.1 :: p.2

/-- Free text, line by line. -/
def textRun (ls : List String) : List Token :=
  ls.map fun l => ⟨.text, l⟩

def positionTokens (heading : Marker) (p : Position) : List Token :=
  [⟨heading, ""⟩, ⟨.lineNumber, p.line.repr⟩, ⟨.columnNumber, p.column.repr⟩]

def rangeTokens (r : Range) : List Token :=
  positionTokens .startPosition r.start ++ positionTokens .endPosition r.stop

/-- What follows the message in a written finding. -/
def detailParts (f : Finding) : List (Token × List Token) :=
  let suggestion := lines (writtenSuggestion f)
  [(⟨.suggestion, suggestion.headD ""⟩, textRun suggestion.tail),
    (⟨.location, ""⟩, rangeTokens f.range),
    (⟨.ruleId, f.ruleId⟩, []),
    (⟨.ruleDocUri, f.ruleDocUri⟩, [])]

def findingPart (f : Finding) : Token × List Token :=
  let message := lines f.message
  (⟨.message, message.headD ""⟩, textRun message.tail ++ joined (detailParts f))

def reportPart (r : FileReport) : Token × List Token :=
  (⟨.filePath, r.filePath⟩, ⟨.problems, ""⟩ :: joined (r.findings.map findingPart))

/-! ## The tokens of joined texts -/

theorem lineTokens_empty : lineTokens "" = [] := by
  decide +kernel

theorem textTokens_append_lf (a b : String) :
    textTokens (a ++ "\n" ++ b) = textTokens a ++ textTokens b := by
  obtain ⟨gap, hgap, hsplit⟩ := splitLines_append a.toList b.toList
  have hlines : lines (a ++ "\n" ++ b) = lines a ++ gap.map String.ofList ++ lines b := by
    rw [lines, lines, lines, ← List.map_append, ← List.map_append, ← hsplit]
    simp
  have hnone : (gap.map String.ofList).flatMap lineTokens = [] := by
    rw [List.flatMap_eq_nil_iff]
    intro l hl
    obtain ⟨cs, hcs, rfl⟩ := List.mem_map.mp hl
    -- the lines in the gap are empty
    rw [hgap cs hcs]
    exact lineTokens_empty
  rw [textTokens, hlines, List.flatMap_append, List.flatMap_append, hnone, List.append_nil]
  rfl

theorem textTokens_unlines (ls : List String) :
    textTokens (unlines ls) = ls.flatMap textTokens := by
  induction ls with
  | nil => rfl
  | cons l ls ih =>
      cases ls with
      | nil => simp
      | cons l' ls =>
          have hjoin : unlines (l :: l' :: ls) = l ++ "\n" ++ unlines (l' :: ls) := by
            simp [unlines]
          rw [hjoin, textTokens_append_lf, ih]
          rfl

theorem textTokens_of_unbroken {l : String} (h : Unbroken l.toList) :
    textTokens l = lineTokens l := by
  by_cases hempty : l = ""
  · subst hempty
    rw [lineTokens_empty]
    rfl
  · rw [textTokens, lines, splitLines_of_unbroken h (toList_ne_nil hempty)]
    simp

/-! ## Written lines -/

theorem toList_indentation (levels : Nat) :
    (indentation levels).toList = List.replicate (2 * levels) ' ' := by
  rw [indentation, String.toList_ofList]

/-- A line that begins with a key, indented. -/
def keyLine (levels : Nat) (m : Marker) (dashed : Bool) (v : String) : String :=
  indentation levels ++ String.ofList (keyText m dashed) ++ ": " ++ v

theorem toList_keyLine (levels : Nat) (m : Marker) (dashed : Bool) (v : String) :
    (keyLine levels m dashed v).toList =
      List.replicate (2 * levels) ' ' ++ (keyText m dashed ++ ':' :: ' ' :: v.toList) := by
  simp [keyLine, toList_indentation]

theorem eq_keyLine {levels : Nat} (m : Marker) (dashed : Bool) {k v : String}
    (h : k.toList = keyText m dashed ++ [':', ' ']) :
    indentation levels ++ k ++ v = keyLine levels m dashed v := by
  rw [← String.toList_inj, toList_keyLine, String.toList_append, String.toList_append, h,
    toList_indentation]
  simp

theorem unbroken_keyText (m : Marker) (dashed : Bool) : Unbroken (keyText m dashed) := by
  cases m <;> cases dashed <;> decide

theorem unbroken_replicate (n : Nat) : Unbroken (List.replicate n ' ') := by
  intro c hc
  rw [List.eq_of_mem_replicate hc]
  decide

theorem unbroken_keyLine (levels : Nat) (m : Marker) (dashed : Bool) {v : String}
    (hv : Unbroken v.toList) : Unbroken (keyLine levels m dashed v).toList := by
  rw [toList_keyLine]
  refine (unbroken_replicate _).append ((unbroken_keyText m dashed).append ?_)
  exact Unbroken.append (a := [':', ' ']) (by decide) hv

theorem unbroken_strippedEnd {s : String} (h : Unbroken s.toList) :
    Unbroken (strippedEnd s).toList := by
  rw [strippedEnd, String.toList_ofList]
  obtain ⟨b, _, hcs, _⟩ := exists_blanks_trimEnd s.toList
  intro c hc
  apply h
  rw [hcs]
  exact List.mem_append_left _ hc

section

variable (levels : Nat) (m : Marker) (dashed : Bool) {v : String}

theorem textTokens_keyLine (hm : m ∈ Marker.keys) (hcounts : m.counts true dashed = true)
    (hv : Plain v) : textTokens (keyLine levels m dashed v) = [⟨m, v⟩] := by
  rw [textTokens_of_unbroken (unbroken_keyLine levels m dashed hv.unbroken)]
  exact lineTokens_key (toList_keyLine levels m dashed v) (blanks_replicate _) hm hcounts hv

/-- The same where blanks at the end are not written. -/
theorem textTokens_strippedEnd_keyLine (hm : m ∈ Marker.keys)
    (hcounts : m.counts true dashed = true) (hv : Plain v) :
    textTokens (strippedEnd (keyLine levels m dashed v)) = [⟨m, v⟩] := by
  have hunbroken := unbroken_keyLine levels m dashed hv.unbroken
  have hstripped := unbroken_strippedEnd hunbroken
  rw [← textTokens_keyLine levels m dashed hm hcounts hv, textTokens_of_unbroken hunbroken,
    textTokens_of_unbroken hstripped]
  apply lineTokens_congr
  rw [strippedEnd, String.toList_ofList, trim_trimEnd]

end

theorem textTokens_heading {levels : Nat} {m : Marker} (hm : m ∈ Marker.keys)
    (hcounts : m.counts true false = true) :
    textTokens (indentation levels ++ m.name ++ ":") = [⟨m, ""⟩] := by
  -- a key line without a value, less the blank behind the colon
  have hend : strippedEnd (keyLine levels m false "") = indentation levels ++ m.name ++ ":" := by
    have hlist : (keyLine levels m false "").toList =
        (indentation levels ++ m.name ++ ":").toList ++ [' '] := by
      simp [keyLine, keyText]
    have hblank : Blanks [' '] := blanks_replicate 1
    rw [strippedEnd, hlist, trimEnd_append_of_blanks hblank, trimEnd_eq_self,
      String.ofList_toList]
    simp [isBlank]
  rw [← hend]
  exact textTokens_strippedEnd_keyLine levels m false hm hcounts plain_empty

theorem textTokens_textLines {ls : List String} (indent : Nat)
    (h : ∀ l ∈ ls, (Plain l ∧ l ≠ "") ∧ ¬ OpensProblems l) :
    (ls.map (indentation indent ++ ·)).flatMap textTokens = textRun ls := by
  induction ls with
  | nil => rfl
  | cons l ls ih =>
      obtain ⟨⟨hl, hne⟩, hopens⟩ := h l List.mem_cons_self
      have hline : (indentation indent ++ l).toList =
          List.replicate (2 * indent) ' ' ++ l.toList := by
        rw [String.toList_append, toList_indentation]
      have hunbroken : Unbroken (indentation indent ++ l).toList := by
        rw [hline]
        exact (unbroken_replicate _).append hl.unbroken
      rw [List.map_cons, List.flatMap_cons, textTokens_of_unbroken hunbroken,
        lineTokens_text hline (blanks_replicate _) hl hne hopens,
        ih fun l' hl' => h l' (List.mem_cons_of_mem _ hl')]
      rfl

theorem plain_repr (n : Nat) : Plain n.repr := by
  have hdigit : ∀ c ∈ n.repr.toList, c.isDigit = true := by
    rw [Nat.toList_repr]
    exact fun c hc => Nat.isDigit_of_mem_toDigits (by decide) (by decide) hc
  have hcode : ∀ c ∈ n.repr.toList, 48 ≤ c.toNat ∧ c.toNat ≤ 57 := by
    intro c hc
    have hc := hdigit c hc
    simp only [Char.isDigit, Bool.and_eq_true, decide_eq_true_eq] at hc
    exact ⟨hc.1, hc.2⟩
  have hblank : ∀ c ∈ n.repr.toList, isBlank c = false := by
    intro c hc
    obtain ⟨hlow, hhigh⟩ := hcode c hc
    simp [isBlank]
    omega
  refine plain_of_colon_not_mem ⟨fun c hc => hblank c (List.mem_of_mem_head? hc),
    fun c hc => hblank c (List.mem_of_mem_getLast? hc)⟩ ?_ ?_
  · intro c hc
    obtain ⟨hlow, hhigh⟩ := hcode c hc
    simp [isLineBreak]
    omega
  · intro hcolon
    exact absurd (hdigit _ hcolon) (by decide)

/-! ## Written findings -/

/-- The lines of a legible message or suggestion after the first one. -/
theorem Legible.textTokens_tail {ls : List String} (h : Legible ls) (indent : Nat) :
    (ls.tail.map (indentation indent ++ ·)).flatMap textTokens = textRun ls.tail :=
  textTokens_textLines indent fun l hl => ⟨h.plain l (List.mem_of_mem_tail hl), h.later l hl⟩

theorem Legible.plain_head {ls : List String} (h : Legible ls) : Plain (ls.headD "") := by
  cases ls with
  | nil => exact plain_empty
  | cons l ls => exact (h.plain l List.mem_cons_self).1

theorem positionLines_eq (indent : Nat) (heading : Marker) (p : Position) :
    positionLines indent heading p =
      [indentation indent ++ heading.name ++ ":",
        keyLine (indent + 1) .lineNumber false p.line.repr,
        keyLine (indent + 1) .columnNumber false p.column.repr] := by
  simp [positionLines, keyLine, keyText, Marker.name, String.ext_iff, toString]

theorem textTokens_positionLines (indent : Nat) (heading : Marker) (p : Position)
    (hm : heading ∈ Marker.keys) (hcounts : heading.counts true false = true) :
    (positionLines indent heading p).flatMap textTokens = positionTokens heading p := by
  rw [positionLines_eq]
  simp only [List.flatMap_cons, List.flatMap_nil, textTokens_heading hm hcounts,
    textTokens_keyLine _ .lineNumber false (by decide) rfl (plain_repr _),
    textTokens_keyLine _ .columnNumber false (by decide) rfl (plain_repr _)]
  rfl

/-- The suggestion is written behind its key, its further lines as they are. -/
theorem textTokens_suggestion {ls : List String} (h : Legible ls) (hne : ls ≠ [])
    (levels : Nat) :
    textTokens (keyLine levels .suggestion false (unlines ls)) =
      ⟨.suggestion, ls.headD ""⟩ :: textRun ls.tail := by
  obtain ⟨l, ls, rfl⟩ := List.exists_cons_of_ne_nil hne
  have hlines : keyLine levels .suggestion false (unlines (l :: ls)) =
      unlines (keyLine levels .suggestion false l :: ls) := by
    rw [keyLine, keyLine, unlines, unlines, String.intercalate_cons_append]
  have hrest := textTokens_textLines 0 fun l' hl' =>
    ⟨h.plain l' (List.mem_cons_of_mem _ hl'), h.later l' hl'⟩
  have hindent : ls.map (indentation 0 ++ ·) = ls := by
    rw [List.map_congr_left fun l' _ => show indentation 0 ++ l' = l' by simp [indentation]]
    exact List.map_id ls
  rw [hindent] at hrest
  rw [hlines, textTokens_unlines, List.flatMap_cons, hrest,
    textTokens_keyLine _ _ _ (by decide) rfl (h.plain l List.mem_cons_self).1]
  rfl

/-- What is written for the suggestion, a missing one included. -/
theorem LegibleFinding.written {f : Finding} (h : LegibleFinding f) :
    ∃ ls, ls ≠ [] ∧ Legible ls ∧ writtenSuggestion f = unlines ls ∧
      normalSuggestion (unlines ls) = f.suggestion := by
  rw [writtenSuggestion]
  cases hs : f.suggestion with
  | none =>
      have hplaceholder : Plain placeholder :=
        plain_of_colon_not_mem (by decide) (by decide) (by decide)
      have hlegible : Legible [placeholder] :=
        ⟨by simpa using ⟨hplaceholder, by decide⟩, by simp⟩
      refine ⟨[placeholder], by simp, hlegible, by simp, ?_⟩
      rw [hlegible.normalSuggestion_unlines (by simp), if_pos (by simp)]
  | some s =>
      obtain ⟨hne, ls, hls, hlegible, rfl⟩ := h.suggestion s hs
      refine ⟨ls, hls, hlegible, ?_, ?_⟩
      · obtain ⟨l, ls, rfl⟩ := List.exists_cons_of_ne_nil hls
        have hempty := unlines_ne_empty (hlegible.plain l List.mem_cons_self).2 ls
        split
        · rename_i heq
          cases heq
        · rename_i heq
          exact absurd (Option.some.inj heq) hempty
        · rename_i heq
          exact (Option.some.inj heq).symm
      · rw [hlegible.normalSuggestion_unlines hls, if_neg hne]

/-- The entries of a finding, by their keys. An empty message is written like one
empty line. -/
theorem findingEntries_eq (f : Finding) (indent : Nat) :
    findingEntries f indent =
      [strippedEnd (keyLine indent .message true ((lines f.message).headD ""))] ++
        (lines f.message).tail.map (indentation (indent + 1) ++ ·) ++
        [keyLine (indent + 1) .suggestion false (writtenSuggestion f),
          indentation (indent + 1) ++ Marker.location.name ++ ":"] ++
        positionLines (indent + 2) .startPosition f.range.start ++
        positionLines (indent + 2) .endPosition f.range.stop ++
        [strippedEnd (keyLine (indent + 1) .ruleId false f.ruleId),
          strippedEnd (keyLine (indent + 1) .ruleDocUri false f.ruleDocUri)] := by
  have hlocation : ∀ levels, indentation levels ++ "location:" =
      indentation levels ++ Marker.location.name ++ ":" := by
    intro levels
    rw [String.append_assoc]
    rfl
  rw [findingEntries, eq_keyLine .message true (by decide),
    eq_keyLine .suggestion false (by decide),
    eq_keyLine .ruleId false (by decide),
    eq_keyLine .ruleDocUri false (by decide), hlocation]
  cases lines f.message <;> rfl

theorem textTokens_renderFinding {f : Finding} (h : LegibleFinding f) (indent : Nat) :
    textTokens (renderFinding f indent) = (findingPart f).1 :: (findingPart f).2 := by
  obtain ⟨ms, hms, hmessage⟩ := h.message
  obtain ⟨ss, hne, hss, hwritten, -⟩ := h.written
  have hmlines : lines f.message = ms := by rw [hmessage, hms.lines_unlines]
  have hslines : lines (unlines ss) = ss := hss.lines_unlines
  rw [renderFinding, textTokens_unlines, findingEntries_eq, findingPart, detailParts, hmlines,
    hwritten, hslines]
  simp only [List.flatMap_append, List.flatMap_cons, List.flatMap_nil, List.append_nil,
    textTokens_strippedEnd_keyLine _ .message true (by decide) rfl hms.plain_head,
    hms.textTokens_tail, textTokens_suggestion hss hne,
    textTokens_heading (m := .location) (by decide) rfl,
    textTokens_positionLines _ .startPosition _ (by decide) rfl,
    textTokens_positionLines _ .endPosition _ (by decide) rfl,
    textTokens_strippedEnd_keyLine _ .ruleId false (by decide) rfl h.ruleId,
    textTokens_strippedEnd_keyLine _ .ruleDocUri false (by decide) rfl h.ruleDocUri]
  simp [joined, rangeTokens]

/-! ## Written reports -/

theorem textTokens_renderReport {r : FileReport} (h : LegibleReport r) :
    textTokens (renderReport r) = (reportPart r).1 :: (reportPart r).2 := by
  have hpath : "- file_path: " ++ r.filePath = keyLine 0 .filePath true r.filePath := by
    simp [keyLine, keyText, Marker.name, indentation]
  have hproblems : indentation 1 ++ "problems:" = indentation 1 ++ Marker.problems.name ++ ":" := by
    simp [Marker.name, String.ext_iff]
  have hfindings : (r.findings.map (renderFinding · 2)).flatMap textTokens =
      joined (r.findings.map findingPart) := by
    rw [joined, List.flatMap_map, List.flatMap_map]
    exact List.flatMap_congr fun f hf => textTokens_renderFinding (h.findings f hf) 2
  rw [renderReport, textTokens_unlines, hpath, hproblems, List.flatMap_append, hfindings]
  simp only [List.flatMap_cons, List.flatMap_nil, List.append_nil,
    textTokens_keyLine _ .filePath true (by decide) rfl h.filePath,
    textTokens_heading (m := .problems) (by decide) rfl]
  rfl

theorem textTokens_render {rs : List FileReport} (h : ∀ r ∈ rs, LegibleReport r) :
    textTokens (render rs) = joined (rs.map reportPart) := by
  rw [render, textTokens_unlines, joined, List.flatMap_map, List.flatMap_map]
  exact List.flatMap_congr fun r hr => textTokens_renderReport (h r hr)

end LintRelay.Report
