import LintRelay.Proofs.CommandLine.Writing
import LintRelay.Proofs.Report.RoundTrip

/-!
# Reading the command's own output

The `parse` command writes the reports that it reads in the layout that it reads.
Whatever it was given, what it writes is legible, so reading it again gives the
same reports unless a message begins with the announcement of a block.
-/

namespace LintRelay.CommandLine

open LintRelay.Text LintRelay.Console LintRelay.Report

/-- What the `parse` command writes when it reads `input`. -/
def echoed (w : World) (input : String) : String :=
  String.join ((parse { w with input } {}).output.map Block.render)

/-- What is written for `input` is written as it is: control sequences stay, or
there are none. -/
def EchoesAsIs (w : World) (input : String) : Prop :=
  ∀ rs, (Report.parse input).reports = .ok rs →
    w.terminal = true ∨ withoutSequences (render rs).toList = (render rs).toList

theorem parse_uniformReturns (s : String) :
    Report.parse (String.ofList (uniformReturns s.toList)) = Report.parse s := by
  rw [Report.parse, Report.parse, lines, lines, String.toList_ofList, splitLines_uniformReturns]

theorem reports_append_lf {s : String} {rs : List FileReport} :
    (Report.parse (s ++ "\n")).reports = .ok rs ↔ (Report.parse s).reports = .ok rs := by
  have htokens : textTokens (s ++ "\n") = textTokens s := by
    have h := textTokens_append_lf s ""
    rwa [String.append_empty, show textTokens "" = [] from rfl, List.append_nil] at h
  rw [parse_eq_ok_iff, parse_eq_ok_iff, htokens]

section

variable {w : World} {input : String} {rs : List FileReport}

theorem echoed_eq (h : (Report.parse input).reports = .ok rs) (hasis : EchoesAsIs w input) :
    echoed w input = if render rs = "" then "" else render rs ++ "\n" := by
  have hshown : (if w.terminal then render rs
      else String.ofList (withoutSequences (render rs).toList)) = render rs := by
    rcases hasis rs h with hterminal | hnone
    · rw [if_pos hterminal]
    · rw [hnone, String.ofList_toList, ite_self]
  have hreports : reportsText { w with input } {} rs =
      .ok (if render rs = "" then [] else [.text (render rs ++ "\n")]) := by
    have hjson : ¬ ({} : ParseOptions).json = true := by decide
    rw [reportsText, if_neg hjson, write_of_parse h]
    simp only [Except.map, hshown]
  have houtput : (parse { w with input } {}).output =
      if render rs = "" then [] else [.text (render rs ++ "\n")] := by
    rw [parse, if_pos rfl, parseText]
    simp only [parse_uniformReturns, h, hreports]
  rw [echoed, houtput]
  split_ifs
  · rfl
  · simp [Block.render, String.join]

theorem reports_echoed {rs' : List FileReport} (h : (Report.parse input).reports = .ok rs)
    (hasis : EchoesAsIs w input) :
    (Report.parse (echoed w input)).reports = .ok rs' ↔
      (Report.parse (render rs)).reports = .ok rs' := by
  rw [echoed_eq h hasis]
  split_ifs with hempty
  · rw [hempty]
  · exact reports_append_lf

theorem eq_of_echoed_eq {input' : String} {rs' : List FileReport}
    (h : (Report.parse input).reports = .ok rs) (hasis : EchoesAsIs w input)
    (h' : (Report.parse input').reports = .ok rs') (hasis' : EchoesAsIs w input')
    (heq : echoed w input = echoed w input') : rs = rs' := by
  apply eq_of_render_eq (legible_of_parse h) (legible_of_parse h')
  rw [echoed_eq h hasis, echoed_eq h' hasis'] at heq
  have hnonempty : ∀ s : String, s ++ "\n" ≠ "" := by simp
  split_ifs at heq with hempty hempty' hempty'
  · rw [hempty, hempty']
  · exact absurd heq.symm (hnonempty _)
  · exact absurd heq (hnonempty _)
  · exact String.append_left_inj _ |>.mp heq

end

/-- **Reading again.** What was read from any text comes back from its written form
just if no message begins with the announcement of a block. Under the same
condition the `parse` command repeats its own output, provided that it leaves the
text as it is. -/
theorem parse_render_parse_iff {t : String} {rs : List FileReport}
    (h : (Report.parse t).reports = .ok rs) :
    ((Report.parse (render rs)).reports = .ok rs ↔
      ∀ f ∈ FileReport.allFindings rs, announcesBlock f = false) ∧
    ∀ w, EchoesAsIs w t → EchoesAsIs w (echoed w t) →
      (echoed w (echoed w t) = echoed w t ↔
        ∀ f ∈ FileReport.allFindings rs, announcesBlock f = false) := by
  have hlegible := legible_of_parse h
  have hstable := parse_render_eq_self_iff hlegible
  refine ⟨hstable, fun w hasis hasis' => ?_⟩
  rw [← hstable, ← reports_echoed h hasis]
  constructor
  · intro hrepeated
    have hagain := (reports_echoed h hasis).mpr (parse_render hlegible)
    have hsame := eq_of_echoed_eq hagain hasis' h hasis hrepeated
    rw [hsame] at hagain
    exact hagain
  · intro hagain
    rw [echoed_eq hagain hasis', echoed_eq h hasis]

/-- A message that consists of a bar is lost: read on a line of its own, it is
written behind its key. -/
theorem parse_render_parse_iff_bar :
    (Report.parse "- file_path: a\n- message:\n|").reports = .ok [⟨"a", [{ message := "|" }]⟩] ∧
      (Report.parse (render [⟨"a", [{ message := "|" }]⟩])).reports ≠
        .ok [⟨"a", [{ message := "|" }]⟩] := by
  have h : (Report.parse "- file_path: a\n- message:\n|").reports =
      .ok [⟨"a", [{ message := "|" }]⟩] := by
    decide +kernel
  refine ⟨h, fun hstable => ?_⟩
  have hblock := (parse_render_parse_iff h).1.mp hstable { message := "|" } (by
    simp [FileReport.allFindings])
  exact absurd hblock (by decide +kernel)

end LintRelay.CommandLine
