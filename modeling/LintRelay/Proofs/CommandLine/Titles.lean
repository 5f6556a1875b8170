import LintRelay.Proofs.CommandLine.Checking
import LintRelay.Proofs.Console.Header

/-!
# The title over a check

A check that does not write JSON begins with a header that names its file. The name is read as
markup: a check whose file has a harmless name goes on to its pass below the name as it is, and
a check whose file has a name that closes a tag breaks off before it.
-/

namespace LintRelay.CommandLine

open LintRelay.Console

def CheckOptions.title (o : CheckOptions) : String :=
  "api-linter " ++ o.fileName

section

variable {w : World} {o : CheckOptions} {c : Config} {d : Document}

theorem Checked.head?_output {r : Run} {first : Block} (h : Checked w o c d [first] r) :
    r.output.head? = some first := by
  cases h with
  | unbuilt _ _ _ houtput => rw [houtput]; rfl
  | failed _ _ _ _ _ _ houtput => rw [houtput]; rfl
  | broken _ _ _ _ _ houtput => rw [houtput]; rfl
  | unenriched _ _ _ _ _ _ _ _ _ houtput => rw [houtput]; rfl
  | shown _ _ _ _ _ _ _ _ _ _ _ _ houtput => rw [houtput]; rfl

theorem checked_of_fault_eq_none (h : Reads w o c d) (hjson : o.json = false)
    (hfault : (header o.title o.colour w.terminal).fault = none) :
    Checked w o (o.override c) d [.text (header o.title o.colour w.terminal).text]
      (check w o) := by
  rw [((check_of_reads h).2 hjson _ rfl).2 hfault]
  exact checked_checkDocument w o _ d _

theorem check_of_fault_eq_some (h : Reads w o c d) (hjson : o.json = false) {e : MarkupError}
    (hfault : (header o.title o.colour w.terminal).fault = some e) :
    check w o = .brokenOff [.text (header o.title o.colour w.terminal).text] e.kind e.message :=
  ((check_of_reads h).2 hjson _ rfl).1 e hfault

/-- The output of a check that does not write JSON begins with its header. -/
theorem head?_output_check (h : Reads w o c d) (hjson : o.json = false) :
    (check w o).output.head? = some (.text (header o.title o.colour w.terminal).text) := by
  cases hfault : (header o.title o.colour w.terminal).fault with
  | none => exact (checked_of_fault_eq_none h hjson hfault).head?_output
  | some e =>
      rw [check_of_fault_eq_some h hjson hfault]
      rfl

/-- A check shows its title exactly if the title is no markup. -/
theorem check_shows_title_iff (h : Reads w o c d) (hjson : o.json = false)
    (hcolour : o.colour = false) (htitle : IsTitle o.title) :
    (check w o).output.head? = some (.text ("\n--- " ++ o.title ++ " ---\n")) ↔
      IsUnmarked o.title.toList := by
  have hplain : header o.title o.colour w.terminal = plainHeader o.title := by
    rw [hcolour]
    rfl
  rw [head?_output_check h hjson, hplain, Option.some_inj, Block.text.injEq,
    ← plainHeader_eq_iff htitle]
  constructor
  · intro htext
    have hfault : (plainHeader o.title).fault = none :=
      fault_writtenAfter_of_text (by rw [← plainHeader, htext]; simp)
    rw [← htext, ← hfault]
  · intro heq
    rw [heq]

end

/-- **Titles are read as markup.** A header in plain text shows a title on one line as it is
exactly if there is neither a tag nor an escaped bracket in it, and it cannot be shown if the
first tag in the title closes. So does a check with that title begin with it as it is, or not; it
comes to its pass if the title is no markup, and breaks off before it if the first tag closes. -/
theorem titles_are_markup {title : String} (htitle : IsTitle title) :
    (header title false false = ⟨"\n--- " ++ title ++ " ---\n", none⟩ ↔
      IsUnmarked title.toList) ∧
    (ClosesFirst title.toList → ∃ e, header title false false = ⟨"", some e⟩) ∧
    ∀ w o c d, Reads w o c d → o.json = false → w.terminal = false → o.title = title →
      (o.colour = false →
        ((check w o).output.head? = some (.text ("\n--- " ++ title ++ " ---\n")) ↔
          IsUnmarked title.toList)) ∧
      (IsUnmarked title.toList → ∃ header, Checked w o (o.override c) d [header] (check w o)) ∧
      (ClosesFirst title.toList →
        ∃ header e, check w o = .brokenOff [header] (MarkupError.kind e) e.message) := by
  refine ⟨plainHeader_eq_iff htitle, fun hclose => header_of_closesFirst hclose false false, ?_⟩
  rintro w o c d hreads hjson hterminal rfl
  refine ⟨fun hcolour => check_shows_title_iff hreads hjson hcolour htitle, ?_, ?_⟩
  · intro hunmarked
    have hfault : (header o.title o.colour w.terminal).fault = none := by
      rw [hterminal]
      exact fault_header_of_isUnmarked htitle hunmarked o.colour
    exact ⟨_, checked_of_fault_eq_none hreads hjson hfault⟩
  · intro hclose
    obtain ⟨e, he⟩ := header_of_closesFirst hclose o.colour w.terminal
    exact ⟨_, e, check_of_fault_eq_some hreads hjson (by rw [he])⟩

/-- The file named by a bracket is to be checked, in plain text. -/
def bracketCheck : CheckOptions where
  file := "[/]"
  colour := false

theorem reads_bracketCheck : Reads (smallWorld default) bracketCheck {}
    { uri := "file:///w/%5B/%5D", text := "" } := by
  have htarget : (Path.ofString "[/]").expandHome (fun _ => none) >>=
      (⟨.slash, ["w"]⟩ : Path).resolve = .ok ⟨.slash, ["w", "[", "]"]⟩ := by
    decide +kernel
  have hfile : smallFiles ⟨.slash, ["w", "[", "]"]⟩ = some (.file []) := by decide +kernel
  have huri : Uri.ofPath ⟨.slash, ["w"]⟩ ⟨.slash, ["w", "[", "]"]⟩ = .ok "file:///w/%5B/%5D" := by
    decide +kernel
  exact ⟨load_smallWorld default rfl, ⟨_, [], htarget, hfile, by decide +kernel, huri⟩, rfl⟩

theorem titles_are_markup_brackets :
    header "api-linter a[1].proto" false false = ⟨"\n--- api-linter a[1].proto ---\n", none⟩ ∧
      (∃ e, header "[/]" false false = ⟨"", some e⟩) ∧
      ∃ c d header e, Reads (smallWorld default) bracketCheck c d ∧
        check (smallWorld default) bracketCheck =
          .brokenOff [header] (MarkupError.kind e) e.message := by
  have hplain : IsTitle "api-linter a[1].proto" := ⟨by decide, by decide, by decide⟩
  have htag : IsTitle "[/]" := ⟨by decide, by decide, by decide⟩
  have hcloses : ClosesFirst "[/]".toList :=
    ⟨[], [], [], rfl, not_holdsTag_nil, by decide, by simp⟩
  have hcheck : IsTitle bracketCheck.title := ⟨by decide, by decide, by decide⟩
  have hbreaks : ClosesFirst bracketCheck.title.toList :=
    ⟨"api-linter ".toList, [], [], rfl, by decide, by decide, by simp⟩
  have hreads := reads_bracketCheck
  obtain ⟨header, e, hbroken⟩ :=
    ((titles_are_markup hcheck).2.2 _ _ _ _ hreads rfl rfl rfl).2.2 hbreaks
  exact ⟨(titles_are_markup hplain).1.mpr (by decide), (titles_are_markup htag).2.1 hcloses,
    _, _, header, e, hreads, hbroken⟩

end LintRelay.CommandLine
