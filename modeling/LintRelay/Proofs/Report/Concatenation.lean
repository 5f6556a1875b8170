import LintRelay.Proofs.Report.Written

/-!
# One report after another

A `file_path` ends all that is open: the problem, its location, and the section. So
what stands before a header says nothing about what stands after it, and reports that
are put behind each other are read as if each stood alone.
-/

namespace LintRelay.Report

/-- Reports begin with a header, if they say anything. -/
def BeginsAnew (ls : List String) : Prop :=
  (indexedTokens ls).head?.all fun t => t.2.marker = .filePath

instance (ls : List String) : Decidable (BeginsAnew ls) :=
  inferInstanceAs (Decidable (_ = true))

/-- A cut right between two lists of tokens leaves the sections of both. -/
theorem sections_append {opens : Marker → Bool} {us : List Token}
    (h : us.head?.all fun u => opens u.marker) (ts : List Token) :
    sections opens (ts ++ us) = sections opens ts ++ sections opens us := by
  have hcut : ∀ ts : List Token, (ts ++ us).takeWhile (fun u => !opens u.marker) =
      ts.takeWhile fun u => !opens u.marker := by
    intro ts
    induction ts with
    | nil =>
        cases us with
        | nil => rfl
        | cons u us => exact List.takeWhile_cons_of_neg (by simpa using h)
    | cons t ts ih => simp only [List.cons_append, List.takeWhile_cons, ih]
  induction ts with
  | nil => rfl
  | cons t ts ih =>
      by_cases ht : opens t.marker = true
      · rw [List.cons_append, sections_cons_of_opens ht, sections_cons_of_opens ht, hcut, ih,
          List.cons_append]
      · have ht : opens t.marker = false := Bool.eq_false_iff.mpr ht
        rw [List.cons_append, sections_cons_of_not_opens ht, sections_cons_of_not_opens ht, ih]

theorem readSections_append {us : List Token} (h : us.head?.all fun u => u.marker = .filePath)
    (ts : List Token) :
    readSections (ts ++ us) = do return (← readSections ts) ++ (← readSections us) := by
  rw [readSections, fileSections, sections_append h, List.mapM_append]
  rfl

theorem readSections_append_of_beginsAnew {ls : List String} (h : BeginsAnew ls)
    (ts : List Token) : readSections (ts ++ ls.flatMap lineTokens) =
      do return (← readSections ts) ++ (← readSections (ls.flatMap lineTokens)) := by
  refine readSections_append ?_ ts
  rw [← map_snd_indexedTokens, List.head?_map, Option.all_map]
  exact h

/-- **Reports can be put behind each other.** If what comes second begins with a header or
says nothing, then the reports of both are those of the first and those of the second,
whatever the first has left open; and they are read exactly if each of them is. The same
holds for texts with a line feed between them. -/
theorem reports_append :
    (∀ xs ys : List String, BeginsAnew ys → (parseLines (xs ++ ys)).reports =
      do return (← (parseLines xs).reports) ++ (← (parseLines ys).reports)) ∧
    ∀ a b : String, BeginsAnew (Text.lines b) → (parse (a ++ "\n" ++ b)).reports =
      do return (← (parse a).reports) ++ (← (parse b).reports) := by
  have hread : ∀ ls : List String, (parseLines ls).reports = readSections (ls.flatMap lineTokens) :=
    fun ls => by rw [reports_parseLines, map_snd_indexedTokens]
  constructor
  · intro xs ys h
    rw [hread, hread, hread, List.flatMap_append]
    exact readSections_append_of_beginsAnew h _
  · intro a b h
    simp only [parse, hread]
    rw [show (Text.lines (a ++ "\n" ++ b)).flatMap lineTokens = _ from textTokens_append_lf a b]
    exact readSections_append_of_beginsAnew h _

/-- The first text has a problem of no file, and stops inside the location of its last
problem. -/
theorem reports_append_unfinished :
    BeginsAnew (Text.lines "\n- file_path: b.proto\n- message: two") ∧
    (parse ("- message: of no file\n- file_path: a.proto\n- message: one\nlocation: end_position:" ++
      "\n" ++ "\n- file_path: b.proto\n- message: two")).reports =
      .ok [⟨"a.proto", [{ message := "one" }]⟩, ⟨"b.proto", [{ message := "two" }]⟩] := by
  have hbegins : BeginsAnew (Text.lines "\n- file_path: b.proto\n- message: two") := by
    decide +kernel
  refine ⟨hbegins, (reports_append.2 _ _ hbegins).trans ?_⟩
  decide +kernel

/-- Without a header, what comes second goes on with what is open. -/
example :
    (parse "- file_path: a.proto\n- message: one").reports =
      .ok [⟨"a.proto", [{ message := "one" }]⟩] ∧
    (parse "- file_path: a.proto\n- message: one\nmore").reports =
      .ok [⟨"a.proto", [{ message := "one\nmore" }]⟩] := by
  decide +kernel

end LintRelay.Report
