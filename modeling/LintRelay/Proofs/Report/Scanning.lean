import LintRelay.Proofs.Report.Location

/-!
# The scanner reads the outline

The scanner goes from state to state, yet what it reports is the outline of the
tokens. One run lemma carries this: from any state, a run reports what has been
closed, then the open section with the rest of its problems, then the sections
that follow.

A run fails only at a coordinate with too many digits. Whether it does can be
read off the problems one by one.
-/

namespace LintRelay.Report

open LintRelay.Text LintRelay.Decimal

/-- The finding of a problem, as the scanner reads it. -/
def Item.read (i : Item) : Except Oversized Finding :=
  (i.findingAt <| orZero ·) <$> locate i.location?

/-- The report of a section, as the scanner reads it. -/
def readSection (p : Token × List Token) : Except Oversized FileReport :=
  (⟨p.1.value, ·⟩) <$> (items p.2).mapM Item.read

/-- The reports of all sections, as the scanner reads them. -/
def readSections (ts : List Token) : Except Oversized (List FileReport) :=
  (fileSections ts).mapM readSection

/-- The findings that an open section will still get from its tokens. -/
def Section.remaining (s : Section) (ts : List Token) : Except Oversized (List Finding) :=
  match s.problem with
  | none => (items ts).mapM Item.read
  | some d => do
    let first ← ((ts.takeWhile fun t => !decide (t.marker = .message)).foldl Draft.add d).finding
    let others ← (items ts).mapM Item.read
    return first.1 :: others

/-- What the scanner reports when the tokens are over. -/
def Scanner.outcome (s : Scanner) (ts : List (Nat × Token)) :
    Except Oversized (List FileReport) := do
  let last ← (s.feedAll ts).2
  return (← last.finish).1

/-! ## One problem -/

/-- Closing a draft that has taken all tokens of its problem reads the problem. -/
theorem fst_finding_foldl_add (line : Int) (v : String) (ts : List Token) :
    (·.1) <$> (ts.foldl Draft.add (Draft.opened line v)).finding = Item.read ⟨v, ts⟩ := by
  have hmessage : (ts.foldl Draft.add (Draft.opened line v)).message =
      Item.messageLines ⟨v, ts⟩ := by
    rw [Draft.message_foldl_add]
    rfl
  have hsuggestion : (ts.foldl Draft.add (Draft.opened line v)).suggestion =
      Item.suggestionLines ⟨v, ts⟩ := by
    rw [Draft.suggestion_foldl_add]
    rfl
  have hlocation : (ts.foldl Draft.add (Draft.opened line v)).location =
      Item.location? ⟨v, ts⟩ := by
    rw [Draft.location_foldl_add, Item.location?]
    cases lastPart? .location ts <;> rfl
  have hfinal : (ts.foldl Draft.add (Draft.opened line v)).finalSuggestion =
      Item.suggestion? ⟨v, ts⟩ := by
    rw [Draft.finalSuggestion, hsuggestion, Item.suggestion?]
    by_cases hnone : Item.suggestionLines ⟨v, ts⟩ = []
    · rw [if_pos hnone, hnone]
      decide
    · rw [if_neg hnone]
  have hrule : (ts.foldl Draft.add (Draft.opened line v)).ruleId =
      Item.field ⟨v, ts⟩ .ruleId := by
    rw [Draft.ruleId_foldl_add]
    rfl
  have huri : (ts.foldl Draft.add (Draft.opened line v)).ruleDocUri =
      Item.field ⟨v, ts⟩ .ruleDocUri := by
    rw [Draft.ruleDocUri_foldl_add]
    rfl
  rw [Draft.finding, hmessage, hlocation, hfinal, hrule, huri, Item.read]
  cases locate (Item.location? ⟨v, ts⟩) with
  | error e => rfl
  | ok found => cases found <;> rfl

/-! ## One token -/

theorem outcome_nil (s : Scanner) :
    s.outcome [] = s.finish >>= fun p => pure p.1 :=
  rfl

theorem outcome_cons (s : Scanner) (line : Nat) (t : Token) (ts : List (Nat × Token)) :
    s.outcome ((line, t) :: ts) = s.feed line t >>= fun p => p.1.outcome ts := by
  simp only [Scanner.outcome, Scanner.feedAll]
  cases s.feed line t <;> rfl

theorem readSections_cons_filePath (v : String) (ts : List Token) :
    readSections (⟨.filePath, v⟩ :: ts) = do
      let findings ←
        (items (ts.takeWhile fun t => !decide (t.marker = .filePath))).mapM Item.read
      let reports ← readSections ts
      return ⟨v, findings⟩ :: reports := by
  simp only [readSections, fileSections]
  rw [sections_cons_of_opens (by simp), List.mapM_cons, readSection]
  simp only [map_eq_pure_bind, bind_assoc, pure_bind]

theorem readSections_cons_of_ne {t : Token} (h : t.marker ≠ .filePath) (ts : List Token) :
    readSections (t :: ts) = readSections ts := by
  rw [readSections, fileSections, sections_cons_of_not_opens (by simpa using h), readSections,
    fileSections]

theorem items_cons_message (v : String) (ts : List Token) :
    items (⟨.message, v⟩ :: ts) =
      ⟨v, ts.takeWhile fun t => !decide (t.marker = .message)⟩ :: items ts := by
  rw [items, sections_cons_of_opens (by simp)]
  rfl

theorem items_cons_of_ne {t : Token} (h : t.marker ≠ .message) (ts : List Token) :
    items (t :: ts) = items ts := by
  rw [items, sections_cons_of_not_opens (by simpa using h), items]

theorem remaining_cons_message (s : Section) (v : String) (ts : List Token) :
    s.remaining (⟨.message, v⟩ :: ts) = do
      let closed ← s.remaining []
      let first ← Item.read ⟨v, ts.takeWhile fun t => !decide (t.marker = .message)⟩
      let others ← (items ts).mapM Item.read
      return closed ++ first :: others := by
  obtain ⟨path, findings, problem⟩ := s
  cases problem with
  | none =>
      simp only [Section.remaining, items_cons_message, List.mapM_cons]
      rfl
  | some d =>
      simp only [Section.remaining, items_cons_message, List.mapM_cons, bind_assoc]
      rw [List.takeWhile_cons_of_neg (by simp), List.takeWhile_nil]
      simp only [pure_bind, items, sections, List.map_nil, List.mapM_nil]
      rfl

theorem remaining_cons_of_ne (s : Section) {t : Token} (h : t.marker ≠ .message)
    (ts : List Token) :
    s.remaining (t :: ts) =
      ({ s with problem := s.problem.map (·.add t) } : Section).remaining ts := by
  obtain ⟨path, findings, problem⟩ := s
  cases problem with
  | none => simp only [Section.remaining, items_cons_of_ne h, Option.map_none]
  | some d =>
      simp only [Section.remaining, items_cons_of_ne h, Option.map_some]
      rw [List.takeWhile_cons_of_pos (by simpa using h), List.foldl_cons]

/-- A section that has just been given a new problem. -/
theorem remaining_opened (path : String) (findings : List Finding) (line : Int) (v : String)
    (ts : List Token) :
    Section.remaining ⟨path, findings, some (.opened line v)⟩ ts = do
      let first ← Item.read ⟨v, ts.takeWhile fun t => !decide (t.marker = .message)⟩
      let others ← (items ts).mapM Item.read
      return first :: others := by
  rw [← fst_finding_foldl_add line v, Section.remaining]
  simp only [map_eq_pure_bind, bind_assoc, pure_bind]

/-- Closing the open problem of a section gives the findings that no further
tokens would give. -/
theorem closeProblem_bind {α : Type} (s : Section) (f : Section → Except Oversized α) :
    (s.closeProblem >>= fun p => f p.1) =
      s.remaining [] >>= fun findings =>
        f { s with findings := s.findings ++ findings, problem := none } := by
  obtain ⟨path, findings, problem⟩ := s
  cases problem with
  | none =>
      change f _ = f { filePath := path, findings := findings ++ [], problem := none }
      rw [List.append_nil]
  | some d =>
      simp only [Section.closeProblem, Section.remaining, List.takeWhile_nil, List.foldl_nil]
      cases d.finding <;> rfl

theorem closeFile_bind {α : Type} {s : Scanner} {c : Section} (h : s.current = some c)
    (f : Scanner → Except Oversized α) :
    (s.closeFile >>= fun p => f p.1) =
      c.remaining [] >>= fun findings =>
        f ⟨s.reports ++ [⟨c.filePath, c.findings ++ findings⟩], none⟩ := by
  have hclose := closeProblem_bind c fun closed =>
    f ⟨s.reports ++ [⟨closed.filePath, closed.findings⟩], none⟩
  rw [← hclose, Scanner.closeFile, h]
  simp only [bind_assoc, pure_bind]

theorem feed_filePath_bind {α : Type} (s : Scanner) (line : Int) (v : String)
    (f : Scanner → Except Oversized α) :
    (s.feed line ⟨.filePath, v⟩ >>= fun p => f p.1) =
      s.closeFile >>= fun p => f { p.1 with current := some { filePath := v } } := by
  simp only [Scanner.feed, bind_assoc, pure_bind]

theorem feed_message_bind {α : Type} {s : Scanner} {c : Section} (h : s.current = some c)
    (line : Int) (v : String) (f : Scanner → Except Oversized α) :
    (s.feed line ⟨.message, v⟩ >>= fun p => f p.1) =
      c.closeProblem >>= fun p =>
        f { s with current := some { p.1 with problem := some (.opened line v) } } := by
  simp only [Scanner.feed, h, bind_assoc, pure_bind]

theorem feed_of_current_none {s : Scanner} (h : s.current = none) (line : Int) {t : Token}
    (ht : t.marker ≠ .filePath) : ∃ notices, s.feed line t = .ok (s, notices) := by
  obtain ⟨m, v⟩ := t
  cases m <;> simp_all [Scanner.feed]

theorem feed_inside {s : Scanner} {c : Section} (h : s.current = some c) (line : Int) {t : Token}
    (hfile : t.marker ≠ .filePath) (hmessage : t.marker ≠ .message) :
    s.feed line t =
      .ok ({ s with current := some { c with problem := c.problem.map (·.add t) } }, []) := by
  obtain ⟨m, v⟩ := t
  cases m <;> simp_all [Scanner.feed]

/-! ## All tokens -/

/-- From any state: what has been closed, the open section with the rest of its
problems, and the sections that follow. -/
theorem outcome_eq (s : Scanner) (ts : List (Nat × Token)) :
    s.outcome ts =
      match s.current with
      | none => do
        let reports ← readSections (ts.map (·.2))
        return s.reports ++ reports
      | some c => do
        let findings ←
          c.remaining ((ts.map (·.2)).takeWhile fun t => !decide (t.marker = .filePath))
        let reports ← readSections (ts.map (·.2))
        return s.reports ++ ⟨c.filePath, c.findings ++ findings⟩ :: reports := by
  induction ts generalizing s with
  | nil =>
      rw [outcome_nil, Scanner.finish]
      simp only [bind_assoc, pure_bind]
      cases hs : s.current with
      | none =>
          rw [Scanner.closeFile, hs]
          change Except.ok s.reports = Except.ok (s.reports ++ [])
          rw [List.append_nil]
      | some c => exact closeFile_bind hs fun closed => Except.ok closed.reports
  | cons p ts ih =>
      obtain ⟨line, t⟩ := p
      rw [outcome_cons, List.map_cons]
      by_cases hfile : t.marker = .filePath
      · -- the open section ends here, whatever its problem has got so far
        obtain ⟨m, v⟩ := t
        obtain rfl : m = .filePath := hfile
        rw [feed_filePath_bind s line v (·.outcome ts), readSections_cons_filePath,
          List.takeWhile_cons_of_neg (by simp)]
        cases hs : s.current with
        | none =>
            rw [Scanner.closeFile, hs]
            change Scanner.outcome ⟨s.reports, some { filePath := v }⟩ ts = _
            rw [ih]
            simp only [Section.remaining, List.nil_append, bind_assoc, pure_bind]
        | some c =>
            rw [closeFile_bind hs fun closed =>
              Scanner.outcome ⟨closed.reports, some { filePath := v }⟩ ts]
            simp only [ih, Section.remaining, List.nil_append, bind_assoc, pure_bind,
              List.append_assoc, List.singleton_append]
      · rw [readSections_cons_of_ne hfile]
        cases hs : s.current with
        | none =>
            -- outside a section nothing counts
            obtain ⟨notices, hfeed⟩ := feed_of_current_none hs line hfile
            rw [hfeed]
            change s.outcome ts = _
            rw [ih, hs]
        | some c =>
            rw [List.takeWhile_cons_of_pos (by simpa using hfile)]
            by_cases hmessage : t.marker = .message
            · obtain ⟨m, v⟩ := t
              obtain rfl : m = .message := hmessage
              rw [feed_message_bind hs line v (·.outcome ts),
                closeProblem_bind c fun closed =>
                  Scanner.outcome
                    { s with current := some { closed with problem := some (.opened line v) } } ts]
              simp only [ih, remaining_opened, remaining_cons_message, bind_assoc, pure_bind,
                List.append_assoc]
            · rw [feed_inside hs line hfile hmessage]
              change Scanner.outcome
                { s with current := some { c with problem := c.problem.map (·.add t) } } ts = _
              simp only [ih, remaining_cons_of_ne c hmessage]

/-- From its start the scanner reports the sections of all tokens. -/
theorem outcome_start (ts : List (Nat × Token)) :
    Scanner.outcome {} ts = readSections (ts.map (·.2)) := by
  rw [outcome_eq]
  change (readSections _ >>= fun reports => pure ([] ++ reports)) = _
  simp only [List.nil_append, bind_pure]

theorem reports_parseLines (ls : List String) :
    (parseLines ls).reports = readSections ((indexedTokens ls).map (·.2)) := by
  have hparse : (parseLines ls).reports = Scanner.outcome {} (indexedTokens ls) := by
    rw [parseLines, Scanner.outcome]
    rcases Scanner.feedAll {} (indexedTokens ls) with ⟨notices, _ | last⟩
    · rfl
    · dsimp only
      change _ = last.finish >>= fun p => pure p.1
      cases last.finish <;> rfl
  rw [hparse, outcome_start]

/-! ## Whether it fails -/

theorem mapM_eq_ok {α β ε : Type} {f : α → Except ε β} {g : α → β} {xs : List α}
    (h : ∀ x ∈ xs, f x = .ok (g x)) : xs.mapM f = .ok (xs.map g) := by
  induction xs with
  | nil => rfl
  | cons x xs ih =>
      rw [List.mapM_cons, h x List.mem_cons_self,
        ih fun y hy => h y (List.mem_cons_of_mem _ hy)]
      rfl

theorem mapM_eq_error {α β ε : Type} {f : α → Except ε β} {xs : List α} {x : α}
    (hx : x ∈ xs) (hfail : ∃ e, f x = .error e) :
    ∃ y ∈ xs, ∃ e, f y = .error e ∧ xs.mapM f = .error e := by
  induction xs with
  | nil => exact absurd hx List.not_mem_nil
  | cons y ys ih =>
      rw [List.mapM_cons]
      cases hy : f y with
      | error e => exact ⟨y, List.mem_cons_self, e, hy, rfl⟩
      | ok b =>
          have hmem : x ∈ ys := by
            rcases List.mem_cons.mp hx with rfl | hx
            · obtain ⟨e, he⟩ := hfail
              rw [hy] at he
              cases he
            · exact hx
          obtain ⟨z, hz, e, hze, hrest⟩ := ih hmem
          refine ⟨z, List.mem_cons_of_mem _ hz, e, hze, ?_⟩
          rw [hrest]
          rfl

theorem Item.read_of_fits {i : Item} (h : i.CoordinatesFit) : i.read = .ok i.finding := by
  have hlocate : orZero <$> locate i.location? = .ok (i.range?.getD Range.zero) := by
    rw [Item.range?]
    cases hloc : i.location? with
    | none => rfl
    | some ts => exact locate_of_fits (h ts hloc)
  have hread : i.read = i.findingAt <$> (orZero <$> locate i.location?) := by
    rw [Item.read]
    cases locate i.location? <;> rfl
  rw [hread, hlocate]
  rfl

theorem Item.read_of_not_fits {i : Item} (h : ¬ i.CoordinatesFit) :
    ∃ e, i.read = .error e ∧ maxDigits < e.digits := by
  simp only [Item.CoordinatesFit, not_forall] at h
  obtain ⟨ts, hloc, hlayout, cs, hcs, hlong⟩ := h
  obtain ⟨e, he, hdigits⟩ := locate_of_oversized hlayout hcs (by omega)
  refine ⟨e, ?_, hdigits⟩
  rw [Item.read, show i.location? = some ts from hloc, he]
  rfl

theorem readSections_of_fits {ts : List Token} (h : ∀ i ∈ allItems ts, i.CoordinatesFit) :
    readSections ts = .ok (outline ts) := by
  apply mapM_eq_ok
  intro p hp
  rw [readSection, mapM_eq_ok fun i hi => Item.read_of_fits (h i (List.mem_flatMap.mpr ⟨p, hp, hi⟩))]
  rfl

theorem readSections_of_not_fits {ts : List Token} {i : Item} (hi : i ∈ allItems ts)
    (h : ¬ i.CoordinatesFit) : ∃ e, readSections ts = .error e := by
  obtain ⟨p, hp, hi⟩ := List.mem_flatMap.mp hi
  obtain ⟨e, he, _⟩ := Item.read_of_not_fits h
  obtain ⟨_, _, e', _, hsection⟩ := mapM_eq_error hi ⟨e, he⟩
  obtain ⟨_, _, e'', _, hall⟩ :=
    mapM_eq_error (f := readSection) hp ⟨e', by rw [readSection, hsection]; rfl⟩
  exact ⟨e'', hall⟩

/-- The reports exist exactly when every coordinate that is reached can be read. -/
theorem reports_eq_ok_iff {ls : List String} {rs : List FileReport} :
    (parseLines ls).reports = .ok rs ↔
      (∀ i ∈ allItems ((indexedTokens ls).map (·.2)), i.CoordinatesFit) ∧
        rs = outline ((indexedTokens ls).map (·.2)) := by
  rw [reports_parseLines]
  constructor
  · intro hrs
    have hfit : ∀ i ∈ allItems ((indexedTokens ls).map (·.2)), i.CoordinatesFit := by
      intro i hi
      by_contra hnot
      obtain ⟨e, he⟩ := readSections_of_not_fits hi hnot
      rw [he] at hrs
      cases hrs
    rw [readSections_of_fits hfit] at hrs
    exact ⟨hfit, (Except.ok.inj hrs).symm⟩
  · rintro ⟨hfit, rfl⟩
    exact readSections_of_fits hfit

/-! ## What is reported -/

/-- **The scanner reports the outline**: from any lines, if there are reports,
they are what the tokens say when they are cut at their keys. -/
theorem reports_eq_outline {ls : List String} {rs : List FileReport}
    (h : (parseLines ls).reports = .ok rs) : rs = outline ((indexedTokens ls).map (·.2)) :=
  (reports_eq_ok_iff.mp h).2

/-- Lines before the first section and the first problem, keys out of place, a
suggestion that is replaced, and text after a rule. -/
def strayLines : List String :=
  ["- message: of no file", "- file_path: a.proto", "of no problem", "problems:",
    "- message: |", "  first", "suggestion: old", "problems: again", "second suggestion:", "  new",
    "location: start_position: line_number: 1 column_number: 2", "end_position: line_number: 3",
    "column_number: 4", "rule_id: r", "of no part", "- file_path:"]

theorem reports_eq_outline_stray :
    (parseLines strayLines).reports =
        .ok [⟨"a.proto", [⟨"first", ⟨⟨1, 2⟩, ⟨3, 4⟩, by decide⟩, "r", "", some "new"⟩]⟩, ⟨"", []⟩] ∧
      [⟨"a.proto", [⟨"first", ⟨⟨1, 2⟩, ⟨3, 4⟩, by decide⟩, "r", "", some "new"⟩]⟩, ⟨"", []⟩] =
        outline ((indexedTokens strayLines).map (·.2)) := by
  have h : (parseLines strayLines).reports =
      .ok [⟨"a.proto", [⟨"first", ⟨⟨1, 2⟩, ⟨3, 4⟩, by decide⟩, "r", "", some "new"⟩]⟩,
        ⟨"", []⟩] := by
    decide +kernel
  exact ⟨h, reports_eq_outline h⟩

/-- **Reading fails only at a coordinate that is too long.** Lines give reports
exactly when every coordinate that is reached can be read; and then every
problem whose location describes no range stands at the zero range. -/
theorem reports_exist_iff (ls : List String) :
    ((∃ rs, (parseLines ls).reports = .ok rs) ↔
        ∀ i ∈ allItems ((indexedTokens ls).map (·.2)), i.CoordinatesFit) ∧
      ∀ rs, (parseLines ls).reports = .ok rs →
        (FileReport.allFindings rs).map Finding.range =
          (allItems ((indexedTokens ls).map (·.2))).map fun i => i.range?.getD Range.zero := by
  refine ⟨?_, ?_⟩
  · constructor
    · rintro ⟨rs, hrs⟩
      exact (reports_eq_ok_iff.mp hrs).1
    · intro hfit
      exact ⟨_, reports_eq_ok_iff.mpr ⟨hfit, rfl⟩⟩
  · intro rs hrs
    obtain ⟨-, rfl⟩ := reports_eq_ok_iff.mp hrs
    simp only [FileReport.allFindings, outline, allItems, List.flatMap_map, List.map_flatMap,
      List.map_map]
    rfl

end LintRelay.Report
