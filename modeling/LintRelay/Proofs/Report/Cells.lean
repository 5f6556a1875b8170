import Mathlib.Data.List.Induction
import LintRelay.Report.Cells
import LintRelay.Proofs.Report.Scanning
import LintRelay.Proofs.Results

/-!
# The scanner in its cells

The scanner is one value in which a problem can be open inside a section only, and its stage is
read off that value. The cells hold the stage, the section and the problem apart. Each call does
to the cells what it does to the scanner that they hold, so that they always fit together.
-/

namespace LintRelay.Report

open LintRelay.Decimal

/-! ## Operations -/

section

variable {α β : Type} (c : Cells)

@[simp] theorem Operation.on_pure (a : α) : Operation.on (pure a) c = (.ok a, c) := rfl

@[simp] theorem Operation.on_throw (x : Oversized) :
    Operation.on (throw x : Operation α) c = (.error x, c) := rfl

@[simp] theorem Operation.on_get : Operation.on get c = (.ok c, c) := rfl

@[simp] theorem Operation.on_set (c' : Cells) : Operation.on (set c') c = (.ok (), c') := rfl

@[simp] theorem Operation.on_modify (f : Cells → Cells) :
    Operation.on (modify f) c = (.ok (), f c) := rfl

theorem Operation.on_bind (m : Operation α) (f : α → Operation β) :
    Operation.on (m >>= f) c =
      match m.on c with
      | (.ok a, c') => (f a).on c'
      | (.error x, c') => (.error x, c') := by
  change (ExceptT.bindCont f (m.on c).1).run (m.on c).2 = _
  obtain ⟨answer, c'⟩ := m.on c
  cases answer <;> rfl

end

namespace Cells

theorem on_closeProblem (c : Cells) :
    closeProblem.on c =
      match c.problem, c.file with
      | some e, some f =>
        match e.build with
        | .error x => (.error x, c)
        | .ok (finding, notices) =>
          (.ok (), { c with
            file := some { f with findings := f.findings ++ [finding] }
            problem := none
            remarks := c.remarks ++ notices })
      | _, _ => (.ok (), { c with problem := none }) := by
  obtain ⟨stage, reports, file, problem, remarks⟩ := c
  cases problem with
  | none => simp [closeProblem, Operation.on_bind]
  | some e =>
      cases file with
      | none => simp [closeProblem, Operation.on_bind]
      | some f =>
          simp only [closeProblem, Operation.on_bind, Operation.on_get]
          cases e.build with
          | error x => simp
          | ok built => simp [Operation.on_bind, remark]

theorem on_closeFile (c : Cells) :
    closeFile.on c =
      match closeProblem.on c with
      | (.ok _, c') => (.ok (), { c' with reports := c'.reports ++ c'.file.toList, file := none })
      | (.error x, c') => (.error x, c') := by
  simp only [closeFile, Operation.on_bind]
  rcases closeProblem.on c with ⟨_ | _, ⟨stage, reports, file, problem, remarks⟩⟩
  · rfl
  · cases file <;> simp [Operation.on_bind]

theorem on_openFile (filePath : String) (c : Cells) :
    (openFile filePath).on c =
      match closeFile.on c with
      | (.ok _, c') => (.ok (), { c' with stage := .expectProblem, file := some { filePath } })
      | (.error x, c') => (.error x, c') := by
  simp only [openFile, Operation.on_bind, enter, Operation.on_modify]
  rcases closeFile.on c with ⟨_ | _, c'⟩ <;> rfl

theorem on_openProblem (line : Int) (message : String) (c : Cells) :
    (openProblem line message).on c =
      match closeProblem.on c with
      | (.ok _, c') =>
        (.ok (), if c'.file.isSome
          then { c' with stage := .inMessage, problem := some (.opened line message) }
          else { c' with stage := .expectFileHeader, remarks := c'.remarks ++ [.orphan line] })
      | (.error x, c') => (.error x, c') := by
  simp only [openProblem, Operation.on_bind, Operation.on_get]
  rcases closeProblem.on c with ⟨_ | _, ⟨stage, reports, file, problem, remarks⟩⟩
  · rfl
  · cases file <;> simp [Operation.on_bind, enter, remark, write]

theorem on_finish (c : Cells) :
    finish.on c =
      match closeFile.on c with
      | (.ok _, c') => (.ok c'.reports, { c' with stage := .expectFileHeader, reports := [] })
      | (.error x, c') => (.error x, c') := by
  simp only [finish, Operation.on_bind, enter, Operation.on_modify, Operation.on_get,
    Operation.on_set, Operation.on_pure]
  rcases closeFile.on c with ⟨_ | _, c'⟩ <;> rfl

end Cells

/-! ## The scanner in its cells -/

def Draft.entry (d : Draft) : Entry :=
  { line := d.line
    message := d.message
    suggestion := d.suggestion
    location := d.location
    ruleId := d.ruleId
    ruleDocUri := d.ruleDocUri }

/-- The scanner as it is kept in cells. -/
def Scanner.cells (s : Scanner) (remarks : List Notice) : Cells :=
  { stage := s.stage
    reports := s.reports
    file := s.current.map fun o => ⟨o.filePath, o.findings⟩
    problem := s.current.bind fun o => o.problem.map Draft.entry
    remarks }

theorem Draft.build_entry (d : Draft) : d.entry.build = d.finding := by
  rw [Entry.build, Draft.finding]
  cases h : locate d.location with
  | error x => simp only [Draft.entry, h]; rfl
  | ok found => cases found <;> (simp only [Draft.entry, h]; rfl)

theorem Section.problem_of_closeProblem {o closed : Section} {notices : List Notice}
    (h : o.closeProblem = .ok (closed, notices)) : closed.problem = none := by
  obtain ⟨path, findings, _ | d⟩ := o
  · cases h
    rfl
  · obtain ⟨built, -, hclosed⟩ := bind_eq_ok_iff.mp h
    cases hclosed
    rfl

theorem Scanner.current_of_closeFile {s closed : Scanner} {notices : List Notice}
    (h : s.closeFile = .ok (closed, notices)) : closed.current = none := by
  obtain ⟨reports, _ | o⟩ := s
  · cases h
    rfl
  · obtain ⟨made, -, hclosed⟩ := bind_eq_ok_iff.mp h
    cases hclosed
    rfl

namespace Cells

variable (s : Scanner) (r : List Notice)

theorem on_closeProblem_cells :
    closeProblem.on (s.cells r) =
      match s.current with
      | none => (.ok (), s.cells r)
      | some o =>
        match o.closeProblem with
        | .error x => (.error x, s.cells r)
        | .ok (closed, notices) =>
          (.ok (), { Scanner.cells { s with current := some closed } (r ++ notices) with
            stage := s.stage }) := by
  rw [on_closeProblem]
  obtain ⟨reports, _ | ⟨path, findings, _ | d⟩⟩ := s
  · rfl
  · simp [Scanner.cells, Section.closeProblem]
  · simp only [Scanner.cells, Section.closeProblem, Option.map_some, Option.bind_some,
      Draft.build_entry]
    cases d.finding <;> rfl

theorem on_closeFile_cells :
    closeFile.on (s.cells r) =
      match s.closeFile with
      | .error x => (.error x, s.cells r)
      | .ok (closed, notices) =>
        (.ok (), { closed.cells (r ++ notices) with stage := s.stage }) := by
  rw [on_closeFile, on_closeProblem_cells]
  obtain ⟨reports, _ | o⟩ := s
  · simp [Scanner.closeFile, Scanner.cells]
  · simp only [Scanner.closeFile]
    cases hclose : o.closeProblem with
    | error x => rfl
    | ok closed =>
        obtain ⟨closed, notices⟩ := closed
        have hnone := Section.problem_of_closeProblem hclose
        simp [Scanner.cells, hnone, Bind.bind, Except.bind, pure, Except.pure]

theorem on_addToProblem_cells (reports : List FileReport) (o : Section) (d : Draft) (t : Token) :
    (addToProblem t d.entry).on
        (Scanner.cells ⟨reports, some { o with problem := some d }⟩ r) =
      (.ok (), Scanner.cells ⟨reports, some { o with problem := some (d.add t) }⟩ r) := by
  obtain ⟨m, v⟩ := t
  obtain ⟨line, message, suggestion, location, ruleId, ruleDocUri, part⟩ := d
  cases m
  case text =>
    cases part
    case location => cases location <;> rfl
    all_goals rfl
  case startPosition | endPosition | lineNumber | columnNumber =>
    cases part
    case location => cases location <;> rfl
    all_goals rfl
  all_goals rfl

/-- Any token but the two that close something is for the open problem. -/
theorem on_feed_inside (c : Cells) (line : Int) {t : Token} (hfile : t.marker ≠ .filePath)
    (hmessage : t.marker ≠ .message) :
    (feed line t).on c =
      match c.problem with
      | none => (.ok (), c)
      | some e => (addToProblem t e).on c := by
  obtain ⟨m, v⟩ := t
  obtain ⟨stage, reports, file, problem, remarks⟩ := c
  cases m
  case filePath => exact absurd rfl hfile
  case message => exact absurd rfl hmessage
  all_goals cases problem <;> rfl

/-- **One token, in the cells and in the scanner.** -/
theorem on_feed_cells (line : Int) (t : Token) :
    (feed line t).on (s.cells r) =
      match s.feed line t with
      | .error x => (.error x, s.cells r)
      | .ok (next, notices) => (.ok (), next.cells (r ++ notices)) := by
  by_cases hfile : t.marker = .filePath
  · obtain ⟨m, v⟩ := t
    obtain rfl : m = .filePath := hfile
    change (openFile v).on _ = _
    rw [on_openFile, on_closeFile_cells]
    simp only [Scanner.feed]
    cases hclose : s.closeFile with
    | error x => rfl
    | ok closed =>
        obtain ⟨⟨reports, current⟩, notices⟩ := closed
        obtain rfl : current = none := Scanner.current_of_closeFile hclose
        rfl
  · by_cases hmessage : t.marker = .message
    · obtain ⟨m, v⟩ := t
      obtain rfl : m = .message := hmessage
      change (openProblem line v).on _ = _
      rw [on_openProblem, on_closeProblem_cells]
      obtain ⟨reports, _ | o⟩ := s
      · rfl
      · simp only [Scanner.feed]
        cases o.closeProblem <;> rfl
    · rw [on_feed_inside _ line hfile hmessage]
      obtain ⟨reports, _ | ⟨path, findings, _ | d⟩⟩ := s
      · obtain ⟨m, v⟩ := t
        cases m <;> simp_all [Scanner.feed, Scanner.cells]
      · rw [feed_inside rfl line hfile hmessage]
        simp [Scanner.cells, Scanner.stage]
      · rw [feed_inside rfl line hfile hmessage]
        dsimp only
        rw [List.append_nil]
        exact on_addToProblem_cells r reports ⟨path, findings, some d⟩ d t

theorem on_finish_cells :
    finish.on (s.cells r) =
      match s.finish with
      | .error x => (.error x, s.cells r)
      | .ok (reports, next, notices) => (.ok reports, next.cells (r ++ notices)) := by
  rw [on_finish, on_closeFile_cells, Scanner.finish]
  cases hclose : s.closeFile with
  | error x => rfl
  | ok closed =>
      obtain ⟨⟨reports, current⟩, notices⟩ := closed
      obtain rfl : current = none := Scanner.current_of_closeFile hclose
      rfl

end Cells

/-! ## Calls -/

/-- What a call does to the scanner. -/
def Scanner.call (s : Scanner) :
    Cells.Call → Except Oversized (Option (List FileReport) × Scanner × List Notice)
  | .feed line t => do
    let (next, notices) ← s.feed line t
    return (none, next, notices)
  | .finish => do
    let (reports, next, notices) ← s.finish
    return (some reports, next, notices)

/-- Where a location is being written, there is one. -/
def Draft.Located (d : Draft) : Prop :=
  d.part = .location → d.location.isSome

/-- So it is for the open problem of the scanner. -/
def Scanner.Located (s : Scanner) : Prop :=
  ∀ o ∈ s.current, ∀ d ∈ o.problem, d.Located

theorem Draft.Located.add {d : Draft} (h : d.Located) (t : Token) : (d.add t).Located := by
  obtain ⟨m, v⟩ := t
  obtain ⟨line, message, suggestion, location, ruleId, ruleDocUri, part⟩ := d
  cases m <;> cases part <;> simp_all [Draft.Located, Draft.add, Draft.addText, Draft.locating]

theorem Scanner.Located.feed {s next : Scanner} {line : Int} {t : Token} {notices : List Notice}
    (h : s.Located) (hfeed : s.feed line t = .ok (next, notices)) : next.Located := by
  by_cases hfile : t.marker = .filePath
  · obtain ⟨m, v⟩ := t
    obtain rfl : m = .filePath := hfile
    obtain ⟨made, -, hnext⟩ := bind_eq_ok_iff.mp hfeed
    cases hnext
    simp [Scanner.Located]
  · cases hs : s.current with
    | none =>
        obtain ⟨notices', hsame⟩ := feed_of_current_none hs line hfile
        cases hsame.symm.trans hfeed
        exact h
    | some o =>
        by_cases hmessage : t.marker = .message
        · obtain ⟨m, v⟩ := t
          obtain rfl : m = .message := hmessage
          simp only [Scanner.feed, hs] at hfeed
          obtain ⟨made, -, hnext⟩ := bind_eq_ok_iff.mp hfeed
          cases hnext
          simp [Scanner.Located, Draft.Located, Draft.opened]
        · rw [feed_inside hs line hfile hmessage] at hfeed
          cases hfeed
          intro o' ho' d' hd'
          obtain rfl := Option.some.inj ho'
          obtain ⟨d, hd, rfl⟩ := Option.map_eq_some_iff.mp hd'
          exact (h o hs d hd).add t

/-- **A call keeps a location where one is being written.** -/
theorem Scanner.Located.call {s next : Scanner} {c : Cells.Call}
    {answer : Option (List FileReport)} {notices : List Notice} (h : s.Located)
    (hcall : s.call c = .ok (answer, next, notices)) : next.Located := by
  cases c with
  | feed line t =>
      obtain ⟨made, hfeed, hnext⟩ := bind_eq_ok_iff.mp hcall
      cases hnext
      exact h.feed hfeed
  | finish =>
      obtain ⟨made, hfinish, hnext⟩ := bind_eq_ok_iff.mp hcall
      cases hnext
      obtain ⟨closed, -, hmade⟩ := bind_eq_ok_iff.mp hfinish
      cases hmade
      simp [Scanner.Located]

namespace Cells

theorem on_run_cells (s : Scanner) (r : List Notice) (call : Call) :
    call.run.on (s.cells r) =
      match s.call call with
      | .error x => (.error x, s.cells r)
      | .ok (answer, next, notices) => (.ok answer, next.cells (r ++ notices)) := by
  cases call with
  | feed line t =>
      simp only [Call.run, Operation.on_bind, on_feed_cells, Scanner.call]
      cases s.feed line t <;> rfl
  | finish =>
      simp only [Call.run, Operation.on_bind, on_finish_cells, Scanner.call]
      cases s.finish <;> rfl

theorem after_concat (c : Cells) (calls : List Call) (call : Call) :
    after c (calls ++ [call]) = (call.run.on (after c calls)).2 := by
  rw [after, List.foldl_append]
  rfl

/-- **The cells always hold a scanner**, whatever has been called and whatever was stopped. -/
theorem exists_scanner (calls : List Call) :
    ∃ s r, s.Located ∧ after {} calls = Scanner.cells s r := by
  induction calls using List.reverseRecOn with
  | nil => exact ⟨{}, [], by simp [Scanner.Located], rfl⟩
  | append_singleton calls call ih =>
      obtain ⟨s, r, hlocated, hcells⟩ := ih
      rw [after_concat, hcells, on_run_cells]
      cases hcall : s.call call with
      | error x => exact ⟨s, r, hlocated, rfl⟩
      | ok made => exact ⟨made.2.1, _, hlocated.call hcall, rfl⟩

/-- What has been remarked before has no part in an answer. -/
theorem answers_cells (s : Scanner) (r r' : List Notice) (calls : List Call) :
    answers (s.cells r) calls = answers (s.cells r') calls := by
  induction calls generalizing s r r' with
  | nil => rfl
  | cons call calls ih =>
      rw [answers, answers, on_run_cells, on_run_cells]
      cases s.call call with
      | error x => exact congrArg _ (ih s r r')
      | ok made => exact congrArg _ (ih made.2.1 _ _)

end Cells

/-! ## Sessions -/

/-- Several tokens in order, and then the reports. -/
def Scanner.session (s : Scanner) : List (Int × Token) → Except Oversized (List FileReport)
  | [] => return (← s.finish).1
  | (line, t) :: rest => do
    let (next, _) ← s.feed line t
    next.session rest

namespace Cells

/-- A session on the cells of a scanner. Once it has ended, the cells are new. -/
theorem on_session_cells (s : Scanner) (r : List Notice) (ts : List (Int × Token)) :
    ∃ c, (session ts).on (s.cells r) = (s.session ts, c) ∧
      ∀ reports, s.session ts = .ok reports → ∃ r', c = { remarks := r' } := by
  induction ts generalizing s r with
  | nil =>
      rw [session, on_finish_cells, Scanner.session, Scanner.finish]
      cases s.closeFile with
      | error x => exact ⟨_, rfl, fun _ h => by cases h⟩
      | ok closed => exact ⟨_, rfl, fun _ _ => ⟨_, rfl⟩⟩
  | cons p ts ih =>
      obtain ⟨line, t⟩ := p
      rw [session, Operation.on_bind, on_feed_cells, Scanner.session]
      cases s.feed line t with
      | error x => exact ⟨_, rfl, fun _ h => by cases h⟩
      | ok made => exact ih made.1 _

/-- Sessions one after the other answer like sessions on new cells each. -/
theorem fst_on_mapM_session (r : List Notice) (sessions : List (List (Int × Token))) :
    ((sessions.mapM session).on { remarks := r }).1 = sessions.mapM (Scanner.session {}) := by
  induction sessions generalizing r with
  | nil => rfl
  | cons ts sessions ih =>
      obtain ⟨c, hran, hnew⟩ := on_session_cells {} r ts
      have hon : (session ts).on { remarks := r } = (Scanner.session {} ts, c) := hran
      rw [List.mapM_cons, List.mapM_cons, Operation.on_bind, hon]
      cases hfirst : Scanner.session {} ts with
      | error x => rfl
      | ok reports =>
          obtain ⟨r', rfl⟩ := hnew reports hfirst
          simp only [Operation.on_bind]
          have hrest := ih r'
          rcases hlater : (sessions.mapM session).on { remarks := r' } with ⟨answer, c'⟩
          rw [hlater] at hrest
          rw [← hrest]
          cases answer <;> rfl

theorem outcome_eq_session (s : Scanner) (ts : List (Nat × Token)) :
    s.outcome ts = s.session (ts.map fun p => (Int.ofNat p.1, p.2)) := by
  induction ts generalizing s with
  | nil => rfl
  | cons p ts ih =>
      obtain ⟨line, t⟩ := p
      rw [outcome_cons, List.map_cons, Scanner.session]
      simp only [ih]
      rfl

theorem reports_parseLines_eq_session (ls : List String) :
    (parseLines ls).reports =
      ((session ((indexedTokens ls).map fun p => (Int.ofNat p.1, p.2))).on {}).1 := by
  obtain ⟨c, hon, -⟩ :=
    on_session_cells {} [] ((indexedTokens ls).map fun p => (Int.ofNat p.1, p.2))
  rw [reports_parseLines, ← outcome_start, outcome_eq_session]
  exact (congrArg Prod.fst hon).symm

/-- The stage, the open section and the open problem fit together. -/
structure InStep (c : Cells) : Prop where
  outside : c.stage = .expectFileHeader ↔ c.file = none
  between : c.stage = .expectProblem ↔ c.file.isSome ∧ c.problem = none
  inside : c.stage ∈ [.inMessage, .inSuggestion, .inLocation, .afterLocation] ↔
    c.problem.isSome ∧ c.file.isSome
  nested : c.problem.isSome → c.file.isSome
  located : c.stage = .inLocation → ∃ e ∈ c.problem, e.location.isSome

theorem inStep_cells {s : Scanner} (h : s.Located) (r : List Notice) : (s.cells r).InStep := by
  obtain ⟨reports, _ | ⟨path, findings, _ | d⟩⟩ := s
  · constructor <;> simp [Scanner.cells, Scanner.stage]
  · constructor <;> simp [Scanner.cells, Scanner.stage]
  · have hd : d.Located := h _ rfl d rfl
    cases hpart : d.part <;> constructor <;>
      simp_all [Scanner.cells, Scanner.stage, Part.stage, Draft.Located, Draft.entry]

/-- **The cells stay in step.** After any calls, those that were stopped included, the stage,
the open section and the open problem fit together. Once `finish` has handed the reports over,
the cells are new and answer as new ones do, so that sessions one after the other give what each
of them gives on its own. -/
theorem cells_stay_in_step (calls : List Call) :
    (after {} calls).InStep ∧
    (∀ reports c, finish.on (after {} calls) = (.ok reports, c) →
      c = { remarks := c.remarks } ∧ ∀ later, answers c later = answers {} later) ∧
    ∀ sessions : List (List (Int × Token)),
      ((sessions.mapM session).on {}).1 = sessions.mapM fun ts => ((session ts).on {}).1 := by
  obtain ⟨s, r, hlocated, hcells⟩ := exists_scanner calls
  refine ⟨?_, ?_, ?_⟩
  · rw [hcells]
    exact inStep_cells hlocated r
  · intro reports c hfinish
    rw [hcells, on_finish_cells, Scanner.finish] at hfinish
    cases hclose : s.closeFile with
    | error x =>
        rw [hclose] at hfinish
        cases hfinish
    | ok closed =>
        rw [hclose] at hfinish
        cases hfinish
        exact ⟨rfl, answers_cells {} _ _⟩
  · intro sessions
    have hown : ∀ ts, ((session ts).on {}).1 = Scanner.session {} ts := by
      intro ts
      obtain ⟨c, hon, -⟩ := on_session_cells {} [] ts
      exact congrArg Prod.fst hon
    simp only [hown]
    exact fst_on_mapM_session [] sessions

end Cells

end LintRelay.Report
