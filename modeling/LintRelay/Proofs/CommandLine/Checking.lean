import LintRelay.Proofs.CommandLine.Writing
import LintRelay.Proofs.Config.Precedence
import LintRelay.Proofs.Validation.Failing

/-!
# Checking a file

A check loads the configuration, reads the file and runs one pass over it on its own. Once the
file is read and the parts are put together, the linter's answer alone decides how the check
ends and what it writes.
-/

namespace LintRelay.CommandLine

/-- A configuration is loaded for a check, and its file is read as a document. -/
structure Reads (w : World) (o : CheckOptions) (c : Config) (d : Document) : Prop where
  config : Config.load w.room w.files w.environment w.cwd (o.config.map Path.ofString) = .ok c
  file : ∃ target bytes,
    (Path.ofString o.file).expandHome w.home >>= w.cwd.resolve = .ok target ∧
    w.files target = some (.file bytes) ∧ fileText? bytes = some d.text ∧
    Uri.ofPath w.cwd target = .ok d.uri
  version : d.version = 0

/-- What the linter of a configuration answers for a document. -/
def World.lintAnswer (w : World) (c : Config) (d : Document) : Except LintError String :=
  ((c.linter.build (some w.cwd.render)).lint w.cwd w.machine.run d).result

/-- The parts that a configuration describes can be put together. -/
def CanBuild (c : Config) : Prop :=
  ∃ service orchestrator, c.suggestions.build = .ok service ∧
    c.orchestrator false service.isSome = .ok orchestrator

/-- The set that is published when the linter fails: an empty one, if any. -/
def clearedSets (c : Config) (d : Document) : List Publication :=
  match c.validation.onLinterFailure with
  | .clear => [⟨d.uri, []⟩]
  | .keepStale => []

/-- How the check of a document ends: what it writes after a header, and its status. -/
inductive Checked (w : World) (o : CheckOptions) (c : Config) (d : Document)
    (header : List Block) (r : Run) : Prop
  /-- The parts cannot be put together. -/
  | unbuilt (hbuild : ¬ CanBuild c) (hstatus : r.status = 1) (hfailure : r.failure.isSome)
      (houtput : r.output = header)
  /-- The linter fails, and the check says so. -/
  | failed (failure : LinterFailure) (details : List Block) (hbuild : CanBuild c)
      (hanswer : w.lintAnswer c d = .error (.failed failure)) (hstatus : r.status = 1)
      (hfailure : r.failure = none)
      (houtput : r.output = header ++ (clearedSets c d).flatMap o.written ++
        o.line w .failure ("api-linter failed: " ++ failure.message) :: details)
      (hdetails : o.json → details = [])
  /-- The linter breaks off, or its output cannot be read. -/
  | broken (hbuild : CanBuild c) (hanswer : ∀ failure, w.lintAnswer c d ≠ .error (.failed failure))
      (hunread : ∀ output reports, w.lintAnswer c d = .ok output →
        (Report.parse output).reports ≠ .ok reports)
      (hstatus : r.status = 1) (hfailure : r.failure.isSome) (houtput : r.output = header)
  /-- There are findings, and no words for why the service has no suggestion for one. -/
  | unenriched (output : String) (reports : List FileReport) (f : Finding) (hbuild : CanBuild c)
      (hanswer : w.lintAnswer c d = .ok output)
      (hread : (Report.parse output).reports = .ok reports)
      (hfinding : f ∈ d.findings reports) (hstatus : r.status = 1) (hfailure : r.failure.isSome)
      (houtput : r.output = header)
  /-- The findings of the linter's output are shown. -/
  | shown (output : String) (reports : List FileReport) (set : List Diagnostic)
      (blocks lines : List Block) (hbuild : CanBuild c) (hanswer : w.lintAnswer c d = .ok output)
      (hread : (Report.parse output).reports = .ok reports)
      (hset : set.length = (d.findings reports).length)
      (hblocks : o.blocks ⟨d.uri, set⟩ = .ok blocks)
      (hstatus : r.status = if set = [] then 0 else 1) (hfailure : r.failure = none)
      (houtput : r.output = header ++ blocks ++ lines)
      (hlines : o.json → lines = [])

/-- The orchestrator of a configuration has published nothing, follows its policy, and has no
settings to fetch. -/
theorem of_orchestrator {c : Config} {suggestions : Bool} {orchestrator : Orchestrator}
    (h : c.orchestrator false suggestions = .ok orchestrator) :
    orchestrator.shared.board.history.events = [] ∧
      orchestrator.context.onLinterFailure = c.validation.onLinterFailure ∧
      orchestrator.shared.settings.hasProvider = false := by
  unfold Config.orchestrator at h
  split at h
  · cases h
  · obtain rfl := Except.ok.inj h
    exact ⟨rfl, rfl, rfl⟩

section

variable (w : World) (o : CheckOptions) (c : Config) (d : Document) (header : List Block)

theorem conclusion_of_failure (uri : String) (failure : LinterFailure) {status : PassStatus}
    (h : status = .linterFailed ∨ status = .cleared) :
    ∃ details, conclusion w o ⟨uri, status, [], some failure⟩ =
      (1, o.line w .failure ("api-linter failed: " ++ failure.message) :: details) ∧
        (o.json → details = []) := by
  rcases h with rfl | rfl
  all_goals
    refine ⟨_, rfl, fun hjson => ?_⟩
    split <;> simp [hjson]

theorem conclusion_of_published (uri : String) (set : List Diagnostic) :
    ∃ lines, conclusion w o ⟨uri, .published, set, none⟩ = (if set = [] then 0 else 1, lines) ∧
      (o.json → lines = []) := by
  cases set with
  | nil => exact ⟨_, rfl, fun hjson => if_pos hjson⟩
  | cons x xs => exact ⟨_, rfl, fun hjson => if_pos hjson⟩

/-- What a check adds to its output for the result of its pass, its status, and why it breaks
off. -/
def concluded (w : World) (o : CheckOptions) :
    Except PassError PassOutcome → Nat × List Block × Option Failure
  | .ok outcome => ((conclusion w o outcome).1, (conclusion w o outcome).2, none)
  | .error e => (1, [], some ⟨e.fault.kind, e.fault.message.toOption⟩)

theorem checkDocument_of_result {service : Option CompletionService} {orchestrator : Orchestrator}
    (hservice : c.suggestions.build = .ok service)
    (horchestrator : c.orchestrator false service.isSome = .ok orchestrator)
    {result : Except PassError PassOutcome} {sent : List Publication}
    (hresult : (orchestrator.validate o.sink
      (collaborators w (c.linter.build (some w.cwd.render)) service) d).pass.result? = some result)
    (hsent : (orchestrator.validate o.sink
      (collaborators w (c.linter.build (some w.cwd.render)) service) d).shared.board.history.events
        = sent) :
    let r := checkDocument w o c d header
    r.status = (concluded w o result).1 ∧
      r.output = header ++ sent.flatMap o.written ++ (concluded w o result).2.1 ∧
      r.failure = (concluded w o result).2.2 := by
  simp only [checkDocument, hservice, horchestrator, hresult, hsent]
  cases result <;> exact ⟨rfl, rfl, rfl⟩

theorem checked_of_unbuilt {e : BuildError} (hbuild : ¬ CanBuild c)
    (hrun : checkDocument w o c d header = .brokenOff header "ValueError" e.message) :
    Checked w o c d header (checkDocument w o c d header) := by
  rw [hrun]
  exact .unbuilt hbuild rfl rfl rfl

section

variable {service : Option CompletionService} {orchestrator : Orchestrator}
  (hservice : c.suggestions.build = .ok service)
  (horchestrator : c.orchestrator false service.isSome = .ok orchestrator)

include hservice horchestrator

/-- No provider can hold the pass up and the sink takes what was read, so it comes to its end. -/
theorem checked_of_read {output : String} {reports : List FileReport}
    (hanswer : w.lintAnswer c d = .ok output) (hread : (Report.parse output).reports = .ok reports) :
    Checked w o c d header (checkDocument w o c d header) := by
  have hbuild : CanBuild c := ⟨service, orchestrator, hservice, horchestrator⟩
  obtain ⟨hnone, -, hprovider⟩ := of_orchestrator horchestrator
  obtain ⟨result, hcomes, hresult, hsent⟩ := orchestrator.validate_comesTo
    (c := collaborators w (c.linter.build (some w.cwd.render)) service) (d := d)
    hanswer hread (fun _ hdue => sink_eq_none_of_isDue hread hdue)
    (SettingsRead.isFree_of_unprovided hprovider d.uri)
  rw [hnone] at hsent
  obtain ⟨hstatus, houtput, hfailure⟩ :=
    checkDocument_of_result w o c d header hservice horchestrator hresult hsent
  cases hcomes with
  | @published set hdue =>
      obtain ⟨s, -, hshows⟩ := hdue
      obtain ⟨blocks, hblocks⟩ : ∃ blocks, o.blocks ⟨d.uri, set⟩ = .ok blocks :=
        exists_blocks (hshows.isWritable (Document.isWritable_of_mem_findings hread))
      obtain ⟨lines, hconclusion, hlines⟩ := conclusion_of_published w o d.uri set
      simp only [concluded, hconclusion] at hstatus houtput
      refine .shown output reports set blocks lines hbuild hanswer hread hshows.length hblocks
        hstatus hfailure ?_ hlines
      simpa [Pass.Point.sent, CheckOptions.written, hblocks, Except.toOption] using houtput
  | unsettled hasks => exact absurd hasks (SettingsCache.not_asks_of_unprovided hprovider d.uri)
  | unenriched s hf _ _ =>
      refine .unenriched output reports _ hbuild hanswer hread (List.mem_of_mem_take hf) hstatus
        ?_ ?_
      · rw [hfailure]
        rfl
      · simpa [Pass.Point.sent, concluded] using houtput

theorem checked_of_fails {result : Except PassError PassOutcome} {sent : List Publication}
    (hfails : d.Fails orchestrator.context (w.lintAnswer c d) result sent) :
    Checked w o c d header (checkDocument w o c d header) := by
  have hbuild : CanBuild c := ⟨service, orchestrator, hservice, horchestrator⟩
  obtain ⟨hnone, hpolicy, hprovider⟩ := of_orchestrator horchestrator
  have hsink : o.sink ⟨d.uri, []⟩ = none := sink_eq_none (by simp)
  obtain ⟨hresult, hsent⟩ := orchestrator.validate_fails
    (c := collaborators w (c.linter.build (some w.cwd.render)) service) hfails hsink
    (SettingsRead.isFree_of_unprovided hprovider d.uri)
    fun h => absurd h (SettingsCache.not_asks_of_unprovided hprovider d.uri)
  rw [hnone, List.nil_append] at hsent
  obtain ⟨hstatus, houtput, hfailure⟩ :=
    checkDocument_of_result w o c d header hservice horchestrator hresult hsent
  generalize hanswer : w.lintAnswer c d = answer at hfails
  cases hfails with
  | cleared failure h =>
      obtain ⟨details, hconclusion, hdetails⟩ :=
        conclusion_of_failure w o d.uri failure (.inr rfl)
      have hsets : clearedSets c d = [⟨d.uri, []⟩] := by rw [clearedSets, ← hpolicy, h]
      simp only [concluded, hconclusion, ← hsets] at hstatus houtput
      exact .failed failure details hbuild hanswer hstatus hfailure houtput hdetails
  | kept failure h =>
      obtain ⟨details, hconclusion, hdetails⟩ :=
        conclusion_of_failure w o d.uri failure (.inl rfl)
      have hsets : clearedSets c d = [] := by rw [clearedSets, ← hpolicy, h]
      simp only [concluded, hconclusion, ← hsets] at hstatus houtput
      exact .failed failure details hbuild hanswer hstatus hfailure houtput hdetails
  | broken fault =>
      refine .broken hbuild (by simp [hanswer]) (by simp [hanswer]) hstatus ?_ ?_
      · rw [hfailure]
        rfl
      · simpa [concluded] using houtput
  | unreadable hread =>
      refine .broken hbuild (by simp [hanswer]) ?_ hstatus ?_ ?_
      · rintro output reports hanswer' hread'
        obtain rfl := Except.ok.inj (hanswer.symm.trans hanswer')
        cases hread.symm.trans hread'
      · rw [hfailure]
        rfl
      · simpa [concluded] using houtput

end

/-- **The linter's answer decides how a check ends.** -/
theorem checked_checkDocument : Checked w o c d header (checkDocument w o c d header) := by
  cases hservice : c.suggestions.build with
  | error e =>
      refine checked_of_unbuilt w o c d header (e := e) ?_ (by simp only [checkDocument, hservice])
      rintro ⟨service, orchestrator, hservice', -⟩
      cases hservice.symm.trans hservice'
  | ok service =>
  cases horchestrator : c.orchestrator false service.isSome with
  | error e =>
      refine checked_of_unbuilt w o c d header (e := e) ?_
        (by simp only [checkDocument, hservice, horchestrator])
      rintro ⟨service', orchestrator, hservice', horchestrator'⟩
      cases hservice.symm.trans hservice'
      cases horchestrator.symm.trans horchestrator'
  | ok orchestrator =>
  rcases d.reads_or_fails orchestrator.context (w.lintAnswer c d) with
    ⟨output, reports, hanswer, hread⟩ | ⟨result, sent, hfails⟩
  · exact checked_of_read w o c d header hservice horchestrator hanswer hread
  · exact checked_of_fails w o c d header hservice horchestrator hfails

end

section

variable {w : World} {o : CheckOptions} {c : Config} {d : Document}

/-- A check whose configuration is loaded and whose file is read comes to its document, below a
header unless it writes JSON. Only the header can break it off before. -/
theorem check_of_reads (h : Reads w o c d) :
    (o.json = true → check w o = checkDocument w o (o.override c) d []) ∧
      (o.json = false →
        ∀ header, Console.header ("api-linter " ++ o.fileName) o.colour w.terminal = header →
          (∀ e, header.fault = some e →
            check w o = .brokenOff [.text header.text] e.kind e.message) ∧
          (header.fault = none →
            check w o = checkDocument w o (o.override c) d [.text header.text])) := by
  obtain ⟨target, bytes, htarget, hfile, htext, huri⟩ := h.file
  have hcheck : check w o = checkFile w o (o.override c) target := by
    rw [check, h.config]
    dsimp only
    rw [htarget]
  obtain ⟨uri, text, version⟩ := d
  obtain rfl : version = 0 := h.version
  rw [hcheck, checkFile, hfile]
  refine ⟨fun hjson => ?_, ?_⟩
  · simp only [htext, huri, hjson, if_true]
  · rintro hjson header rfl
    refine ⟨fun e hfault => ?_, fun hfault => ?_⟩
    · simp only [htext, huri, hjson, hfault, Bool.false_eq_true, if_false]
    · simp only [htext, huri, hjson, hfault, Bool.false_eq_true, if_false]

end

/-! ## A small world -/

/-- Two empty files, one of them named by a bracket in a directory named by one. -/
def smallFiles : Files := fun p =>
  if p ∈ [⟨.slash, ["w", "a.proto"]⟩, ⟨.slash, ["w", "[", "]"]⟩] then some (.file []) else none

/-- A world with these files, where every process comes to the same end. -/
def smallWorld (launch : Launch) : World where
  cwd := ⟨.slash, ["w"]⟩
  files := smallFiles
  home _ := none
  environment _ := none
  machine := ⟨fun name => some ("/bin/" ++ name), fun _ => false, fun _ => launch⟩
  transport _ := .error default
  input := ""
  whole? := Schema.wholeNumber?
  room := .ample
  depth := 988

section

variable (launch : Launch) {o : CheckOptions}

/-- There are no settings in that world, so that it has the default ones. -/
theorem load_smallWorld (hconfig : o.config = none) :
    Config.load (smallWorld launch).room (smallWorld launch).files (smallWorld launch).environment
      (smallWorld launch).cwd (o.config.map Path.ofString) = .ok {} := by
  have hproject : smallFiles (projectFile ⟨.slash, ["w"]⟩) = none := by decide +kernel
  have hsettings : smallFiles (settingsFile ⟨.slash, ["w"]⟩) = none := by decide +kernel
  rw [hconfig]
  exact Config.load_of_no_files Config.Room.holdsDefaults_ample hproject hsettings _

end

end LintRelay.CommandLine
