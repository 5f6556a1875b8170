import LintRelay.Linter.Basic
import LintRelay.Proofs.Path
import LintRelay.Proofs.Results

/-!
# What a failed lint tells

A lint passes through two layers that translate failures: the command, where a process that
outlasts its timeout counts as one that ended, and the linter, which tells of every failure of
the system as one of its own. What the outside can do is listed as `Launch.Possible`, and what
is told of it as `Linter.Tells`. Four things are not told but escape: output that is no text, a
timeout that is too long to be a number of seconds or to be written, and a failure of the system
that something else comes up in telling. The main statement is `lint_tells_all_but_escapes`.
-/

namespace LintRelay

/-! ## What the outside can do -/

/-- A failure of the system: a file is not there, or anything else that it refuses. -/
structure Fault.OfSystem (f : Fault) : Prop where
  family : f.family = .missingFile ∨ f.family = .system
  not_exited : ∀ p, f.detail ≠ .exited p

/-- Something comes up in finding the words of a fault, and it is no failure of the linter. -/
def Fault.IsUntellable (f : Fault) : Prop :=
  ∃ fault, f.message = .error fault ∧ ∀ failure, fault.detail ≠ .linter failure

/-- What can become of a process with a timeout. -/
inductive Launch.Possible (timeout : Option Number) : Launch → Prop
  /-- It ends after it wrote any bytes. -/
  | wrote (status : Int) (stdout stderr : List UInt8) :
    Possible timeout (.ofBytes status stdout stderr)
  /-- It ends, and what it wrote is handed over as text, if at all. -/
  | ended (status : Int) (stdout stderr : Option String) :
    Possible timeout (.finished status stdout stderr)
  /-- It outlasts a timeout that is set. -/
  | outlasted {limit : Number} (hlimit : timeout = some limit) (stdout stderr : Option Captured) :
    Possible timeout (.expired stdout stderr)
  /-- The system does not start it. -/
  | refused {f : Fault} (hf : f.OfSystem) : Possible timeout (.refused f)

/-- A system whose processes end, outlast their timeouts, or are not started. Left out are the
processes that are refused before the system is asked: one whose timeout no clock of the system
can count, such as 2147484 seconds or an infinite one, and one with an argument that has a null
character in it. -/
def Machine.Behaves (m : Machine) : Prop :=
  ∀ i, (m.launch i).Possible i.timeout

/-- The status of a process that has ended or was stopped. -/
def Launch.status? : Launch → Option Int
  | .finished status _ _ => some status
  | .expired _ _ => some timeoutStatus
  | .refused _ => none

/-- Bytes that are no text stop the reader before the status is known. -/
theorem Launch.ofBytes_eq (status : Int) (stdout stderr : List UInt8) :
    (∃ out err, outputText? stdout = some out ∧ outputText? stderr = some err ∧
      Launch.ofBytes status stdout stderr = .finished status (some out) (some err)) ∨
    ((outputText? stdout = none ∨ outputText? stderr = none) ∧
      Launch.ofBytes status stdout stderr = .refused (.ofKind "UnicodeDecodeError" [])) := by
  rw [Launch.ofBytes]
  cases outputText? stdout with
  | none => exact .inr ⟨.inl rfl, rfl⟩
  | some out =>
      cases outputText? stderr with
      | none => exact .inr ⟨.inr rfl, rfl⟩
      | some err => exact .inl ⟨out, err, rfl, rfl, rfl⟩

namespace Linter

/-! ## What is told -/

/-- The process that a lint starts. -/
def invocation (l : Linter) (located : List String) : Invocation :=
  { args := located, cwd := l.cwd, environment := none, timeout := l.timeout, discardInput := true }

/-- A lint comes as far as to start a process: the document has a file, and there is an
executable. -/
def Starts (l : Linter) (cwd : Path) (m : Machine) (d : Document) (i : Invocation) : Prop :=
  ∃ path located, target cwd d = .ok path ∧ m.locate (l.command path) = .ok located ∧
    i = l.invocation located

/-- The failure that is told of a process. -/
inductive Blames (l : Linter) (command : List String) : Launch → LinterFailure → Prop
  | missing {f : Fault} {words : String} (hfamily : f.family = .missingFile)
      (hwords : f.message = .ok words) :
    Blames l command (.refused f) { message := words, command }
  | refused {f : Fault} {words : String} (hfamily : f.family = .system)
      (hwords : f.message = .ok words) :
    Blames l command (.refused f)
      { message := "could not launch " ++ l.binary ++ ": " ++ words, command }
  /-- What comes up in telling the failure is itself a failure of the linter. -/
  | raised {f fault : Fault} {failure : LinterFailure}
      (hfamily : f.family = .missingFile ∨ f.family = .system)
      (hwords : f.message = .error fault) (hfault : fault.detail = .linter failure) :
    Blames l command (.refused f) failure
  | exited {status : Int} {reason : String} (stdout stderr : Option String) (hstatus : status ≠ 0)
      (hreason : l.exitReason status = .ok reason) :
    Blames l command (.finished status stdout stderr)
      { message := l.binary ++ " " ++ reason, command, status := some status, stderr }
  | outlasted {limit : Number} {seconds : Float} {reason : String}
      (stdout stderr : Option Captured) (hlimit : l.timeout = some limit)
      (hseconds : limit.toFloat? = some seconds) (hreason : l.exitReason timeoutStatus = .ok reason) :
    Blames l command (.expired stdout stderr)
      { message := l.binary ++ " " ++ reason
        command
        status := some timeoutStatus
        stderr := some (timeoutNote (stderr.map Captured.toText) seconds) }

/-- The words for an executable that is not there. -/
inductive NoExecutable : CommandError → String → Prop
  | notOnPath (name : String) : NoExecutable (.notOnPath name) (CommandError.notOnPathText name)
  | absent (path : String) : NoExecutable (.absent path) (CommandError.absentText path)

/-- The failure that is told of a lint. -/
inductive Tells (l : Linter) (cwd : Path) (m : Machine) (d : Document) : LinterFailure → Prop
  /-- The document has no file. -/
  | rejected {message : String} (htarget : target cwd d = .error { message }) :
    Tells l cwd m d { message }
  /-- There is no executable. -/
  | absent {path : Path} {e : CommandError} {words : String} (htarget : target cwd d = .ok path)
      (hlocate : m.locate (l.command path) = .error e) (hwords : NoExecutable e words) :
    Tells l cwd m d { message := words, command := l.command path }
  /-- A process was started. -/
  | blamed {path : Path} {i : Invocation} {failure : LinterFailure}
      (htarget : target cwd d = .ok path) (hstarts : l.Starts cwd m d i)
      (hblames : l.Blames (l.command path) (m.launch i) failure) :
    Tells l cwd m d failure

/-- What is not told as a failure of the linter. -/
inductive Escapes (l : Linter) : Launch → Prop
  /-- The output is no text. -/
  | unreadable (status : Int) {stdout stderr : List UInt8}
      (htext : outputText? stdout = none ∨ outputText? stderr = none) :
    Escapes l (.ofBytes status stdout stderr)
  /-- The timeout that has passed is too long for a number of seconds. -/
  | endless {limit : Number} (hlimit : l.timeout = some limit) (hseconds : limit.toFloat? = none)
      (stdout stderr : Option Captured) :
    Escapes l (.expired stdout stderr)
  /-- The timeout that has passed is too long to be written. -/
  | unsaid {limit : Number} {launch : Launch} (hlimit : l.timeout = some limit)
      (hwrite : limit.write = .error {}) (hstatus : launch.status? = some timeoutStatus) :
    Escapes l launch
  /-- There are no words for the failure of the system. -/
  | untold {f : Fault} (hfamily : f.family = .missingFile ∨ f.family = .system)
      (hwords : f.IsUntellable) :
    Escapes l (.refused f)

/-! ## From a process to an answer -/

section

variable (l : Linter) (command located : List String)

/-- What a lint makes of a process. -/
def answer (launch : Launch) : Except LintError String :=
  match completedBy located l.timeout launch >>= checkStatus true with
  | .error e => .error (l.failureOf command e)
  | .ok process => .ok (process.stdout.getD "")

theorem answer_finished (status : Int) (stdout stderr : Option String) :
    l.answer command located (.finished status stdout stderr) =
      if status = 0 then .ok (stdout.getD "")
      else .error (l.failureOf command (.exited ⟨located, status, stdout, stderr⟩)) := by
  rw [answer, completedBy]
  by_cases hstatus : status = 0 <;> simp [bind, Except.bind, checkStatus, hstatus]

theorem answer_expired {limit : Number} (hlimit : l.timeout = some limit)
    (stdout stderr : Option Captured) :
    l.answer command located (.expired stdout stderr) =
      match limit.toFloat? with
      | none => .error (.unexpected CommandError.hugeDeadline.toFault)
      | some seconds =>
        .error (l.failureOf command (.exited
          { args := located
            status := timeoutStatus
            stdout := some ((stdout.map Captured.toText).getD "")
            stderr := some (timeoutNote (stderr.map Captured.toText) seconds) })) := by
  rw [answer, completedBy, hlimit, Option.map_some]
  cases limit.toFloat? <;> rfl

theorem answer_refused {f : Fault} (hf : f.OfSystem) :
    l.answer command located (.refused f) = .error (l.failureOf command (.fault f)) := by
  have herror : CommandError.ofFault f = .fault f := by
    rw [CommandError.ofFault]
    split
    · rename_i p hp
      exact absurd hp (hf.not_exited p)
    · rfl
  rw [answer, completedBy, herror]
  rfl

theorem answer_unreadable :
    l.answer command located (.refused (.ofKind "UnicodeDecodeError" [])) =
      .error (.unexpected (.ofKind "UnicodeDecodeError" [])) :=
  rfl

/-- The reason of a failure cannot be given only where it is a timeout that cannot be written. -/
theorem exists_exitReason_error_iff {status : Int} :
    (∃ e, l.exitReason status = .error e) ↔
      ∃ limit, l.timeout = some limit ∧ limit.write = .error {} ∧ status = timeoutStatus := by
  rw [exitReason]
  cases l.timeout with
  | none => simp
  | some limit =>
      by_cases hstatus : status = timeoutStatus
      · cases hwrite : limit.write with
        | error e =>
            obtain rfl : e = {} := rfl
            simp [hstatus, hwrite, Except.map]
        | ok words => simp [hstatus, hwrite, Except.map]
      · simp [hstatus]

/-- The four things that escape, without the bytes. -/
theorem escapes_iff {launch : Launch} :
    l.Escapes launch ↔
      launch = .refused (.ofKind "UnicodeDecodeError" []) ∨
      (∃ limit stdout stderr, l.timeout = some limit ∧ limit.toFloat? = none ∧
        launch = .expired stdout stderr) ∨
      (∃ limit, l.timeout = some limit ∧ limit.write = .error {} ∧
        launch.status? = some timeoutStatus) ∨
      (∃ f : Fault, (f.family = .missingFile ∨ f.family = .system) ∧ f.IsUntellable ∧
        launch = .refused f) := by
  constructor
  · intro h
    cases h with
    | unreadable status htext =>
        rename_i stdout stderr
        rcases Launch.ofBytes_eq status stdout stderr with ⟨out, err, hout, herr, -⟩ | ⟨-, h⟩
        · simp [hout, herr] at htext
        · exact .inl h
    | endless hlimit hseconds stdout stderr =>
        exact .inr (.inl ⟨_, stdout, stderr, hlimit, hseconds, rfl⟩)
    | unsaid hlimit hwrite hstatus => exact .inr (.inr (.inl ⟨_, hlimit, hwrite, hstatus⟩))
    | untold hfamily hwords => exact .inr (.inr (.inr ⟨_, hfamily, hwords, rfl⟩))
  · rintro (rfl | ⟨limit, stdout, stderr, hlimit, hseconds, rfl⟩ |
      ⟨limit, hlimit, hwrite, hstatus⟩ | ⟨f, hfamily, hwords, rfl⟩)
    · -- the byte `FF` stands in no text
      have hnone : outputText? [0xFF] = none := by decide +kernel
      rcases Launch.ofBytes_eq 0 [0xFF] [] with ⟨_, _, h, -, -⟩ | ⟨htext, hlaunch⟩
      · rw [hnone] at h
        cases h
      · rw [← hlaunch]
        exact .unreadable 0 htext
    · exact .endless hlimit hseconds stdout stderr
    · exact .unsaid hlimit hwrite hstatus
    · exact .untold hfamily hwords

theorem escapes_finished_iff {status : Int} {stdout stderr : Option String} :
    l.Escapes (.finished status stdout stderr) ↔ ∃ e, l.exitReason status = .error e := by
  simp [escapes_iff, exists_exitReason_error_iff, Launch.status?]

theorem escapes_expired_iff {limit : Number} {seconds : Float} (hlimit : l.timeout = some limit)
    (hseconds : limit.toFloat? = some seconds) {stdout stderr : Option Captured} :
    l.Escapes (.expired stdout stderr) ↔ ∃ e, l.exitReason timeoutStatus = .error e := by
  simp [escapes_iff, exists_exitReason_error_iff, Launch.status?, hlimit, hseconds]

/-- Bytes that are no text are no failure of the system. -/
theorem escapes_refused_iff {f : Fault} (hf : f.family = .missingFile ∨ f.family = .system) :
    l.Escapes (.refused f) ↔ f.IsUntellable := by
  rw [escapes_iff]
  constructor
  · rintro (h | ⟨_, _, _, _, _, h⟩ | ⟨_, _, _, h⟩ | ⟨_, _, hwords, h⟩)
    · obtain rfl := Launch.refused.inj h
      exact absurd hf (by decide)
    · cases h
    · cases h
    · obtain rfl := Launch.refused.inj h
      exact hwords
  · exact fun hwords => .inr (.inr (.inr ⟨f, hf, hwords, rfl⟩))

theorem not_escapes_finished_zero {stdout stderr : Option String} :
    ¬ l.Escapes (.finished 0 stdout stderr) := by
  rw [escapes_finished_iff, exists_exitReason_error_iff]
  rintro ⟨_, _, _, h⟩
  exact absurd h (by decide)

theorem Blames.not_escapes {launch : Launch} {failure : LinterFailure}
    (h : l.Blames command launch failure) : ¬ l.Escapes launch := by
  cases h with
  | missing hfamily hwords =>
      simp [l.escapes_refused_iff (.inl hfamily), Fault.IsUntellable, hwords]
  | refused hfamily hwords =>
      simp [l.escapes_refused_iff (.inr hfamily), Fault.IsUntellable, hwords]
  | raised hfamily hwords hfault =>
      simp [l.escapes_refused_iff hfamily, Fault.IsUntellable, hwords, hfault]
  | exited stdout stderr hstatus hreason => simp [escapes_finished_iff, hreason]
  | outlasted stdout stderr hlimit hseconds hreason =>
      simp [escapes_expired_iff l hlimit hseconds, hreason]

theorem Blames.unique {launch : Launch} {failure failure' : LinterFailure}
    (h : l.Blames command launch failure) (h' : l.Blames command launch failure') :
    failure = failure' := by
  cases h with
  | missing hfamily hwords =>
      cases h' with
      | missing _ hwords' =>
          obtain rfl := Except.ok.inj (hwords.symm.trans hwords')
          rfl
      | refused hfamily' => exact absurd (hfamily.symm.trans hfamily') (by decide)
      | raised _ hwords' => exact nomatch hwords.symm.trans hwords'
  | refused hfamily hwords =>
      cases h' with
      | missing hfamily' => exact absurd (hfamily.symm.trans hfamily') (by decide)
      | refused _ hwords' =>
          obtain rfl := Except.ok.inj (hwords.symm.trans hwords')
          rfl
      | raised _ hwords' => exact nomatch hwords.symm.trans hwords'
  | raised _ hwords hfault =>
      cases h' with
      | missing _ hwords' => exact nomatch hwords.symm.trans hwords'
      | refused _ hwords' => exact nomatch hwords.symm.trans hwords'
      | raised _ hwords' hfault' =>
          obtain rfl := Except.error.inj (hwords.symm.trans hwords')
          exact FaultDetail.linter.inj (hfault.symm.trans hfault')
  | exited stdout stderr hstatus hreason =>
      cases h' with
      | exited _ _ _ hreason' =>
          obtain rfl := Except.ok.inj (hreason.symm.trans hreason')
          rfl
  | outlasted stdout stderr hlimit hseconds hreason =>
      cases h' with
      | outlasted _ _ hlimit' hseconds' hreason' =>
          obtain rfl := Option.some.inj (hlimit.symm.trans hlimit')
          obtain rfl := Option.some.inj (hseconds.symm.trans hseconds')
          obtain rfl := Except.ok.inj (hreason.symm.trans hreason')
          rfl

/-- A lint answers in one of three ways: with output, with a failure that is told, or with a
fault that escapes. -/
inductive Answered (l : Linter) (command : List String) (launch : Launch) :
    Except LintError String → Prop
  | output (stdout stderr : Option String) (hlaunch : launch = .finished 0 stdout stderr) :
    Answered l command launch (.ok (stdout.getD ""))
  | told {failure : LinterFailure} (hblames : l.Blames command launch failure) :
    Answered l command launch (.error (.failed failure))
  | escaped (fault : Fault) (hescapes : l.Escapes launch) :
    Answered l command launch (.error (.unexpected fault))

theorem answered_exited {launch : Launch} {p : Completed}
    (hescapes : (∃ e, l.exitReason p.status = .error e) → l.Escapes launch)
    (hblames : ∀ reason, l.exitReason p.status = .ok reason →
      l.Blames command launch
        { message := l.binary ++ " " ++ reason
          command
          status := some p.status
          stderr := p.stderr }) :
    l.Answered command launch (.error (l.failureOf command (.exited p))) := by
  rw [failureOf]
  cases hreason : l.exitReason p.status with
  | error e => exact .escaped _ (hescapes ⟨e, hreason⟩)
  | ok reason => exact .told (hblames reason hreason)

theorem answered_finished (status : Int) (stdout stderr : Option String) :
    l.Answered command (.finished status stdout stderr)
      (l.answer command located (.finished status stdout stderr)) := by
  rw [answer_finished]
  by_cases hstatus : status = 0
  · subst hstatus
    exact .output stdout stderr rfl
  · rw [if_neg hstatus]
    exact answered_exited l command l.escapes_finished_iff.mpr
      fun reason => .exited stdout stderr hstatus

theorem answered_expired {limit : Number} (hlimit : l.timeout = some limit)
    (stdout stderr : Option Captured) :
    l.Answered command (.expired stdout stderr)
      (l.answer command located (.expired stdout stderr)) := by
  rw [answer_expired l command located hlimit]
  cases hseconds : limit.toFloat? with
  | none => exact .escaped _ (.endless hlimit hseconds stdout stderr)
  | some seconds =>
      exact answered_exited l command (l.escapes_expired_iff hlimit hseconds).mpr
        fun reason => .outlasted stdout stderr hlimit hseconds

theorem answered_telling {f : Fault} {opening : String}
    (hfamily : f.family = .missingFile ∨ f.family = .system)
    (hblames : ∀ words, f.message = .ok words →
      l.Blames command (.refused f) { message := opening ++ words, command }) :
    l.Answered command (.refused f) (.error (telling command opening f)) := by
  rw [telling]
  cases hwords : f.message with
  | ok words => exact .told (hblames words hwords)
  | error fault =>
      simp only [LintError.ofFault]
      split
      · rename_i failure hfault
        exact .told (.raised hfamily hwords hfault)
      · rename_i hfault
        exact .escaped _ (.untold hfamily ⟨fault, hwords, hfault⟩)

theorem answered_refused {f : Fault} (hf : f.OfSystem) :
    l.Answered command (.refused f) (l.answer command located (.refused f)) := by
  rw [answer_refused l command located hf]
  rcases hf.family with hfamily | hfamily
  · have hfailure : l.failureOf command (.fault f) = telling command "" f := by
      rw [failureOf, hfamily]
    rw [hfailure]
    refine answered_telling l command hf.family fun words hwords => ?_
    rw [String.empty_append]
    exact .missing hfamily hwords
  · have hfailure : l.failureOf command (.fault f) =
        telling command ("could not launch " ++ l.binary ++ ": ") f := by
      rw [failureOf, hfamily]
    rw [hfailure]
    exact answered_telling l command hf.family fun _ => .refused hfamily

theorem answered {launch : Launch} (h : launch.Possible l.timeout) :
    l.Answered command launch (l.answer command located launch) := by
  cases h with
  | wrote status stdout stderr =>
      rcases Launch.ofBytes_eq status stdout stderr with ⟨out, err, -, -, h⟩ | ⟨htext, h⟩
      · rw [h]
        exact answered_finished ..
      · have hescapes := Escapes.unreadable (l := l) status htext
        rw [h] at hescapes
        rw [h, answer_unreadable]
        exact .escaped _ hescapes
  | ended status stdout stderr => exact answered_finished ..
  | outlasted hlimit stdout stderr => exact answered_expired l command located hlimit stdout stderr
  | refused hf => exact answered_refused l command located hf

end

section

variable {l : Linter} {command : List String} {launch : Launch} {result : Except LintError String}
  (h : l.Answered command launch result)

include h in
theorem Answered.eq_ok_iff {out : String} : result = .ok out ↔
    ∃ stdout stderr, launch = .finished 0 stdout stderr ∧ out = stdout.getD "" := by
  constructor
  · rintro rfl
    cases h with
    | output stdout stderr hlaunch => exact ⟨stdout, stderr, hlaunch, rfl⟩
  · rintro ⟨stdout, stderr, rfl, rfl⟩
    cases h with
    | output _ _ hlaunch =>
        cases hlaunch
        rfl
    | told hblames =>
        cases hblames with
        | exited _ _ hstatus => exact absurd rfl hstatus
    | escaped fault hescapes => exact absurd hescapes l.not_escapes_finished_zero

include h in
theorem Answered.eq_failed_iff {failure : LinterFailure} :
    result = .error (.failed failure) ↔ l.Blames command launch failure := by
  constructor
  · rintro rfl
    cases h with
    | told hblames => exact hblames
  · intro hblames
    cases h with
    | output stdout stderr hlaunch =>
        subst hlaunch
        cases hblames with
        | exited _ _ hstatus => exact absurd rfl hstatus
    | told hblames' => rw [hblames'.unique l command hblames]
    | escaped fault hescapes => exact absurd hescapes (hblames.not_escapes l command)

include h in
theorem Answered.eq_unexpected_iff :
    (∃ fault, result = .error (.unexpected fault)) ↔ l.Escapes launch := by
  constructor
  · rintro ⟨fault, rfl⟩
    cases h with
    | escaped _ hescapes => exact hescapes
  · intro hescapes
    cases h with
    | output stdout stderr hlaunch =>
        rw [hlaunch] at hescapes
        exact absurd hescapes l.not_escapes_finished_zero
    | told hblames => exact absurd hescapes (hblames.not_escapes l command)
    | escaped fault => exact ⟨fault, rfl⟩

end

/-! ## From a document to an answer -/

section

variable {l : Linter} (ht : l.timeout.any Number.isNegative = false) {cwd : Path} {m : Machine}
  {d : Document}

/-- A document without a file is rejected with nothing but words. -/
theorem target_eq_error {failure : LinterFailure} (h : target cwd d = .error failure) :
    failure = { message := failure.message } := by
  rw [target] at h
  split at h
  · obtain rfl := Except.error.inj h
    rfl
  · rename_i path _
    cases hresolve : Path.resolve cwd path with
    | error e =>
        rw [hresolve] at h
        obtain rfl := Except.error.inj h
        rfl
    | ok resolved =>
        rw [hresolve] at h
        cases h

theorem isAbsolute_of_target {path : Path} (h : target cwd d = .ok path) :
    path.isAbsolute = true := by
  rw [target] at h
  split at h
  · cases h
  · rw [mapError_eq_ok_iff] at h
    rw [Path.resolve_eq_ok h]
    rfl

theorem lint_of_rejected {failure : LinterFailure} (htarget : target cwd d = .error failure) :
    (l.lint cwd m.run d).started = none ∧
      (l.lint cwd m.run d).result = .error (.failed failure) := by
  simp only [lint, htarget, and_self]

theorem exists_noExecutable {path : Path} {e : CommandError}
    (hlocate : m.locate (l.command path) = .error e) : ∃ words, NoExecutable e words := by
  rw [command, List.cons_append, Machine.locate] at hlocate
  split at hlocate <;> split at hlocate
  · cases hlocate
  · obtain rfl := Except.error.inj hlocate
    exact ⟨_, .absent _⟩
  · cases hlocate
  · obtain rfl := Except.error.inj hlocate
    exact ⟨_, .notOnPath _⟩

include ht in
theorem lint_of_absent {path : Path} {e : CommandError} {words : String}
    (htarget : target cwd d = .ok path) (hlocate : m.locate (l.command path) = .error e)
    (hwords : NoExecutable e words) :
    (l.lint cwd m.run d).started = none ∧
      (l.lint cwd m.run d).result =
        .error (.failed { message := words, command := l.command path }) := by
  have hfailure : l.failureOf (l.command path) e =
      .failed { message := words, command := l.command path } := by
    cases hwords <;> rfl
  simp only [lint, htarget, CommandOptions.withTimeout, ht, Machine.run, hlocate, hfailure]
  exact ⟨rfl, rfl⟩

include ht in
theorem lint_of_located {path : Path} {located : List String} (htarget : target cwd d = .ok path)
    (hlocate : m.locate (l.command path) = .ok located) :
    (l.lint cwd m.run d).started = some (l.invocation located) ∧
      (l.lint cwd m.run d).result =
        l.answer (l.command path) located (m.launch (l.invocation located)) := by
  simp only [lint, htarget, CommandOptions.withTimeout, ht, Machine.run, hlocate]
  exact ⟨rfl, rfl⟩

theorem Starts.unique {i j : Invocation} (hi : l.Starts cwd m d i) (hj : l.Starts cwd m d j) :
    i = j := by
  obtain ⟨path, located, htarget, hlocate, rfl⟩ := hi
  obtain ⟨path', located', htarget', hlocate', rfl⟩ := hj
  obtain rfl := Except.ok.inj (htarget.symm.trans htarget')
  obtain rfl := Except.ok.inj (hlocate.symm.trans hlocate')
  rfl

include ht in
/-- A lint stops before a process is started, and tells why. -/
theorem lint_of_not_starts (h : ∀ i, ¬ l.Starts cwd m d i) :
    (l.lint cwd m.run d).started = none ∧
      ∃ failure, (l.lint cwd m.run d).result = .error (.failed failure) ∧
        ∀ failure', l.Tells cwd m d failure' ↔ failure' = failure := by
  cases htarget : target cwd d with
  | error failure =>
      obtain ⟨hstarted, hresult⟩ := lint_of_rejected (l := l) (m := m) htarget
      refine ⟨hstarted, failure, hresult, fun failure' => ⟨fun htells => ?_, ?_⟩⟩
      · cases htells with
        | rejected hrejected => exact Except.error.inj (hrejected.symm.trans htarget)
        | absent hok => exact nomatch htarget.symm.trans hok
        | blamed hok => exact nomatch htarget.symm.trans hok
      · rintro rfl
        have hfailure := target_eq_error htarget
        rw [hfailure] at htarget ⊢
        exact .rejected htarget
  | ok path =>
      cases hlocate : m.locate (l.command path) with
      | error e =>
          obtain ⟨words, hwords⟩ := exists_noExecutable hlocate
          obtain ⟨hstarted, hresult⟩ := lint_of_absent ht htarget hlocate hwords
          refine ⟨hstarted, _, hresult, fun failure' => ⟨fun htells => ?_, ?_⟩⟩
          · cases htells with
            | rejected hrejected => exact nomatch htarget.symm.trans hrejected
            | absent hok hnone hwords' =>
                obtain rfl := Except.ok.inj (htarget.symm.trans hok)
                obtain rfl := Except.error.inj (hlocate.symm.trans hnone)
                cases hwords <;> cases hwords' <;> rfl
            | blamed _ hstarts => exact absurd hstarts (h _)
          · rintro rfl
            exact .absent htarget hlocate hwords
      | ok located => exact absurd ⟨path, located, htarget, hlocate, rfl⟩ (h _)

include ht in
/-- A lint that starts a process answers for what becomes of it. -/
theorem lint_of_starts (hm : m.Behaves) {i : Invocation} (h : l.Starts cwd m d i) :
    (l.lint cwd m.run d).started = some i ∧
      ∃ command, l.Answered command (m.launch i) (l.lint cwd m.run d).result ∧
        ∀ failure, l.Tells cwd m d failure ↔ l.Blames command (m.launch i) failure := by
  obtain ⟨path, located, htarget, hlocate, rfl⟩ := h
  obtain ⟨hstarted, hresult⟩ := lint_of_located ht htarget hlocate
  refine ⟨hstarted, l.command path, ?_, fun failure => ⟨fun h => ?_, fun h => ?_⟩⟩
  · rw [hresult]
    exact l.answered _ _ (hm (l.invocation located))
  · cases h with
    | rejected h => exact nomatch htarget.symm.trans h
    | absent h hnone =>
        obtain rfl := Except.ok.inj (htarget.symm.trans h)
        rw [hlocate] at hnone
        cases hnone
    | blamed h hstarts hblames =>
        obtain rfl := Except.ok.inj (htarget.symm.trans h)
        obtain rfl := hstarts.unique ⟨_, located, htarget, hlocate, rfl⟩
        exact hblames
  · exact .blamed htarget ⟨path, located, htarget, hlocate, rfl⟩ h

end

/-- Every failure of the outside is told as a failure of the linter, with its command on an
absolute path, its status and its error output, except for output that is no text, for a
timeout that has passed and is too long for a number of seconds or too long to be written, and for
a failure of the system that cannot be told. Output comes of a process that ends with status 0 and
of nothing else, and a process is started exactly if the document has a file and there is an
executable.

`Machine.Behaves` leaves out what is refused before the system is asked to start a process: a
timeout above 2147483 seconds or an infinite one, and arguments with a null character. Those come
up as faults that are none of the system, and escape too. -/
theorem lint_tells_all_but_escapes (l : Linter) (ht : l.timeout.any Number.isNegative = false)
    (cwd : Path) (m : Machine) (hm : m.Behaves) (d : Document) :
    (∀ path, target cwd d = .ok path → path.isAbsolute = true) ∧
    (∀ out, (l.lint cwd m.run d).result = .ok out ↔
      ∃ i stdout stderr, l.Starts cwd m d i ∧ m.launch i = .finished 0 stdout stderr ∧
        out = stdout.getD "") ∧
    (∀ failure, (l.lint cwd m.run d).result = .error (.failed failure) ↔
      l.Tells cwd m d failure) ∧
    ((∃ fault, (l.lint cwd m.run d).result = .error (.unexpected fault)) ↔
      ∃ i, l.Starts cwd m d i ∧ l.Escapes (m.launch i)) ∧
    (∀ i, (l.lint cwd m.run d).started = some i ↔ l.Starts cwd m d i) := by
  refine ⟨fun _ => isAbsolute_of_target, ?_⟩
  by_cases h : ∃ i, l.Starts cwd m d i
  · obtain ⟨i, hstarts⟩ := h
    -- no other process can be started, so every part is about this one
    have hunique (j : Invocation) : l.Starts cwd m d j ↔ j = i :=
      ⟨fun hj => hj.unique hstarts, fun hj => hj ▸ hstarts⟩
    obtain ⟨hstarted, command, hanswer, htells⟩ := lint_of_starts ht hm hstarts
    simp only [hunique, htells, hstarted, hanswer.eq_ok_iff, hanswer.eq_failed_iff,
      hanswer.eq_unexpected_iff]
    simp [eq_comm]
  · simp only [not_exists] at h
    obtain ⟨hstarted, failure, hresult, htells⟩ := lint_of_not_starts ht h
    simp only [hstarted, hresult, htells]
    simp [h, eq_comm]

/-- A system on which every process writes the byte `FF` as an error, and ends with status 1
unless there is a timeout to stop it first. -/
def garbling : Machine where
  which name := some ("/usr/bin/" ++ name)
  fileExists _ := false
  launch i :=
    match i.timeout with
    | some _ => .expired none (some (.bytes [0xFF]))
    | none => .ofBytes 1 [] [0xFF]

theorem garbling_behaves : garbling.Behaves := by
  rintro ⟨args, cwd, environment, timeout, discardInput⟩
  cases timeout with
  | none => exact .wrote 1 [] [0xFF]
  | some limit => exact .outlasted rfl _ _

/-- A process that is not stopped is started, and its output is no failure of the linter but
escapes. -/
theorem lint_tells_all_but_escapes_garbling :
    ({} : Linter).timeout.any Number.isNegative = false ∧ garbling.Behaves ∧
    (({} : Linter).lint (Path.ofString "/work") garbling.run ⟨"/w/a.proto", "", 0⟩).started =
      some (({} : Linter).invocation ["/usr/bin/api-linter", "/w/a.proto"]) ∧
    ∃ fault, (({} : Linter).lint (Path.ofString "/work") garbling.run
      ⟨"/w/a.proto", "", 0⟩).result = .error (.unexpected fault) := by
  obtain ⟨-, -, -, hescapes, hstarted⟩ := lint_tells_all_but_escapes {} rfl (Path.ofString "/work")
    garbling garbling_behaves ⟨"/w/a.proto", "", 0⟩
  have hstarts : ({} : Linter).Starts (Path.ofString "/work") garbling ⟨"/w/a.proto", "", 0⟩
      (({} : Linter).invocation ["/usr/bin/api-linter", "/w/a.proto"]) :=
    ⟨⟨.slash, ["w", "a.proto"]⟩, _, rfl, rfl, rfl⟩
  exact ⟨rfl, garbling_behaves, (hstarted _).mpr hstarts,
    hescapes.mpr ⟨_, hstarts, .unreadable 1 (.inr (by decide +kernel))⟩⟩

end Linter

end LintRelay
