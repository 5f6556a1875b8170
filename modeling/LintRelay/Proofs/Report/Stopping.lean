import LintRelay.Proofs.Report.Cells
import LintRelay.Proofs.Text.Trimming

/-!
# Calls that are stopped

Only a call that closes a problem can be stopped, by a coordinate of that problem's location.
Nothing has been written then. A new location makes room for the same call, and takes the
problem nothing but its range.
-/

namespace LintRelay.Report

open LintRelay.Text LintRelay.Decimal

namespace Cells

/-- The location of the open problem holds a coordinate with too many digits. -/
def Blocked (c : Cells) (x : Oversized) : Prop :=
  ∃ f e, c.file = some f ∧ c.problem = some e ∧ e.build = .error x

section

variable {α β : Type} {m : Operation α} {f : α → Operation β}

/-! ## Operations that are not stopped -/

def Goes (m : Operation α) : Prop :=
  ∀ c, ∃ a c', m.on c = (.ok a, c')

theorem goes_pure (a : α) : Goes (pure a) :=
  fun c => ⟨a, c, rfl⟩

theorem goes_get : Goes get :=
  fun c => ⟨c, c, rfl⟩

theorem goes_set (c' : Cells) : Goes (set c') :=
  fun _ => ⟨(), c', rfl⟩

theorem goes_modify (g : Cells → Cells) : Goes (modify g) :=
  fun c => ⟨(), g c, rfl⟩

theorem Goes.bind (hm : Goes m) (hf : ∀ a, Goes (f a)) : Goes (m >>= f) := by
  intro c
  obtain ⟨a, c', hon⟩ := hm c
  rw [Operation.on_bind, hon]
  exact hf a c'

theorem goes_write_enter (e : Entry) (stage : Stage) : Goes (do write e; enter stage) :=
  (goes_modify _).bind fun _ => goes_modify _

theorem goes_addLocation (e : Entry) (t : Token) : Goes (addLocation e t) := by
  refine goes_get.bind fun c => ?_
  split
  · exact goes_modify _
  · exact goes_pure _

theorem goes_addText (e : Entry) (text : String) : Goes (addText e text) := by
  refine goes_get.bind fun c => ?_
  split
  · exact goes_modify _
  · exact goes_modify _
  · exact goes_addLocation e _

theorem goes_addToProblem (t : Token) (e : Entry) : Goes (addToProblem t e) := by
  rw [addToProblem]
  split
  · exact goes_pure _
  · exact goes_pure _
  · exact goes_pure _
  · exact goes_write_enter _ _
  · exact goes_write_enter _ _
  · exact goes_addLocation e t
  · exact goes_addLocation e t
  · exact goes_addLocation e t
  · exact goes_addLocation e t
  · exact goes_write_enter _ _
  · exact goes_write_enter _ _
  · exact goes_addText e _

/-! ## Operations that are stopped at once -/

/-- Only the location of the open problem can stop the operation, and then nothing has been
written. -/
def StopsAtOnce (m : Operation α) : Prop :=
  ∀ c x c', m.on c = (.error x, c') → c' = c ∧ c.Blocked x

/-- **What can be stopped comes first**, and the rest goes on. -/
theorem StopsAtOnce.bind (hm : StopsAtOnce m) (hf : ∀ a, Goes (f a)) : StopsAtOnce (m >>= f) := by
  intro c x c' hon
  rw [Operation.on_bind] at hon
  split at hon
  next a c'' hfirst =>
    exact absurd hon fun hstop => by
      obtain ⟨b, c₃, hgoes⟩ := hf a c''
      rw [hgoes] at hstop
      cases hstop
  next y c'' hfirst =>
    cases hon
    exact hm c x c' hfirst

end

theorem stopsAtOnce_closeProblem : StopsAtOnce closeProblem := by
  intro c x c' h
  rw [on_closeProblem] at h
  split at h
  next e f he hf =>
    split at h
    next y hbuild =>
      cases h
      exact ⟨rfl, f, e, hf, he, hbuild⟩
    next => cases h
  next => cases h

theorem stopsAtOnce_closeFile : StopsAtOnce closeFile := by
  refine stopsAtOnce_closeProblem.bind fun _ => ?_
  refine goes_get.bind fun c => ?_
  split
  · exact (goes_modify _).bind fun _ => goes_modify _
  · exact goes_modify _

theorem stopsAtOnce_openFile (filePath : String) : StopsAtOnce (openFile filePath) :=
  stopsAtOnce_closeFile.bind fun _ => (goes_modify _).bind fun _ => goes_modify _

theorem stopsAtOnce_openProblem (line : Int) (message : String) :
    StopsAtOnce (openProblem line message) := by
  refine stopsAtOnce_closeProblem.bind fun _ => ?_
  refine goes_get.bind fun c => ?_
  split
  · exact (goes_modify _).bind fun _ => goes_modify _
  · exact goes_write_enter _ _

theorem stopsAtOnce_finish : StopsAtOnce finish :=
  stopsAtOnce_closeFile.bind fun _ => (goes_modify _).bind fun _ =>
    goes_get.bind fun _ => (goes_set _).bind fun _ => goes_pure _

/-- Any token but the two that close something is always taken. -/
theorem goes_feed_inside (line : Int) {t : Token} (hfile : t.marker ≠ .filePath)
    (hmessage : t.marker ≠ .message) : Goes (feed line t) := by
  intro c
  rw [on_feed_inside c line hfile hmessage]
  cases c.problem with
  | none => exact ⟨_, _, rfl⟩
  | some e => exact goes_addToProblem t e c

/-! ## Calls -/

/-- What a call that closes a problem answers and leaves, where `reports` are those closed before
it and `f` is the section with the finding of that problem. -/
def Call.closing? (reports : List FileReport) (f : FileReport) (remarks : List Notice) :
    Call → Option (Option (List FileReport) × Cells)
  | .finish => some (some (reports ++ [f]), { remarks })
  | .feed line t =>
    match t.marker with
    | .filePath => some (none,
        { stage := .expectProblem
          reports := reports ++ [f]
          file := some { filePath := t.value }
          remarks })
    | .message => some (none,
        { stage := .inMessage
          reports
          file := some f
          problem := some (.opened line t.value)
          remarks })
    | _ => none

/-- **A call is stopped before it has written anything, or it goes.** -/
theorem Call.stopsAtOnce_or_goes (call : Call) :
    (StopsAtOnce call.run ∧ ∀ reports f remarks, (call.closing? reports f remarks).isSome) ∨
      Goes call.run := by
  cases call with
  | finish => exact .inl ⟨stopsAtOnce_finish.bind fun _ => goes_pure _, fun _ _ _ => rfl⟩
  | feed line t =>
      obtain ⟨m, v⟩ := t
      by_cases hfile : m = .filePath
      · subst hfile
        exact .inl ⟨(stopsAtOnce_openFile v).bind fun _ => goes_pure _, fun _ _ _ => rfl⟩
      · by_cases hmessage : m = .message
        · subst hmessage
          exact .inl ⟨(stopsAtOnce_openProblem line v).bind fun _ => goes_pure _, fun _ _ _ => rfl⟩
        · exact .inr ((goes_feed_inside line hfile hmessage).bind fun _ => goes_pure _)

section

variable {c : Cells} {f : FileReport} {e : Entry}

theorem on_feed_location (he : c.problem = some e) (line : Int) (value : String) :
    (feed line ⟨.location, value⟩).on c =
      (.ok (), { c with stage := .inLocation, problem := some { e with location := some [] } }) := by
  rw [on_feed_inside c line Marker.noConfusion Marker.noConfusion, he]
  rfl

/-- A problem with a new location gets the zero range. -/
theorem on_closeProblem_located (hf : c.file = some f)
    (he : c.problem = some { e with location := some [] }) :
    closeProblem.on c = (.ok (), { c with
      file := some { f with findings := f.findings ++ [e.findingAt Range.zero] }
      problem := none
      remarks := c.remarks ++ [.zeroRange e.line (.layout [])] }) := by
  rw [on_closeProblem, he, hf]
  rfl

/-- **A call that closes a problem with a new location** is not stopped. -/
theorem Call.on_run_located {call : Call} {answer : Option (List FileReport)} {c' : Cells}
    (hf : c.file = some f) (he : c.problem = some { e with location := some [] })
    (hclosing : call.closing? c.reports { f with findings := f.findings ++ [e.findingAt Range.zero] }
      (c.remarks ++ [.zeroRange e.line (.layout [])]) = some (answer, c')) :
    call.run.on c = (.ok answer, c') := by
  have hclose := on_closeProblem_located hf he
  cases call with
  | finish =>
      cases hclosing
      rw [Call.run, Operation.on_bind, on_finish, on_closeFile, hclose]
      simp
  | feed line t =>
      obtain ⟨m, v⟩ := t
      by_cases hfile : m = .filePath
      · subst hfile
        cases hclosing
        change (openFile v >>= fun _ => pure none).on c = _
        rw [Operation.on_bind, on_openFile, on_closeFile, hclose]
        simp
      · by_cases hmessage : m = .message
        · subst hmessage
          cases hclosing
          change (openProblem line v >>= fun _ => pure none).on c = _
          rw [Operation.on_bind, on_openProblem, hclose]
          simp
        · cases m <;> simp_all [Call.closing?]

end

/-- **A stopped call changes nothing.** After any calls, a call that a coordinate stops leaves the
cells as they were. A new location then makes room for the same call: it closes the problem as
it stood, at the zero range, and leaves all else as it was gathered before. -/
theorem stopped_call_changes_nothing {calls : List Call} {call : Call} {x : Oversized}
    (h : (call.run.on (after {} calls)).1 = .error x) :
    after {} (calls ++ [call]) = after {} calls ∧
    ∃ f e, (after {} calls).file = some f ∧ (after {} calls).problem = some e ∧
      ∀ line value, ∃ answer c,
        ((Call.feed line ⟨.location, value⟩).run.on (after {} (calls ++ [call]))).1 = .ok none ∧
        call.run.on (after {} (calls ++ [call, .feed line ⟨.location, value⟩])) =
          (.ok answer, c) ∧
        call.closing? (after {} calls).reports
          { f with findings := f.findings ++ [e.findingAt Range.zero] }
          ((after {} calls).remarks ++ [.zeroRange e.line (.layout [])]) = some (answer, c) := by
  have hstops : StopsAtOnce call.run ∧
      ∀ reports f remarks, (call.closing? reports f remarks).isSome := by
    rcases call.stopsAtOnce_or_goes with hstops | hgoes
    · exact hstops
    · obtain ⟨a, c', hon⟩ := hgoes (after {} calls)
      rw [hon] at h
      cases h
  obtain ⟨hsame, f, e, hf, he, -⟩ := hstops.1 _ x _ (Prod.ext h rfl)
  have hstopped : after {} (calls ++ [call]) = after {} calls :=
    (after_concat _ _ _).trans hsame
  refine ⟨hstopped, f, e, hf, he, fun line value => ?_⟩
  obtain ⟨⟨answer, c⟩, hclosing⟩ := Option.isSome_iff_exists.mp
    (hstops.2 (after {} calls).reports { f with findings := f.findings ++ [e.findingAt Range.zero] }
      ((after {} calls).remarks ++ [.zeroRange e.line (.layout [])]))
  have hlocation : (Call.feed line ⟨.location, value⟩).run.on (after {} (calls ++ [call])) =
      (.ok none, { after {} calls with
        stage := .inLocation
        problem := some { e with location := some [] } }) := by
    rw [hstopped, Call.run, Operation.on_bind, on_feed_location he]
    rfl
  refine ⟨answer, c, congrArg Prod.fst hlocation, ?_, hclosing⟩
  rw [List.append_cons, after_concat, hlocation]
  exact Call.on_run_located hf rfl hclosing

/-- A location whose first coordinate has this many nines. -/
def nines (n : Nat) : List Token :=
  [⟨.startPosition, ""⟩, ⟨.lineNumber, String.ofList (List.replicate n '9')⟩, ⟨.columnNumber, "0"⟩,
    ⟨.endPosition, ""⟩, ⟨.lineNumber, "0"⟩, ⟨.columnNumber, "0"⟩]

theorem exists_locate_nines {n : Nat} (h : maxDigits < n) :
    ∃ x, locate (some (nines n)) = .error x := by
  have htrim : trim (String.ofList (List.replicate n '9')).toList = List.replicate n '9' := by
    rw [String.toList_ofList]
    refine trim_eq_self ⟨fun c hc => ?_, fun c hc => ?_⟩
    · rw [List.eq_of_mem_replicate (List.mem_of_mem_head? hc)]
      rfl
    · rw [List.eq_of_mem_replicate (List.mem_of_mem_getLast? hc)]
      rfl
  have hnumeral : isNumeral (List.replicate n '9') = true := by
    obtain ⟨k, rfl⟩ := Nat.exists_eq_succ_of_ne_zero (Nat.ne_zero_of_lt h)
    simp [isNumeral, List.replicate_succ]
  have hreached : List.replicate n '9' ∈ (coordinateTexts (nines n)).takeWhile isNumeral := by
    rw [nines, coordinateTexts_cons_of_other (by simp), coordinateTexts_cons_of_number (by simp),
      htrim, List.takeWhile_cons_of_pos hnumeral]
    exact List.mem_cons_self
  obtain ⟨x, hlocate, -⟩ := locate_of_oversized rfl hreached (by simpa using h)
  exact ⟨x, hlocate⟩

/-- A row of nines stops `finish`. After a new location the problem is handed over. -/
theorem stopped_call_changes_nothing_nines :
    let calls : List Call := [.feed 0 ⟨.filePath, "a"⟩, .feed 1 ⟨.message, "m"⟩,
      .feed 2 ⟨.location, ""⟩] ++ (nines 4301).map (.feed 3)
    (∃ x, (Call.finish.run.on (after {} calls)).1 = .error x) ∧
      after {} (calls ++ [.finish]) = after {} calls ∧
      (Call.finish.run.on (after {} (calls ++ [.finish, .feed 4 ⟨.location, ""⟩]))).1 =
        .ok (some [⟨"a", [{ message := "m" }]⟩]) := by
  -- the nines must not be written out, so their number is forgotten
  obtain ⟨n, hn, hforget⟩ : ∃ n, maxDigits < n ∧ 4301 = n := ⟨4301, by decide, rfl⟩
  rw [hforget]
  intro calls
  obtain ⟨x, hlocate⟩ := exists_locate_nines hn
  have hcells : after {} calls =
      { stage := .inLocation
        file := some { filePath := "a" }
        problem := some { line := 1, message := ["m"], location := some (nines n) } } :=
    rfl
  have hstop : (Call.finish.run.on (after {} calls)).1 = .error x := by
    rw [hcells, Call.run, Operation.on_bind, on_finish, on_closeFile, on_closeProblem]
    simp only [Entry.build, hlocate]
    rfl
  obtain ⟨hsame, f, e, hf, he, hretry⟩ := stopped_call_changes_nothing hstop
  obtain ⟨answer, c, -, hrun, hclosing⟩ := hretry 4 ""
  have hmessage : stripped (unlines ["m"]) = "m" := by decide +kernel
  have hsuggestion : normalSuggestion (unlines []) = none := by decide +kernel
  rw [hcells] at hf he hclosing
  cases hf
  cases he
  rw [Entry.findingAt, hmessage, hsuggestion] at hclosing
  cases hclosing
  exact ⟨⟨x, hstop⟩, hsame, congrArg Prod.fst hrun⟩

end Cells
end LintRelay.Report
