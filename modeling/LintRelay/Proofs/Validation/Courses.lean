import LintRelay.Proofs.Settings.Reading
import LintRelay.Proofs.Validation.Computing
import LintRelay.Validation.Journal

/-!
# The course of a pass

Where a pass stands goes with what it has noted. The journal tells how it got there:
which settings it has, what the linter answered, and which jobs have asked the service.
All that is said of outcomes and of published sets rests on this.
-/

namespace LintRelay

/-- The notes of a job with its request, by how far it has come. -/
def EnrichmentJob.notes (job : Nat) (request : SuggestionRequest) :
    EnrichmentJob → List PassNote
  | waiting | skipped => []
  | asked => [.asked job request]
  | answered reply => [.asked job request, .replied job reply]

namespace Enrichment

def notesOf (e : Enrichment) (job : Nat) : List PassNote :=
  match e.jobs[job]?, e.request? job with
  | some state, some request => state.notes job request
  | _, _ => []

/-- Notes tell what the jobs have done, job by job. -/
structure Noted (e : Enrichment) (notes : List PassNote) : Prop where
  ofJobs : ∀ note ∈ notes, ∃ job, note.job? = some job
  each : ∀ job, notes.filter (·.job? = some job) = e.notesOf job

variable {e : Enrichment} {notes : List PassNote}

theorem notesOf_of_job {job : Nat} {state : EnrichmentJob} {request : SuggestionRequest}
    (hjob : e.jobs[job]? = some state) (hrequest : e.request? job = some request) :
    e.notesOf job = state.notes job request := by
  rw [notesOf, hjob, hrequest]

/-- When one job goes on, only its own notes change. -/
theorem Noted.set (h : e.Noted notes) {job : Nat} {state state' : EnrichmentJob}
    {request : SuggestionRequest} (hjob : e.jobs[job]? = some state)
    (hrequest : e.request? job = some request) {new : List PassNote}
    (hnew : ∀ note ∈ new, note.job? = some job)
    (hown : state'.notes job request = state.notes job request ++ new) :
    ({ e with jobs := e.jobs.set job state' }).Noted (notes ++ new) := by
  constructor
  · intro note hnote
    rcases List.mem_append.mp hnote with hnote | hnote
    · exact h.ofJobs note hnote
    · exact ⟨job, hnew note hnote⟩
  · intro k
    rw [List.filter_append, h.each k]
    by_cases hk : k = job
    · subst hk
      have hlt : k < e.jobs.length := (List.getElem?_eq_some_iff.mp hjob).1
      have hall : new.filter (·.job? = some k) = new :=
        List.filter_eq_self.mpr fun note hnote => decide_eq_true (hnew note hnote)
      have hafter : ({ e with jobs := e.jobs.set k state' }).notesOf k =
          state'.notes k request :=
        notesOf_of_job (List.getElem?_set_self hlt) hrequest
      rw [hall, notesOf_of_job hjob hrequest, hafter, hown]
    · have hnone : new.filter (·.job? = some k) = [] := by
        refine List.filter_eq_nil_iff.mpr fun note hnote hsame => hk ?_
        rw [hnew note hnote] at hsame
        exact (Option.some.inj (of_decide_eq_true hsame)).symm
      have hsame : ({ e with jobs := e.jobs.set job state' }).notesOf k = e.notesOf k := by
        rw [notesOf, notesOf, List.getElem?_set_ne (Ne.symm hk)]
        rfl
      rw [hnone, List.append_nil, hsame]

theorem noted_start (enabled : Bool) (findings : List Finding) (text : String) (limit : Int) :
    (start enabled findings text limit).Noted [] := by
  refine ⟨by simp, fun job => ?_⟩
  rw [notesOf, start]
  split
  next hjob _ =>
    obtain ⟨-, rfl⟩ := List.mem_replicate.mp (List.mem_of_getElem? hjob)
    rfl
  next => rfl

theorem request?_of_lt {job : Nat} (h : job < e.findings.length) :
    e.request? job = some (e.requestFor e.findings[job]) := by
  rw [request?, List.getElem?_eq_getElem h, Option.map_some]

/-- A job that polls asks the service, unless the work has been cancelled. -/
theorem Noted.poll (h : e.Noted notes) (hjobs : e.jobs.length ≤ e.findings.length) (job : Nat)
    (cancelled : Bool) : (e.poll job cancelled).Noted (notes ++ e.notesOfPoll job cancelled) := by
  rw [Enrichment.poll]
  split
  next hjob =>
    have hlt : job < e.jobs.length := (List.getElem?_eq_some_iff.mp hjob).1
    have hrequest := e.request?_of_lt (Nat.lt_of_lt_of_le hlt hjobs)
    rw [notesOfPoll, hjob, hrequest]
    cases cancelled with
    | true => exact h.set hjob hrequest (by simp) rfl
    | false => exact h.set hjob hrequest (by simp [PassNote.job?]) rfl
  next hother =>
    rw [notesOfPoll]
    split
    · contradiction
    · rwa [List.append_nil]

/-- A job that gets a reply had asked for it. -/
theorem Noted.reply (h : e.Noted notes) (hjobs : e.jobs.length ≤ e.findings.length) (job : Nat)
    (reply : SuggestReply) : (e.reply job reply).Noted (notes ++ e.notesOfReply job reply) := by
  rw [Enrichment.reply]
  split
  next hjob =>
    have hlt : job < e.jobs.length := (List.getElem?_eq_some_iff.mp hjob).1
    have hrequest := e.request?_of_lt (Nat.lt_of_lt_of_le hlt hjobs)
    rw [notesOfReply, hjob]
    exact h.set hjob hrequest (by simp [PassNote.job?]) rfl
  next hother =>
    rw [notesOfReply]
    split
    · contradiction
    · rwa [List.append_nil]

theorem budget_le (enabled : Bool) (limit : Int) (count : Nat) :
    budget enabled limit count ≤ limit.toNat ∧ budget enabled limit count ≤ count := by
  rw [budget]
  split <;> omega

theorem poll_keeps (e : Enrichment) (job : Nat) (cancelled : Bool) :
    (e.poll job cancelled).findings = e.findings ∧
      (e.poll job cancelled).jobs.length = e.jobs.length := by
  rw [Enrichment.poll]
  split
  · exact ⟨rfl, List.length_set⟩
  · exact ⟨rfl, rfl⟩

theorem reply_keeps (e : Enrichment) (job : Nat) (reply : SuggestReply) :
    (e.reply job reply).findings = e.findings ∧
      (e.reply job reply).jobs.length = e.jobs.length := by
  rw [Enrichment.reply]
  split
  · exact ⟨rfl, List.length_set⟩
  · exact ⟨rfl, rfl⟩

end Enrichment

/-- The findings of an output are being enriched for a document, as many as its settings
allow, and notes tell what the jobs have done. -/
structure Document.Asks (d : Document) (ctx : PassContext) (s : DocumentSettings)
    (output : String) (notes : List PassNote) (e : Enrichment) : Prop where
  enriches : d.Enriches output e
  budget : e.jobs.length = Enrichment.budget ctx.suggestions s.maxProblems e.findings.length
  noted : e.Noted notes

namespace Document.Asks

variable {d : Document} {ctx : PassContext} {s : DocumentSettings} {output : String}
  {notes : List PassNote} {e : Enrichment}

theorem length_jobs_le (h : d.Asks ctx s output notes e) :
    e.jobs.length ≤ s.maxProblems ∧ e.jobs.length ≤ e.findings.length := by
  rw [h.budget]
  exact Enrichment.budget_le ..

theorem start {reports : List FileReport} (hread : (Report.parse output).reports = .ok reports) :
    d.Asks ctx s output []
      (.start ctx.suggestions (d.findings reports) d.text s.maxProblems) where
  enriches := ⟨rfl, reports, hread, rfl⟩
  budget := List.length_replicate
  noted := Enrichment.noted_start ..

theorem poll (h : d.Asks ctx s output notes e) (job : Nat) (cancelled : Bool) :
    d.Asks ctx s output (notes ++ e.notesOfPoll job cancelled) (e.poll job cancelled) := by
  obtain ⟨hfindings, hlength⟩ := e.poll_keeps job cancelled
  exact ⟨h.enriches.poll .., by rw [hlength, hfindings, h.budget],
    h.noted.poll h.length_jobs_le.2 ..⟩

theorem reply (h : d.Asks ctx s output notes e) (job : Nat) (reply : SuggestReply) :
    d.Asks ctx s output (notes ++ e.notesOfReply job reply) (e.reply job reply) := by
  obtain ⟨hfindings, hlength⟩ := e.reply_keeps job reply
  exact ⟨h.enriches.reply .., by rw [hlength, hfindings, h.budget],
    h.noted.reply h.length_jobs_le.2 ..⟩

end Document.Asks

namespace Pass

/-- Where a pass looks whether it has been superseded. -/
def Point.looks : Point → Bool
  | .woken | .settled _ | .linted _ _ | .parsed _ _ | .publishing _ | .clearing _ | .failed _ =>
    true
  | _ => false

/-- The course of a pass over a document: where it stands after what it has noted. The
faults with which the sink may refuse its sets are given. -/
inductive Course (ctx : PassContext) (refuses : Fault → Prop) (d : Document) :
    List PassNote → Point → Prop where
  | queued : Course ctx refuses d [] .queued
  | begun : Course ctx refuses d [] .begun
  | dozing : Course ctx refuses d [] .dozing
  | woken : Course ctx refuses d [] .woken
  | reading (r : SettingsRead) (hreads : r.point.isBroken = false) :
      Course ctx refuses d [] (.reading r)
  | untold {e : SettingsError} {fault : Fault} (hraised : e.raised? = some fault) (key : String)
      (ticket : Nat) : Course ctx refuses d [.untold e] (.reading ⟨key, .broken ticket fault⟩)
  | settled (s : DocumentSettings) : Course ctx refuses d [.settled s] (.settled s)
  | linting (s : DocumentSettings) : Course ctx refuses d [.settled s] (.linting s)
  | linted (s : DocumentSettings) (output : String) :
      Course ctx refuses d [.settled s, .linted (.ok output)] (.linted s output)
  | parsing (s : DocumentSettings) (output : String) :
      Course ctx refuses d [.settled s, .linted (.ok output)] (.parsing s output)
  | parsed (s : DocumentSettings) (output : String) {reports : List FileReport}
      (hread : (Report.parse output).reports = .ok reports) :
      Course ctx refuses d [.settled s, .linted (.ok output)] (.parsed s (d.findings reports))
  | enriching {s : DocumentSettings} {output : String} {notes : List PassNote}
      {e : Enrichment} (hasks : d.Asks ctx s output notes e) :
      Course ctx refuses d (.settled s :: .linted (.ok output) :: notes) (.enriching e)
  | publishing {s : DocumentSettings} {output : String} {notes : List PassNote}
      {e : Enrichment} (hasks : d.Asks ctx s output notes e) (hover : e.isOver)
      (htold : ∀ job ∈ e.jobs, Enrichment.raised? job = none) :
      Course ctx refuses d (.settled s :: .linted (.ok output) :: notes)
        (.publishing (Diagnostic.ofFindings d.uri ctx.relatedInformation e.result.findings))
  | published {s : DocumentSettings} {output : String} {notes : List PassNote}
      {e : Enrichment} (hasks : d.Asks ctx s output notes e) (hover : e.isOver)
      (htold : ∀ job ∈ e.jobs, Enrichment.raised? job = none) :
      Course ctx refuses d (.settled s :: .linted (.ok output) :: notes)
        (.leaving (.ok ⟨d.uri, .published,
          Diagnostic.ofFindings d.uri ctx.relatedInformation e.result.findings, none⟩))
  | clearing (s : DocumentSettings) (failure : LinterFailure)
      (hpolicy : ctx.onLinterFailure = .clear) :
      Course ctx refuses d [.settled s, .linted (.error (.failed failure))] (.clearing failure)
  | cleared (s : DocumentSettings) (failure : LinterFailure)
      (hpolicy : ctx.onLinterFailure = .clear) :
      Course ctx refuses d [.settled s, .linted (.error (.failed failure))]
        (.leaving (.ok ⟨d.uri, .cleared, [], some failure⟩))
  | failing (s : DocumentSettings) (failure : LinterFailure)
      (hpolicy : ctx.onLinterFailure = .keepStale) :
      Course ctx refuses d [.settled s, .linted (.error (.failed failure))] (.failing failure)
  | failed (s : DocumentSettings) (failure : LinterFailure)
      (hpolicy : ctx.onLinterFailure = .keepStale) :
      Course ctx refuses d [.settled s, .linted (.error (.failed failure))] (.failed failure)
  | linterFailed (s : DocumentSettings) (failure : LinterFailure)
      (hpolicy : ctx.onLinterFailure = .keepStale) :
      Course ctx refuses d [.settled s, .linted (.error (.failed failure))]
        (.leaving (.ok ⟨d.uri, .linterFailed, [], some failure⟩))
  | superseded {notes : List PassNote} {q : Point} (hlooks : q.looks)
      (before : Course ctx refuses d notes q) :
      Course ctx refuses d notes (.leaving (.ok ⟨d.uri, .superseded, [], none⟩))
  | refused {notes : List PassNote} {q : Point} {fault : Fault} (hrefuses : refuses fault)
      (hlooks : q.looks) (before : Course ctx refuses d notes q) :
      Course ctx refuses d notes (.leaving (.error (.sink fault)))
  | overslept (fault : Fault) :
      Course ctx refuses d [.interrupted fault] (.leaving (.error (.delay fault)))
  | unsettled {notes : List PassNote} {r : SettingsRead}
      (before : Course ctx refuses d notes (.reading r)) (fault : Fault) :
      Course ctx refuses d (notes ++ [.interrupted fault]) (.leaving (.error (.settings fault)))
  | unkept {e : SettingsError} {fault : Fault} (hraised : e.raised? = some fault) :
      Course ctx refuses d [.untold e] (.leaving (.error (.settings fault)))
  | unlinted (s : DocumentSettings) (fault : Fault) :
      Course ctx refuses d [.settled s, .linted (.error (.unexpected fault))]
        (.leaving (.error (.linter fault)))
  | unreadable (s : DocumentSettings) (output : String) (e : Decimal.Oversized)
      (hread : (Report.parse output).reports = .error e) :
      Course ctx refuses d [.settled s, .linted (.ok output)] (.leaving (.error (.report e)))
  | unenriched {notes : List PassNote} {e : Enrichment}
      (before : Course ctx refuses d notes (.enriching e)) (fault : Fault) :
      Course ctx refuses d (notes ++ [.interrupted fault]) (.leaving (.error (.enrichment fault)))
  | unrecorded {s : DocumentSettings} {output : String} {notes : List PassNote}
      {e : Enrichment} {fault : Fault} (hasks : d.Asks ctx s output notes e)
      (hraised : e.collected = .error fault) :
      Course ctx refuses d (.settled s :: .linted (.ok output) :: notes)
        (.leaving (.error (.enrichment fault)))
  | ended {notes : List PassNote} {result : Except PassError PassOutcome}
      (before : Course ctx refuses d notes (.leaving result)) :
      Course ctx refuses d notes (.ended result)

variable {ctx : PassContext} {refuses : Fault → Prop} {sink : Sink} {sh : Shared} {p : Pass}
  {notes : List PassNote}

theorem course_enter {s : ValidationStage} {q : Point} (hlooks : p.point.looks)
    (h : Course ctx refuses p.document notes p.point)
    (hnext : Course ctx refuses p.document notes q) :
    Course ctx refuses p.document notes (enter sh p s q).pass.point := by
  rw [enter]
  split
  · exact hnext
  · exact .superseded hlooks h

/-- A publication breaks off only with what the sink refuses it with. -/
theorem refuses_of_publish {b b' : Board} {uri : String} {token : Nat} {set : List Diagnostic}
    {fault : Fault} (h : b.publish sink uri token set = (b', .error fault)) :
    sink ⟨uri, set⟩ = some fault := by
  rw [Board.publish] at h
  split at h
  · cases hsink : sink ⟨uri, set⟩ with
    | none => simp [hsink] at h
    | some fault' =>
        simp only [hsink, Prod.mk.injEq, Except.error.injEq] at h
        rw [h.2]
  · cases h

theorem course_publishAs {set : List Diagnostic} {o : PassOutcome} {log : List LogRecord}
    (hsink : ∀ x fault, sink x = some fault → refuses fault) (hlooks : p.point.looks)
    (h : Course ctx refuses p.document notes p.point)
    (hnext : Course ctx refuses p.document notes (.leaving (.ok o))) :
    Course ctx refuses p.document notes (publishAs sink sh p set o log).pass.point := by
  rw [publishAs]
  split
  · exact hnext
  · exact .superseded hlooks h
  next hpublish => exact .refused (hsink _ _ (refuses_of_publish hpublish)) hlooks h

/-- Of the steps of a pass itself, only the one that gets the settings is noted. -/
theorem notes_proceed_cases (p : Pass) (sh : Shared) : p.notes sh .proceed = [] ∨
    ∃ key s, p.point = .reading ⟨key, .done s⟩ ∧ p.notes sh .proceed = [.settled s] := by
  cases hpoint : p.point with
  | reading r =>
      obtain ⟨key, point⟩ := r
      cases point with
      | done s => exact .inr ⟨key, s, rfl, by simp only [Pass.notes, hpoint]⟩
      | _ => simp [Pass.notes, hpoint]
  | _ => simp [Pass.notes, hpoint]

theorem course_proceed (hsink : ∀ x fault, sink x = some fault → refuses fault)
    (h : Course ctx refuses p.document notes p.point) :
    Course ctx refuses p.document (notes ++ p.notes sh .proceed)
      (p.proceed ctx sink sh).pass.point := by
  rcases p.notes_proceed_cases sh with hquiet | ⟨key, s, hpoint, hsettled⟩
  case inr =>
    rw [hpoint] at h
    cases h
    rw [hsettled]
    simp only [proceed, hpoint]
    exact .settled s
  rw [hquiet, List.append_nil]
  cases hpoint : p.point with
  | reading r =>
      rw [hpoint] at h
      simp only [proceed, hpoint]
      cases h with
      | untold hraised => exact .unkept hraised
      | reading _ hreads =>
          split
          next s hdone =>
            obtain ⟨key, point⟩ := r
            obtain rfl : point = .done s := hdone
            simp [Pass.notes, hpoint] at hquiet
          next hbroken =>
            rw [hbroken] at hreads
            cases hreads
          next => exact .reading _ (SettingsRead.isBroken_step _ hreads)
  | queued =>
      rw [hpoint] at h
      cases h
      simp only [proceed, hpoint]
      exact .begun
  | begun =>
      rw [hpoint] at h
      cases h
      simp only [proceed, hpoint]
      split
      · exact .dozing
      · exact .reading _ rfl
  | woken =>
      rw [hpoint] at h
      simp only [proceed, hpoint]
      split
      · cases h
        exact .reading _ rfl
      · exact .superseded rfl h
  | settled s =>
      simp only [proceed, hpoint]
      refine course_enter (by rw [hpoint]; rfl) h ?_
      rw [hpoint] at h
      cases h
      exact .linting s
  | linted s output =>
      simp only [proceed, hpoint]
      refine course_enter (by rw [hpoint]; rfl) h ?_
      rw [hpoint] at h
      cases h
      exact .parsing s output
  | parsing s output =>
      rw [hpoint] at h
      cases h
      simp only [proceed, hpoint, read]
      split
      next e hread => exact .unreadable s output e hread
      next reports hread => exact .parsed s output hread
  | parsed s findings =>
      simp only [proceed, hpoint]
      refine course_enter (by rw [hpoint]; rfl) h ?_
      rw [hpoint] at h
      cases h with
      | parsed _ output hread => exact .enriching (.start hread)
  | enriching e =>
      rw [hpoint] at h
      simp only [proceed, hpoint, collect]
      split
      next hover =>
        cases h with
        | enriching hasks =>
            split
            next hraised => exact .unrecorded hasks hraised
            next result hcollected =>
              obtain rfl := Enrichment.eq_result_of_collected hcollected
              exact .publishing hasks hover (Enrichment.collected_iff.mp ⟨_, hcollected⟩)
      next =>
        rw [hpoint]
        exact h
  | publishing set =>
      simp only [proceed, hpoint]
      refine course_publishAs hsink (by rw [hpoint]; rfl) h ?_
      rw [hpoint] at h
      cases h with
      | publishing hasks hover htold => exact .published hasks hover htold
  | clearing failure =>
      simp only [proceed, hpoint]
      refine course_publishAs hsink (by rw [hpoint]; rfl) h ?_
      rw [hpoint] at h
      cases h with
      | clearing s _ hpolicy => exact .cleared s failure hpolicy
  | failing failure =>
      rw [hpoint] at h
      simp only [proceed, hpoint]
      cases h with
      | failing s _ hpolicy => exact .failed s failure hpolicy
  | failed failure =>
      rw [hpoint] at h
      simp only [proceed, hpoint]
      split
      · cases h with
        | failed s _ hpolicy => exact .linterFailed s failure hpolicy
      · exact .superseded rfl h
  | leaving result =>
      rw [hpoint] at h
      simp only [proceed, hpoint]
      exact .ended h
  | dozing | linting | ended =>
      simp only [proceed, hpoint]
      rwa [hpoint] at h

theorem course_fetched (h : Course ctx refuses p.document notes p.point) {r : SettingsRead}
    (hpoint : p.point = .reading r) (answer : Except SettingsError DocumentSettings) :
    Course ctx refuses p.document (notes ++ p.notes sh (.fetched answer))
      (.reading (r.fetched answer).1) := by
  rw [hpoint] at h
  cases h with
  | untold hraised key ticket =>
      simp only [Pass.notes, hpoint, List.append_nil, SettingsRead.fetched]
      exact .untold hraised key ticket
  | reading _ hreads =>
      obtain ⟨key, point⟩ := r
      cases point with
      | fetching ticket =>
          rcases answer with e | s
          · cases hraised : e.raised? with
            | none =>
                simp only [Pass.notes, hpoint, SettingsRead.fetched, hraised]
                exact .reading _ rfl
            | some fault =>
                simp only [Pass.notes, hpoint, SettingsRead.fetched, hraised]
                exact .untold hraised key ticket
          · simp only [Pass.notes, hpoint, SettingsRead.fetched, List.append_nil]
            exact .reading _ rfl
      | broken => cases hreads
      | _ =>
          simp only [Pass.notes, hpoint, SettingsRead.fetched, List.append_nil]
          exact .reading _ rfl

/-- **The course of a pass goes on.** Whatever action comes, the pass then stands where
its journal has led it. -/
theorem course_act (ctx : PassContext) (sink : Sink) (sh : Shared) {p : Pass}
    {notes : List PassNote} (a : PassAction)
    (hsink : ∀ x fault, sink x = some fault → refuses fault)
    (h : Course ctx refuses p.document notes p.point) :
    Course ctx refuses p.document (notes ++ p.notes sh a) (p.act ctx sink sh a).pass.point := by
  cases a with
  | proceed => exact course_proceed hsink h
  | wake =>
      cases hpoint : p.point with
      | dozing =>
          rw [hpoint] at h
          cases h
          simp only [Pass.notes, act, hpoint]
          exact .woken
      | _ => simpa [Pass.notes, act, hpoint] using h
  | fetched answer =>
      cases hpoint : p.point with
      | reading r =>
          simp only [act, hpoint]
          exact course_fetched h hpoint answer
      | _ => simpa [Pass.notes, act, hpoint] using h
  | linted answer =>
      cases hpoint : p.point with
      | linting s =>
          rw [hpoint] at h
          cases h
          simp only [Pass.notes, act, hpoint]
          rcases answer with (failure | fault) | output
          · simp only [afterFailure]
            split
            next hpolicy => exact .clearing s failure hpolicy
            next hpolicy => exact .failing s failure hpolicy
          · exact .unlinted s fault
          · exact .linted s output
      | _ => simpa [Pass.notes, act, hpoint] using h
  | poll job =>
      cases hpoint : p.point with
      | enriching e =>
          rw [hpoint] at h
          simp only [Pass.notes, act, hpoint]
          cases h with
          | enriching hasks => exact .enriching (hasks.poll ..)
      | _ => simpa [Pass.notes, act, hpoint] using h
  | replied job reply =>
      cases hpoint : p.point with
      | enriching e =>
          rw [hpoint] at h
          simp only [Pass.notes, act, hpoint]
          cases h with
          | enriching hasks => exact .enriching (hasks.reply ..)
      | _ => simpa [Pass.notes, act, hpoint] using h
  | interrupted fault =>
      cases hpoint : p.point with
      | dozing =>
          rw [hpoint] at h
          cases h
          simp only [Pass.notes, act, hpoint]
          exact .overslept fault
      | reading r =>
          rw [hpoint] at h
          simp only [Pass.notes, act, hpoint]
          exact .unsettled h fault
      | enriching e =>
          rw [hpoint] at h
          simp only [Pass.notes, act, hpoint]
          exact .unenriched h fault
      | _ => simpa [Pass.notes, act, hpoint] using h

end Pass

namespace Session

/-- What is said of a pass, its journal and the sets that it handed over. A pass that
was not taken up has neither. -/
structure Says (P : PassRecord → List PassNote → List Delivery → Prop) (s : Session) (i : Nat)
    (notes : List PassNote) : Prop where
  ofPass : ∀ r, s.passes[i]? = some r → P r notes (s.handed i)
  ofNone : s.passes[i]? = none → notes = [] ∧ s.handed i = []

section

variable {P : PassRecord → List PassNote → List Delivery → Prop} {s : Session} {i : Nat}
  {notes : List PassNote}

theorem Says.append (h : Says P s i notes) (hjoins : ∀ r, r.pass.point = .queued → P r [] [])
    {t : Session} {r : PassRecord} (hpasses : t.passes = s.passes ++ [r])
    (hhanded : t.handed i = s.handed i) (hqueued : r.pass.point = .queued) :
    Says P t i notes := by
  constructor
  · intro q hq
    rw [hpasses] at hq
    rw [hhanded]
    cases hget : s.passes[i]? with
    | some q' =>
        rw [List.getElem?_append_left (List.getElem?_eq_some_iff.mp hget).1, hget] at hq
        obtain rfl := Option.some.inj hq
        exact h.ofPass q' hget
    | none =>
        obtain rfl : q = r := (getElem?_concat_cases hq).resolve_left (by simp [hget])
        obtain ⟨rfl, hnothing⟩ := h.ofNone hget
        rw [hnothing]
        exact hjoins q hqueued
  · intro hnone
    rw [hhanded]
    refine h.ofNone (List.getElem?_eq_none ?_)
    have hlength := List.getElem?_eq_none_iff.mp hnone
    rw [hpasses, List.length_append] at hlength
    omega

theorem passes_act {j : Nat} {r : PassRecord} (hget : s.passes[j]? = some r) (sink : Sink)
    (a : PassAction) : (s.act j sink a).passes = s.passes.set j
      { r with
        pass := (r.pass.act s.orchestrator.context sink s.orchestrator.shared a).pass
        stages := r.stages ++
          r.pass.stores s.orchestrator.context s.orchestrator.shared a } := by
  simp only [act, hget]
  rfl

theorem deliveries_act {j : Nat} {r : PassRecord} (hget : s.passes[j]? = some r) (sink : Sink)
    (a : PassAction) : (s.act j sink a).deliveries = s.deliveries ++
      (r.pass.offers s.orchestrator.context s.orchestrator.shared a).map fun x =>
        ⟨j, r.pass.token, s.board.generation x.uri, x, (sink x).isNone⟩ := by
  simp only [act, hget]
  rfl

/-- What is said of a pass is kept when it acts, if its action keeps it. -/
theorem Says.acts (h : Says P s i notes) {r : PassRecord} (hget : s.passes[i]? = some r)
    (sink : Sink) (a : PassAction)
    (hacts : ∀ notes mine, P r notes mine →
      P { r with
          pass := (r.pass.act s.orchestrator.context sink s.orchestrator.shared a).pass
          stages := r.stages ++ r.pass.stores s.orchestrator.context s.orchestrator.shared a }
        (notes ++ r.pass.notes s.orchestrator.shared a)
        (mine ++ (r.pass.offers s.orchestrator.context s.orchestrator.shared a).map fun x =>
          ⟨i, r.pass.token, s.board.generation x.uri, x, (sink x).isNone⟩)) :
    Says P (s.act i sink a) i (notes ++ s.noted i (.act i sink a)) := by
  have hhanded : (s.act i sink a).handed i = s.handed i ++
      (r.pass.offers s.orchestrator.context s.orchestrator.shared a).map fun x =>
        ⟨i, r.pass.token, s.board.generation x.uri, x, (sink x).isNone⟩ := by
    rw [handed, deliveries_act hget, List.filter_append, handed]
    congr 1
    exact List.filter_eq_self.mpr (by simp)
  rw [s.noted_act hget]
  constructor
  · intro q hq
    rw [passes_act hget, getElem?_set_of_getElem? hget, if_pos rfl] at hq
    obtain rfl := Option.some.inj hq
    rw [hhanded]
    exact hacts notes _ (h.ofPass r hget)
  · intro hnone
    rw [passes_act hget, getElem?_set_of_getElem? hget, if_pos rfl] at hnone
    cases hnone

/-- What is said of a pass is not touched when another one acts. -/
theorem Says.acts_of_ne (h : Says P s i notes) {j : Nat} (hj : i ≠ j) (sink : Sink)
    (a : PassAction) : Says P (s.act j sink a) i (notes ++ s.noted i (.act j sink a)) := by
  have hquiet : s.noted i (.act j sink a) = [] :=
    s.noted_eq_nil fun _ _ _ hm => absurd (Move.act.inj hm).1.symm hj
  rw [hquiet, List.append_nil]
  cases hget : s.passes[j]? with
  | none => simpa only [act, hget] using h
  | some r =>
      have hpasses : (s.act j sink a).passes[i]? = s.passes[i]? := by
        rw [passes_act hget, getElem?_set_of_getElem? hget, if_neg hj]
      have hhanded : (s.act j sink a).handed i = s.handed i := by
        rw [handed, deliveries_act hget, List.filter_append, handed]
        refine (congrArg _ (List.filter_eq_nil_iff.mpr ?_)).trans (List.append_nil _)
        simp [Ne.symm hj]
      constructor
      · intro q hq
        rw [hhanded]
        exact h.ofPass q (hpasses ▸ hq)
      · intro hnone
        rw [hhanded]
        exact h.ofNone (hpasses ▸ hnone)

theorem Says.step (hs : s.QueueWaits) (h : Says P s i notes)
    (hjoins : ∀ r, r.pass.point = .queued → P r [] []) (m : Move)
    (hacts : ∀ sh r notes mine sink a, m = .act i sink a → P r notes mine →
      P { r with
          pass := (r.pass.act s.orchestrator.context sink sh a).pass
          stages := r.stages ++ r.pass.stores s.orchestrator.context sh a }
        (notes ++ r.pass.notes sh a)
        (mine ++ (r.pass.offers s.orchestrator.context sh a).map fun x =>
          ⟨i, r.pass.token, sh.board.generation x.uri, x, (sink x).isNone⟩)) :
    Says P (s.step m) i (notes ++ s.noted i m) := by
  have hquiet : (∀ sink a r, m = .act i sink a → s.passes[i]? ≠ some r) →
      notes ++ s.noted i m = notes := by
    intro hm
    rw [s.noted_eq_nil hm, List.append_nil]
  cases m with
  | call d =>
      rw [hquiet (by simp)]
      exact h.append hjoins rfl rfl rfl
  | take =>
      rw [hquiet (by simp)]
      simp only [Session.step, take]
      split
      next => exact h
      next p queue hqueue =>
        split
        · exact h.append hjoins rfl rfl (hs p (by rw [hqueue]; exact List.mem_cons_self))
        · exact h
  | act j sink a =>
      by_cases hj : i = j
      · subst hj
        cases hget : s.passes[i]? with
        | none =>
            rw [hquiet (by rintro _ _ r ⟨⟩; simp [hget])]
            simpa only [Session.step, act, hget] using h
        | some r => exact h.acts hget sink a fun notes mine => hacts _ r notes mine sink a rfl
      · exact h.acts_of_ne hj sink a
  | _ =>
      rw [hquiet (by simp)]
      exact ⟨h.ofPass, h.ofNone⟩

end

/-- What holds of a pass when it is taken up and is kept by each of its actions holds of
it in every run, whatever the others do. -/
theorem pass_induction {P : PassRecord → List PassNote → List Delivery → Prop}
    (o : Orchestrator) (workers : Nat) (moves : List Move) {i : Nat} {r : PassRecord}
    (hget : ((start o workers).run moves).passes[i]? = some r)
    (hjoins : ∀ r, r.pass.point = .queued → P r [] [])
    (hacts : ∀ sh r notes mine sink a, .act i sink a ∈ moves → P r notes mine →
      P { r with
          pass := (r.pass.act o.context sink sh a).pass
          stages := r.stages ++ r.pass.stores o.context sh a }
        (notes ++ r.pass.notes sh a)
        (mine ++ (r.pass.offers o.context sh a).map fun x =>
          ⟨i, r.pass.token, sh.board.generation x.uri, x, (sink x).isNone⟩)) :
    P r ((start o workers).journal i moves) (((start o workers).run moves).handed i) := by
  -- the pass may be taken up midway, so `Says` also speaks of its place while it is empty
  have hrun : ∀ (moves' : List Move) (s : Session) (notes : List PassNote), moves' ⊆ moves →
      s.QueueWaits → s.orchestrator.context = o.context → Says P s i notes →
      Says P (s.run moves') i (notes ++ s.journal i moves') := by
    intro moves'
    induction moves' with
    | nil =>
        intro s notes _ _ _ h
        simpa [Session.journal] using h
    | cons m moves' ih =>
        intro s notes hsub hs hcontext h
        have hsteps := steps_step hs m
        have hm : m ∈ moves := hsub List.mem_cons_self
        have hstep := h.step hs hjoins m fun sh r notes mine sink a ha hP => by
          rw [hcontext]
          exact hacts sh r notes mine sink a (ha ▸ hm) hP
        have hrest := ih _ _ (fun x hx => hsub (List.mem_cons_of_mem m hx)) hsteps.waits
          (hsteps.context.trans hcontext) hstep
        simpa only [Session.journal, List.append_assoc, run_cons] using hrest
  have hstart : Says P (start o workers) i [] :=
    ⟨fun r hget => by simp [start] at hget, fun _ => ⟨rfl, rfl⟩⟩
  exact (hrun moves _ _ (List.Subset.refl _) (queueWaits_start o workers) rfl hstart).ofPass r hget

/-- A pass meets a fault of the sink in a run: at one of its actions, the sink is such
that it refuses some set with this fault. -/
def MeetsFault (moves : List Move) (i : Nat) (fault : Fault) : Prop :=
  ∃ sink a x, .act i sink a ∈ moves ∧ sink x = some fault

theorem course_run (o : Orchestrator) (workers : Nat) (moves : List Move) {i : Nat}
    {r : PassRecord} (hget : ((start o workers).run moves).passes[i]? = some r) :
    Pass.Course o.context (MeetsFault moves i) r.pass.document
      ((start o workers).journal i moves) r.pass.point := by
  refine pass_induction (P := fun r notes _ =>
    Pass.Course o.context (MeetsFault moves i) r.pass.document notes r.pass.point)
    o workers moves hget ?_ ?_
  · intro r hqueued
    rw [hqueued]
    exact .queued
  · intro sh r notes mine sink a ha h
    have hact := Pass.course_act o.context sink sh a
      (fun x fault hrefuses => ⟨sink, a, x, ha, hrefuses⟩) h
    rwa [← Pass.document_act o.context sink sh r.pass a] at hact

end Session

end LintRelay
