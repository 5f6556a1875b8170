import LintRelay.Proofs.Validation.Records
import LintRelay.Proofs.Settings.Reading

/-!
# A pass on its own comes to its end

With a linter that gives it a readable output and a sink that refuses nothing, a pass
that is left to itself ends, and it has published one diagnostic for each finding. The
settings may come from anywhere, and fail, and the service may reply whatever it likes, as
long as there are words for it: only a fetch that another reader has not ended could hold the
pass up, and only a failure that cannot be told breaks it off.
-/

namespace LintRelay

/-! ## Jobs -/

/-- The suggestion that stands for a finding when the first findings, as many as allowed,
are asked for and a service replies. -/
def Document.suggestionBy (d : Document) (service : SuggestionRequest → SuggestReply)
    (allowed k : Nat) (f : Finding) : Option String :=
  if k < allowed then
    match service (.ofFinding d.text f) with
    | .ok (some text) => some text
    | _ => f.suggestion
  else f.suggestion

/-- There are words for whatever a service replies to requests for the first findings, as many
as allowed. -/
def Document.IsTold (d : Document) (service : SuggestionRequest → SuggestReply)
    (findings : List Finding) (allowed : Nat) : Prop :=
  ∀ f ∈ findings.take allowed, ∀ e, service (.ofFinding d.text f) = .error e → e.raised? = none

namespace Enrichment

/-- The jobs that have ended were answered by a service. -/
def Follows (service : SuggestionRequest → SuggestReply) (e : Enrichment) : Prop :=
  ∀ (j : Nat) (job : EnrichmentJob) (request : SuggestionRequest), e.jobs[j]? = some job →
    e.request? j = some request → job.isOver → job = .answered (service request)

variable {service : SuggestionRequest → SuggestReply} {e : Enrichment}

theorem follows_start (enabled : Bool) (findings : List Finding) (text : String) (limit : Int) :
    (start enabled findings text limit).Follows service := by
  intro j job request hjob _ hover
  obtain ⟨-, rfl⟩ := List.mem_replicate.mp (List.mem_of_getElem? hjob)
  cases hover

theorem Follows.set (h : e.Follows service) {j : Nat} {state : EnrichmentJob}
    (hstate : ∀ request, e.request? j = some request → state.isOver →
      state = .answered (service request)) :
    ({ e with jobs := e.jobs.set j state }).Follows service := by
  intro k job request hjob hrequest hover
  by_cases hk : j = k
  · subst hk
    have hj : j < e.jobs.length := by
      simpa using (List.getElem?_eq_some_iff.mp hjob).1
    rw [List.getElem?_set_self hj] at hjob
    obtain rfl := Option.some.inj hjob
    exact hstate request hrequest hover
  · rw [List.getElem?_set_ne hk] at hjob
    exact h k job request hjob hrequest hover

theorem Follows.suggestionFor_eq (h : e.Follows service) (hover : e.isOver) {k : Nat}
    {f : Finding} (hf : e.findings[k]? = some f) {d : Document} (htext : e.documentText = d.text) :
    e.suggestionFor k f = d.suggestionBy service e.jobs.length k f := by
  have hrequest : e.request? k = some (.ofFinding d.text f) := by
    rw [request?, hf, Option.map_some, requestFor, htext]
  rw [suggestionFor, Document.suggestionBy]
  cases hjob : e.jobs[k]? with
  | none =>
      rw [if_neg (Nat.not_lt.mpr (List.getElem?_eq_none_iff.mp hjob))]
  | some job =>
      have hended : job.isOver := List.all_eq_true.mp hover job (List.mem_of_getElem? hjob)
      obtain rfl := h k job _ hjob hrequest hended
      rw [if_pos (List.getElem?_eq_some_iff.mp hjob).1]
      simp only [outcome]
      split
      next hreply =>
        rw [EnrichmentJob.answered.inj hreply]
        rfl
      next hreply =>
        split
        next text htext => exact absurd (congrArg _ htext) (hreply text)
        next => rfl

/-- When all jobs have ended as the service replied, their failures can be recorded if there
are words for what it replied. -/
theorem Follows.isTold (h : e.Follows service) (hover : e.isOver) {d : Document}
    (htext : e.documentText = d.text) (htold : ∀ job ∈ e.jobs, raised? job = none)
    (hjobs : e.jobs.length ≤ e.findings.length) :
    d.IsTold service e.findings e.jobs.length := by
  intro f hf failure hreply
  obtain ⟨k, hk⟩ := List.getElem?_of_mem hf
  have hlt : k < e.jobs.length := by
    have hlength := (List.getElem?_eq_some_iff.mp hk).1
    rw [List.length_take] at hlength
    omega
  rw [List.getElem?_take_of_lt hlt] at hk
  have hjob : e.jobs[k]? = some e.jobs[k] := List.getElem?_eq_getElem hlt
  have hrequest : e.request? k = some (.ofFinding d.text f) := by
    rw [request?, hk, Option.map_some, requestFor, htext]
  have hended := List.all_eq_true.mp hover _ (List.getElem_mem hlt)
  have hnone := htold _ (List.getElem_mem hlt)
  rw [h k _ _ hjob hrequest hended, hreply] at hnone
  exact hnone

/-- What breaks off collecting came up at a reply of the service. -/
theorem Follows.of_error (h : e.Follows service) {d : Document} (htext : e.documentText = d.text)
    (hjobs : e.jobs.length ≤ e.findings.length) {fault : Fault}
    (herror : e.collected = .error fault) :
    ∃ f ∈ e.findings.take e.jobs.length, ∃ failure,
      service (.ofFinding d.text f) = .error failure ∧ failure.raised? = some fault := by
  obtain ⟨k, failure, hjob, hraised⟩ := job_of_collected_eq_error herror
  have hlt : k < e.jobs.length := (List.getElem?_eq_some_iff.mp hjob).1
  have hfinding : e.findings[k]? = some e.findings[k] :=
    List.getElem?_eq_getElem (Nat.lt_of_lt_of_le hlt hjobs)
  have hrequest : e.request? k = some (.ofFinding d.text e.findings[k]) := by
    rw [request?, hfinding, Option.map_some, requestFor, htext]
  refine ⟨e.findings[k], List.mem_of_getElem? (i := k) ?_, failure, ?_, hraised⟩
  · rw [List.getElem?_take_of_lt hlt, hfinding]
  · exact (EnrichmentJob.answered.inj (h k _ _ hjob hrequest rfl)).symm

theorem next?_eq_some {j : Nat} (h : e.next? = some j) :
    ∃ job, e.jobs[j]? = some job ∧ job.isOver = false := by
  obtain ⟨hj, hnot, -⟩ := List.findIdx?_eq_some_iff_getElem.mp h
  exact ⟨e.jobs[j], List.getElem?_eq_getElem hj, by simpa using hnot⟩

theorem isOver_of_next?_eq_none (h : e.next? = none) : e.isOver := by
  rw [isOver, List.all_eq_true]
  intro job hjob
  simpa using List.findIdx?_eq_none_iff.mp h job hjob

end Enrichment

/-! ## The way of a pass -/

/-- What a document is due: a set that shows the findings of its reports, with what the
service replied for the first of them, as many as some settings allow. -/
def Document.IsDue (d : Document) (ctx : PassContext) (c : Collaborators)
    (reports : List FileReport) (set : List Diagnostic) : Prop :=
  ∃ s : DocumentSettings,
    let allowed := Enrichment.budget ctx.suggestions s.maxProblems (d.findings reports).length
    d.IsTold c.suggest (d.findings reports) allowed ∧
      d.Shows ctx.relatedInformation (d.findings reports) (d.suggestionBy c.suggest allowed) set

/-- What a pass over a document comes to that reads its reports: it publishes what is due,
unless there are no words for a failure of the provider, if that is asked, or of the
service. -/
inductive Document.ComesTo (d : Document) (ctx : PassContext) (asks : Prop) (c : Collaborators)
    (reports : List FileReport) : Except PassError PassOutcome → Prop where
  | published {set : List Diagnostic} (hdue : d.IsDue ctx c reports set) :
      ComesTo d ctx asks c reports (.ok ⟨d.uri, .published, set, none⟩)
  | unsettled {e : SettingsError} {fault : Fault} (hasks : asks)
      (hanswer : c.settings d.uri = .error e) (hraised : e.raised? = some fault) :
      ComesTo d ctx asks c reports (.error (.settings fault))
  | unenriched (s : DocumentSettings) {f : Finding} {e : SuggestError} {fault : Fault}
      (hf : f ∈ (d.findings reports).take
        (Enrichment.budget ctx.suggestions s.maxProblems (d.findings reports).length))
      (hreply : c.suggest (.ofFinding d.text f) = .error e) (hraised : e.raised? = some fault) :
      ComesTo d ctx asks c reports (.error (.enrichment fault))

namespace Pass

/-- What happens next to a pass on its own: its own step, or the answer that it waits for. -/
def next (ctx : PassContext) (c : Collaborators) (p : Pass) : PassAction :=
  match p.demand? ctx with
  | none => .proceed
  | some demand => (c.answer demand).2

/-- A reader of a document's settings that nobody holds up, and that breaks off only if the
provider is asked and its answer has no words. -/
structure Reads (asks : Prop) (c : Collaborators) (d : Document) (settings : SettingsCache)
    (r : SettingsRead) : Prop where
  key : r.key = d.uri
  free : r.IsFree settings
  heeds : r.Heeds asks (c.settings d.uri) settings

/-- What is so at the points up to the linter's answer of a pass that nobody holds up. -/
def Point.IsAhead (asks : Prop) (c : Collaborators) (d : Document) (sh : Shared) : Point → Prop
  | .queued | .begun | .dozing | .woken => Reads asks c d sh.settings { key := d.uri }
  | .reading r => Reads asks c d sh.settings r
  | .settled _ | .linting _ => True
  | _ => False

/-- A pass over a document that nobody holds up on its way to ask the linter. -/
structure Preparing (asks : Prop) (c : Collaborators) (d : Document) (events : List Publication)
    (sh : Shared) (p : Pass) : Prop where
  document : p.document = d
  current : p.point.isUnderWay → sh.board.generation d.uri = p.token
  events : sh.board.history.events = events
  point : p.point.IsAhead asks c d sh

/-- A change after which a pass is still on its way to the linter, and nearer to its end. -/
structure Change.Prepares (asks : Prop) (c : Collaborators) (d : Document)
    (events : List Publication) (p : Pass) (change : Change) : Prop where
  preparing : change.pass.Preparing asks c d events change.shared
  nearer : nearer change.pass.point.distance p.point.distance

namespace Preparing

variable {ctx : PassContext} {asks : Prop} {c : Collaborators} {d : Document}
  {events : List Publication} {sh : Shared} {p : Pass} (h : p.Preparing asks c d events sh)

include h

/-- A step between two points that leaves generations and publications alone. -/
theorem getsOn {q₀ q : Point} (hpoint : p.point = q₀) {sh' : Shared} (log : List LogRecord)
    (hfrom : q₀.isUnderWay) (hgeneration : sh'.board.generation = sh.board.generation)
    (hhistory : sh'.board.history = sh.board.history) (hahead : q.IsAhead asks c d sh')
    (hnearer : LintRelay.nearer q.distance q₀.distance) :
    Change.Prepares asks c d events p ⟨sh', p.move q, log⟩ := by
  subst hpoint
  refine ⟨⟨h.document, fun _ => ?_, ?_, hahead⟩, hnearer⟩
  · rw [hgeneration]
    exact h.current hfrom
  · rw [hhistory]
    exact h.events

/-- A reader of settings that nobody holds up, and that has not broken off. -/
theorem getsOn_reading (sink : Sink) {r : SettingsRead} (hpoint : p.point = .reading r)
    (hreads : r.point.isBroken = false) :
    Change.Prepares asks c d events p (p.act ctx sink sh (p.next ctx c)) := by
  obtain ⟨hkey, hfree, hheeds⟩ : Reads asks c d sh.settings r := by
    have hahead := h.point
    rwa [hpoint] at hahead
  have hstep : ∀ {settings : SettingsCache} {r' : SettingsRead} (log : List LogRecord),
      r'.key = r.key → r'.IsFree settings ∧ r'.point.distance < r.point.distance →
      r'.Heeds asks (c.settings d.uri) settings →
      Change.Prepares asks c d events p ⟨{ sh with settings }, p.move (.reading r'), log⟩ := by
    intro settings r' log hkey' hr' hheeds'
    refine h.getsOn hpoint log rfl rfl rfl ⟨hkey'.trans hkey, hr'.1, hheeds'⟩ ?_
    simp [LintRelay.nearer, Point.distance, hr'.2]
  obtain ⟨key, point⟩ := r
  obtain rfl : key = d.uri := hkey
  cases point with
  | broken => cases hreads
  | done s =>
      have hnext : p.next ctx c = .proceed := by simp [next, demand?, hpoint]
      rw [hnext]
      simp only [act, proceed, hpoint]
      exact h.getsOn hpoint _ rfl rfl rfl trivial rfl
  | fetching ticket =>
      have hnext : p.next ctx c = .fetched (c.settings d.uri) := by
        simp [next, demand?, hpoint, Collaborators.answer]
      rw [hnext]
      simp only [act, hpoint]
      exact hstep _ (SettingsRead.key_fetched ..) (SettingsRead.isFree_fetched rfl _)
        (SettingsRead.heeds_fetched hheeds)
  | _ =>
      have hnext : p.next ctx c = .proceed := by simp [next, demand?, hpoint]
      rw [hnext]
      simp only [act, proceed, hpoint]
      exact hstep _ (SettingsRead.key_step ..)
        (SettingsRead.isFree_step hfree (fun _ => by simp) (by simp [SettingsRead.Point.distance]))
        (SettingsRead.heeds_step hheeds)

/-- **Every step up to the linter brings a pass nearer to it.** -/
theorem act (ctx : PassContext) (sink : Sink)
    (hlinting : ∀ s, p.point ≠ .linting s)
    (hreading : ∀ r, p.point = .reading r → r.point.isBroken = false) :
    Change.Prepares asks c d events p (p.act ctx sink sh (p.next ctx c)) := by
  have hahead := h.point
  have hcurrent := h.current
  cases hpoint : p.point with
  | queued =>
      have hnext : p.next ctx c = .proceed := by simp [next, demand?, hpoint]
      rw [hpoint] at hahead
      rw [hnext]
      simp only [Pass.act, proceed, hpoint, Board.begin']
      refine ⟨⟨h.document, fun _ => ?_, h.events, hahead⟩, by rw [hpoint]; rfl⟩
      rw [h.document, Board.generation_supersede, if_pos rfl]
  | begun =>
      have hnext : p.next ctx c = .proceed := by simp [next, demand?, hpoint]
      rw [hpoint] at hahead
      rw [hnext]
      simp only [Pass.act, proceed, hpoint]
      split
      · exact h.getsOn hpoint _ rfl rfl rfl hahead rfl
      · exact h.getsOn hpoint _ rfl rfl rfl (by rw [h.document]; exact hahead) rfl
  | dozing =>
      have hnext : p.next ctx c = .wake := by simp [next, demand?, hpoint, Collaborators.answer]
      rw [hpoint] at hahead
      rw [hnext]
      simp only [Pass.act, hpoint]
      exact h.getsOn hpoint _ rfl rfl rfl hahead rfl
  | woken =>
      have hnext : p.next ctx c = .proceed := by simp [next, demand?, hpoint]
      rw [hpoint] at hahead hcurrent
      rw [hnext]
      simp only [Pass.act, proceed, hpoint]
      rw [if_pos (by rw [h.document, Board.isCurrent_eq_true_iff]; exact hcurrent rfl)]
      exact h.getsOn hpoint _ rfl rfl rfl (by rw [h.document]; exact hahead) rfl
  | reading r => exact h.getsOn_reading sink hpoint (hreading r hpoint)
  | settled s =>
      have hnext : p.next ctx c = .proceed := by simp [next, demand?, hpoint]
      rw [hpoint] at hcurrent
      rw [hnext]
      simp only [Pass.act, proceed, hpoint]
      rw [enter_of_current (by rw [h.document]; exact hcurrent rfl)]
      exact h.getsOn hpoint _ rfl rfl rfl trivial rfl
  | linting s => exact absurd hpoint (hlinting s)
  | _ =>
      rw [hpoint] at hahead
      exact hahead.elim

end Preparing

/-- What is so at the points of a pass over a document that goes to publish the reports
which the linter's output gives. -/
def Point.OnWay (ctx : PassContext) (asks : Prop) (c : Collaborators) (d : Document)
    (output : String) (reports : List FileReport) (sh : Shared) : Point → Prop
  | .queued | .begun | .dozing | .woken => Reads asks c d sh.settings { key := d.uri }
  | .reading r => Reads asks c d sh.settings r
  | .settled _ | .linting _ => True
  | .linted _ text | .parsing _ text => text = output
  | .parsed _ findings => findings = d.findings reports
  | .enriching e => e.Follows c.suggest ∧ e.documentText = d.text ∧
      e.findings = d.findings reports ∧ ∃ s : DocumentSettings, e.jobs.length =
        Enrichment.budget ctx.suggestions s.maxProblems (d.findings reports).length
  | .publishing set => d.IsDue ctx c reports set
  | .leaving result | .ended result => d.ComesTo ctx asks c reports result
  | .clearing _ | .failing _ | .failed _ => False

/-- What the sink has got of a pass. -/
def Point.sent (uri : String) : Point → List Publication
  | .leaving (.ok o) | .ended (.ok o) => [⟨uri, o.diagnostics⟩]
  | _ => []

/-- A pass over a document is on its way to publish the reports which the linter's output
gives. -/
structure OnWay (ctx : PassContext) (asks : Prop) (c : Collaborators) (d : Document)
    (output : String) (reports : List FileReport) (events : List Publication) (sh : Shared)
    (p : Pass) : Prop where
  document : p.document = d
  current : p.point.isUnderWay → sh.board.generation d.uri = p.token
  events : sh.board.history.events = events ++ p.point.sent d.uri
  point : p.point.OnWay ctx asks c d output reports sh

variable {ctx : PassContext} {sink : Sink} {asks : Prop} {c : Collaborators} {d : Document}
  {output : String} {reports : List FileReport} {events : List Publication} {sh : Shared} {p : Pass}

/-- A change that moves a pass to a point on its way, and nearer to its end. -/
structure Change.GetsOn (ctx : PassContext) (asks : Prop) (c : Collaborators) (d : Document)
    (output : String) (reports : List FileReport) (events : List Publication) (p : Pass)
    (change : Change) : Prop where
  onWay : change.pass.OnWay ctx asks c d output reports events change.shared
  nearer : nearer change.pass.point.distance p.point.distance

theorem Point.sent_of_isUnderWay {q : Point} (h : q.isUnderWay) (uri : String) :
    q.sent uri = [] := by
  cases q <;> first | rfl | cases h

theorem Point.sent_of_isAhead {q : Point} (h : q.IsAhead asks c d sh) (uri : String) :
    q.sent uri = [] := by
  cases q <;> first | rfl | cases h

/-- Up to the linter, a pass is on its way whatever the linter's output gives. -/
theorem Preparing.onWay (h : p.Preparing asks c d events sh) :
    p.OnWay ctx asks c d output reports events sh := by
  refine ⟨h.document, h.current, ?_, ?_⟩
  · rw [h.events, Point.sent_of_isAhead h.point, List.append_nil]
  · have hahead := h.point
    cases hpoint : p.point <;> rw [hpoint] at hahead <;> first | exact hahead | exact hahead.elim

namespace OnWay

variable (h : p.OnWay ctx asks c d output reports events sh)

include h

/-- A step between two points under way that leaves generations and publications alone. -/
theorem getsOn {q₀ q : Point} (hpoint : p.point = q₀) {sh' : Shared} (log : List LogRecord)
    (hfrom : q₀.isUnderWay) (hto : q.isUnderWay)
    (hgeneration : sh'.board.generation = sh.board.generation)
    (hhistory : sh'.board.history = sh.board.history)
    (hon : q.OnWay ctx asks c d output reports sh') (hnearer : nearer q.distance q₀.distance) :
    Change.GetsOn ctx asks c d output reports events p ⟨sh', p.move q, log⟩ := by
  subst hpoint
  refine ⟨⟨h.document, fun _ => ?_, ?_, hon⟩, hnearer⟩
  · rw [hgeneration]
    exact h.current hfrom
  · show sh'.board.history.events = events ++ q.sent d.uri
    rw [hhistory, h.events, Point.sent_of_isUnderWay hfrom, Point.sent_of_isUnderWay hto]

theorem getsOn_enter {q₀ q : Point} (hpoint : p.point = q₀) (s : ValidationStage)
    (hfrom : q₀.isUnderWay) (hto : q.isUnderWay)
    (hon : ∀ board, q.OnWay ctx asks c d output reports { sh with board })
    (hnearer : nearer q.distance q₀.distance) :
    Change.GetsOn ctx asks c d output reports events p (enter sh p s q) := by
  have hcurrent : sh.board.generation p.document.uri = p.token := by
    rw [h.document]
    exact h.current (hpoint ▸ hfrom)
  rw [enter_of_current hcurrent]
  exact h.getsOn hpoint _ hfrom hto rfl rfl (hon _) hnearer

theorem breaksOff {q₀ : Point} {e : PassError} (hpoint : p.point = q₀) (log : List LogRecord)
    (hfrom : q₀.isUnderWay) (hcomes : d.ComesTo ctx asks c reports (.error e))
    (hnearer : nearer (Point.leaving (.error e)).distance q₀.distance) :
    Change.GetsOn ctx asks c d output reports events p
      ⟨sh, p.move (.leaving (.error e)), log⟩ := by
  subst hpoint
  refine ⟨⟨h.document, by rintro ⟨⟩, ?_, hcomes⟩, hnearer⟩
  rw [h.events, Point.sent_of_isUnderWay hfrom]
  rfl

/-- The steps up to the linter. -/
theorem getsOn_ahead (sink : Sink) (hahead : p.point.IsAhead asks c d sh)
    (hlinting : ∀ s, p.point ≠ .linting s)
    (hreading : ∀ r, p.point = .reading r → r.point.isBroken = false) :
    Change.GetsOn ctx asks c d output reports events p (p.act ctx sink sh (p.next ctx c)) := by
  have hevents : sh.board.history.events = events := by
    rw [h.events, Point.sent_of_isAhead hahead, List.append_nil]
  obtain ⟨hpreparing, hnearer⟩ :=
    Preparing.act ⟨h.document, h.current, hevents, hahead⟩ ctx sink hlinting hreading
  exact ⟨hpreparing.onWay, hnearer⟩

/-- The next job polls or gets its reply, and after the last one the set is there. -/
theorem getsOn_enriching (sink : Sink) {e : Enrichment} (hpoint : p.point = .enriching e) :
    Change.GetsOn ctx asks c d output reports events p (p.act ctx sink sh (p.next ctx c)) := by
  have hon := h.point
  rw [hpoint] at hon
  obtain ⟨hfollows, htext, hfindings, s, hlength⟩ := hon
  have hjobs : e.jobs.length ≤ e.findings.length := by
    rw [hlength, hfindings]
    exact (Enrichment.budget_le ..).2
  cases hjob? : e.next? with
  | none =>
      have hnext : p.next ctx c = .proceed := by simp [next, demand?, hpoint, hjob?]
      have hover : e.isOver := Enrichment.isOver_of_next?_eq_none hjob?
      rw [hnext]
      simp only [act, proceed, hpoint, collect, if_pos hover]
      split
      next fault herror =>
        obtain ⟨f, hf, failure, hreply, hraised⟩ := hfollows.of_error htext hjobs herror
        rw [hfindings, hlength] at hf
        exact h.breaksOff hpoint _ rfl (.unenriched s hf hreply hraised) rfl
      next result hcollected =>
        obtain rfl := Enrichment.eq_result_of_collected hcollected
        have htold := hfollows.isTold hover htext (Enrichment.collected_iff.mp ⟨_, hcollected⟩)
          hjobs
        have hshows := (Enrichment.shows_result d ctx.relatedInformation hjobs).congr
          fun k f hf => hfollows.suggestionFor_eq hover hf htext
        rw [hfindings, hlength] at hshows htold
        exact h.getsOn hpoint _ rfl rfl rfl rfl ⟨s, htold, by rwa [h.document]⟩ rfl
  | some j =>
      obtain ⟨job, hjob, hnot⟩ := Enrichment.next?_eq_some hjob?
      have hlt : j < e.findings.length :=
        Nat.lt_of_lt_of_le (List.getElem?_eq_some_iff.mp hjob).1 hjobs
      have hrequest := e.request?_of_lt hlt
      -- whatever the job does next, it comes nearer to its end
      have hset : ∀ (job' : EnrichmentJob), job'.distance < job.distance →
          (job'.isOver → job' = .answered (c.suggest (e.requestFor e.findings[j]))) →
          Change.GetsOn ctx asks c d output reports events p
            (stay sh p (.enriching { e with jobs := e.jobs.set j job' })) := by
        intro job' hdistance hanswered
        refine h.getsOn hpoint [] rfl rfl rfl rfl ⟨hfollows.set ?_, htext, hfindings, s, ?_⟩ ?_
        · intro request hrequest' hover
          obtain rfl := Option.some.inj (hrequest.symm.trans hrequest')
          exact hanswered hover
        · rw [List.length_set, hlength]
        · simp [nearer, Point.distance, foldr_set_lt EnrichmentJob.distance hjob hdistance]
      cases job with
      | waiting =>
          have hnext : p.next ctx c = .poll j := by
            simp [next, demand?, hpoint, hjob?, hjob, Collaborators.answer]
          have hcurrent : sh.board.isCurrent p.document.uri p.token := by
            rw [h.document, Board.isCurrent_eq_true_iff]
            exact h.current (by rw [hpoint]; rfl)
          rw [hnext]
          simp only [act, hpoint, Enrichment.poll, hjob, hcurrent]
          exact hset .asked (by decide) (by simp [EnrichmentJob.isOver])
      | asked =>
          have hnext : p.next ctx c = .replied j (c.suggest (e.requestFor e.findings[j])) := by
            simp [next, demand?, hpoint, hjob?, hjob, hrequest, Collaborators.answer]
          rw [hnext]
          simp only [act, hpoint, Enrichment.reply, hjob]
          exact hset _ (by simp [EnrichmentJob.distance]) fun _ => rfl
      | skipped | answered => cases hnot

/-- **Every step brings a pass on its own nearer to its end**, on the way to publish what
it should. -/
theorem act (hlint : (c.lint d).2 = .ok output)
    (hread : (Report.parse output).reports = .ok reports)
    (hsink : ∀ set, d.IsDue ctx c reports set → sink ⟨d.uri, set⟩ = none)
    (hresult : p.result? = none) :
    Change.GetsOn ctx asks c d output reports events p (p.act ctx sink sh (p.next ctx c)) := by
  have hon := h.point
  have hcurrent := h.current
  cases hpoint : p.point with
  | queued | begun | dozing | woken | settled =>
      refine h.getsOn_ahead sink ?_ (fun s => by simp [hpoint]) (fun r => by simp [hpoint])
      rwa [hpoint] at hon ⊢
  | reading r =>
      rw [hpoint] at hon
      cases hbroken : r.point.isBroken with
      | false =>
          refine h.getsOn_ahead sink (by rwa [hpoint]) (fun s => by simp [hpoint]) fun r' hr' => ?_
          obtain rfl := Point.reading.inj (hpoint.symm.trans hr')
          exact hbroken
      | true =>
          obtain ⟨key, fault, ticket, rfl⟩ := SettingsRead.eq_of_isBroken hbroken
          obtain ⟨hasks, e, hanswer, hraised⟩ := hon.heeds
          have hnext : p.next ctx c = .proceed := by simp [next, demand?, hpoint]
          rw [hnext]
          simp only [Pass.act, proceed, hpoint]
          exact h.breaksOff hpoint _ rfl (.unsettled hasks hanswer hraised) rfl
  | linting s =>
      have hnext : p.next ctx c = .linted (.ok output) := by
        simp [next, demand?, hpoint, Collaborators.answer, h.document, hlint]
      rw [hnext]
      simp only [Pass.act, hpoint]
      exact h.getsOn hpoint _ rfl rfl rfl rfl rfl rfl
  | linted s text =>
      have hnext : p.next ctx c = .proceed := by simp [next, demand?, hpoint]
      rw [hpoint] at hon
      rw [hnext]
      simp only [Pass.act, proceed, hpoint]
      exact h.getsOn_enter hpoint _ rfl rfl (fun _ => hon) rfl
  | parsing s text =>
      have hnext : p.next ctx c = .proceed := by simp [next, demand?, hpoint]
      rw [hpoint] at hon
      obtain rfl : text = output := hon
      rw [hnext]
      simp only [Pass.act, proceed, hpoint, read, hread]
      exact h.getsOn hpoint _ rfl rfl rfl rfl (by rw [h.document]; rfl) rfl
  | parsed s findings =>
      have hnext : p.next ctx c = .proceed := by simp [next, demand?, hpoint]
      rw [hpoint] at hon
      obtain rfl : findings = d.findings reports := hon
      rw [hnext]
      simp only [Pass.act, proceed, hpoint]
      refine h.getsOn_enter hpoint _ rfl rfl (fun _ => ?_) rfl
      exact ⟨Enrichment.follows_start _ _ _ _, congrArg Document.text h.document, rfl, s,
        List.length_replicate⟩
  | enriching e => exact h.getsOn_enriching sink hpoint
  | publishing set =>
      have hnext : p.next ctx c = .proceed := by simp [next, demand?, hpoint]
      rw [hpoint] at hon hcurrent
      rw [hnext]
      simp only [Pass.act, proceed, hpoint]
      have hcurrent : sh.board.generation p.document.uri = p.token := by
        rw [h.document]
        exact hcurrent rfl
      rw [publishAs_of_current hcurrent]
      have htaken : sink ⟨p.document.uri, set⟩ = none := by
        rw [h.document]
        exact hsink set hon
      simp only [htaken]
      refine ⟨⟨h.document, by rintro ⟨⟩, ?_, ?_⟩, by rw [hpoint]; rfl⟩
      rotate_left
      · show d.ComesTo ctx asks c reports (.ok ⟨p.document.uri, .published, set, none⟩)
        rw [h.document]
        exact .published hon
      have hevents := h.events
      rw [hpoint] at hevents
      rw [Board.history_publish _ _ _ _ _ hcurrent, hevents, htaken, h.document]
      simp [Point.sent, move]
  | leaving result =>
      have hnext : p.next ctx c = .proceed := by simp [next, demand?, hpoint]
      rw [hpoint] at hon
      rw [hnext]
      simp only [Pass.act, proceed, hpoint]
      refine ⟨⟨h.document, by rintro ⟨⟩, ?_, hon⟩, by rw [hpoint]; rfl⟩
      have hevents := h.events
      rw [hpoint] at hevents
      rw [Board.history_finish, hevents]
      cases result <;> rfl
  | ended result => simp [result?, hpoint] at hresult
  | clearing | failing | failed =>
      rw [hpoint] at hon
      exact hon.elim

end OnWay

end Pass

namespace SoloRun

variable {ctx : PassContext} {sink : Sink} {asks : Prop} {c : Collaborators} {d : Document}
  {output : String} {reports : List FileReport} {events : List Publication}

theorem step_eq (ctx : PassContext) (sink : Sink) (c : Collaborators) (r : SoloRun) :
    (r.step ctx sink c).shared = (r.pass.act ctx sink r.shared (r.pass.next ctx c)).shared ∧
      (r.step ctx sink c).pass = (r.pass.act ctx sink r.shared (r.pass.next ctx c)).pass := by
  unfold step Pass.next
  cases r.pass.demand? ctx with
  | none => exact ⟨rfl, rfl⟩
  | some demand => exact ⟨rfl, rfl⟩

theorem not_nearer_step {r : SoloRun} {result : Except PassError PassOutcome}
    (hresult : r.pass.result? = some result) :
    ¬ nearer (r.step ctx sink c).pass.point.distance r.pass.point.distance := by
  have hpoint := Pass.point_of_result? hresult
  have hsame : (r.step ctx sink c).pass = r.pass := by
    rw [(step_eq ctx sink c r).2]
    simp only [Pass.next, Pass.demand?, hpoint, Pass.act, Pass.proceed]
  rw [hsame]
  simp [nearer]

/-- A pass on its way that runs on its own ends on its way. -/
theorem onWay_finish (hlint : (c.lint d).2 = .ok output)
    (hread : (Report.parse output).reports = .ok reports)
    (hsink : ∀ set, d.IsDue ctx c reports set → sink ⟨d.uri, set⟩ = none)
    (r : SoloRun) (h : r.pass.OnWay ctx asks c d output reports events r.shared) :
    (r.finish ctx sink c).pass.OnWay ctx asks c d output reports events
        (r.finish ctx sink c).shared ∧
      (r.finish ctx sink c).pass.result?.isSome := by
  have hstep : ∀ r : SoloRun, r.pass.OnWay ctx asks c d output reports events r.shared →
      r.pass.result? = none →
      (r.step ctx sink c).pass.OnWay ctx asks c d output reports events (r.step ctx sink c).shared ∧
        nearer (r.step ctx sink c).pass.point.distance r.pass.point.distance := by
    intro r h hresult
    obtain ⟨hshared, hpass⟩ := step_eq ctx sink c r
    obtain ⟨hon, hnearer⟩ := h.act hlint hread hsink hresult
    rw [← hpass] at hon hnearer
    rw [← hshared] at hon
    exact ⟨hon, hnearer⟩
  induction r using finish.induct ctx sink c with
  | case1 r next hnearer ih =>
      rw [finish, dif_pos hnearer]
      cases hresult : r.pass.result? with
      | none => exact ih (hstep r h hresult).1
      | some result => exact absurd hnearer (not_nearer_step hresult)
  | case2 r next hnot =>
      rw [finish, dif_neg hnot]
      refine ⟨h, ?_⟩
      cases hresult : r.pass.result? with
      | none => exact absurd (hstep r h hresult).2 hnot
      | some result => rfl

end SoloRun

/-- **A pass on its own comes to its end**, unless another reader has not ended the fetch of
its settings. It publishes what its document is due, which the sink has to take, or breaks off
where there are no words for a failure. -/
theorem Orchestrator.validate_comesTo (o : Orchestrator) {sink : Sink} {c : Collaborators}
    {d : Document} {output : String} {reports : List FileReport}
    (hlint : (c.lint d).2 = .ok output) (hread : (Report.parse output).reports = .ok reports)
    (hsink : ∀ set, d.IsDue o.context c reports set → sink ⟨d.uri, set⟩ = none)
    (hfree : SettingsRead.IsFree o.shared.settings { key := d.uri }) :
    ∃ result, d.ComesTo o.context (o.shared.settings.Asks d.uri) c reports result ∧
      (o.validate sink c d).pass.result? = some result ∧
      (o.validate sink c d).shared.board.history.events =
        o.shared.board.history.events ++ (Pass.Point.ended result).sent d.uri := by
  have hstart : Pass.OnWay o.context (o.shared.settings.Asks d.uri) c d output reports
      o.shared.board.history.events o.shared { document := d } :=
    ⟨rfl, by rintro ⟨⟩, (List.append_nil _).symm, ⟨rfl, hfree, id⟩⟩
  obtain ⟨hon, hended⟩ := SoloRun.onWay_finish hlint hread hsink
    { shared := o.shared, pass := { document := d } } hstart
  obtain ⟨result, hresult⟩ := Option.isSome_iff_exists.mp hended
  have hpoint := Pass.point_of_result? hresult
  have hend := hon.point
  rw [hpoint] at hend
  refine ⟨result, hend, hresult, ?_⟩
  have hevents := hon.events
  rw [hpoint] at hevents
  exact hevents

end LintRelay
