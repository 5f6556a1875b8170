import LintRelay.Suggestion.Enrichment

/-!
# Enrichment at work

The jobs of an enrichment in a pool of workers. One thread hands in the jobs, each with a
finding that it reads from its own copy of the list. It then waits for them one by one, in
the order of the findings, and writes what they bring into that copy, while later jobs may
still be under way. Where it cannot record a failure it waits for all jobs and breaks off.
Workers take the jobs as they were handed in and go on at any pace, so a run is any list of
moves.
-/

namespace LintRelay

inductive PoolJob.Point where
  | queued
  | taken
  /-- The job has polled, and the work had not been cancelled. -/
  | cleared
  | asked
  /-- The job has polled, and the work had been cancelled. -/
  | skipped
  | answered (reply : Except Fault (Option String))
  deriving Inhabited

/-- A job of a pool, with the finding that was handed in. -/
structure PoolJob where
  finding : Finding
  point : PoolJob.Point := .queued
  deriving Inhabited

namespace PoolJob.Point

def isQueued : Point → Bool
  | queued => true
  | taken | cleared | asked | skipped | answered _ => false

def isBusy : Point → Bool
  | taken | cleared | asked => true
  | queued | skipped | answered _ => false

def isOver : Point → Bool
  | skipped | answered _ => true
  | queued | taken | cleared | asked => false

/-- How far the job of an enrichment has come. A failure that does not say that there is no
suggestion becomes the cause of one that does. -/
def seen : Point → EnrichmentJob
  | queued | taken => .waiting
  | cleared | asked => .asked
  | skipped => .skipped
  | answered reply => .answered (reply.mapError SuggestError.ofFault)

end PoolJob.Point

structure EnrichmentSession.Outside where
  /-- Whether the work has been cancelled, as the check says one time after another. -/
  cancelled : Nat → Bool
  /-- What the service replies to the request of a job. -/
  service : Nat → SuggestionRequest → Except Fault (Option String)

structure EnrichmentSession where
  /-- The findings as the caller has them. -/
  given : List Finding
  documentText : String
  /-- How many findings get a job. -/
  budget : Nat
  /-- How many jobs can be under way at once. -/
  workers : Nat
  /-- The copy of the findings that suggestions are written into. -/
  findings : List Finding
  /-- The jobs handed in so far. -/
  jobs : List PoolJob := []
  /-- How often the check was polled. -/
  polls : Nat := 0
  /-- How many jobs were waited for. -/
  collected : Nat := 0
  requested : Nat := 0
  failed : Nat := 0
  errors : List SuggestError := []
  log : List LogRecord := []
  /-- What came up where a failure could not be recorded, and what was logged last. -/
  broken : Option (Fault × List LogRecord) := none

inductive EnrichmentSession.Move where
  /-- The next job is handed in. -/
  | submit
  /-- A free worker takes the job that has waited longest. -/
  | take
  /-- A worker goes on with its job. -/
  | work (job : Nat)
  /-- The next job has ended, and what it brought is written back. -/
  | collect

/-- What the check and the service see of a job. -/
inductive PoolEvent where
  | polled (job : Nat) (cancelled : Bool)
  | asked (job : Nat) (request : SuggestionRequest)

namespace PoolEvent

def job : PoolEvent → Nat
  | polled job _ | asked job _ => job

/-- What the check says. -/
def answer? : PoolEvent → Option Bool
  | polled _ cancelled => some cancelled
  | asked _ _ => none

def request? : PoolEvent → Option SuggestionRequest
  | polled _ _ => none
  | asked _ request => some request

end PoolEvent

namespace EnrichmentSession

/-- An enrichment before the first job is handed in. -/
def start (enabled : Bool) (findings : List Finding) (documentText : String) (limit : Int)
    (maxWorkers : Nat) : EnrichmentSession :=
  let budget := Enrichment.budget enabled limit findings.length
  { given := findings, documentText, budget, workers := min maxWorkers budget, findings }

def requestFor (s : EnrichmentSession) (f : Finding) : SuggestionRequest :=
  .ofFinding s.documentText f

def put (s : EnrichmentSession) (j : Nat) (job : PoolJob) (point : PoolJob.Point) :
    EnrichmentSession :=
  { s with jobs := s.jobs.set j { job with point } }

def busy (s : EnrichmentSession) : Nat :=
  s.jobs.countP (·.point.isBusy)

/-- A worker goes on with a job: it polls, asks the service, or gets the reply. -/
def work (o : Outside) (s : EnrichmentSession) (j : Nat) (job : PoolJob) :
    EnrichmentSession × List PoolEvent :=
  match job.point with
  | .taken =>
    let cancelled := o.cancelled s.polls
    ({ s.put j job (if cancelled then .skipped else .cleared) with polls := s.polls + 1 },
      [.polled j cancelled])
  | .cleared => (s.put j job .asked, [.asked j (s.requestFor job.finding)])
  | .asked => (s.put j job (.answered (o.service j (s.requestFor job.finding))), [])
  | .queued | .skipped | .answered _ => (s, [])

/-- What a job has brought to a finding is written back. -/
def gather (s : EnrichmentSession) (f : Finding) : PoolJob.Point → EnrichmentSession
  | .answered (.error fault) =>
    let e := SuggestError.ofFault fault
    match e.raised? with
    | some fault => { s with broken := some (fault, e.log f) }
    | none =>
      { s with
        collected := s.collected + 1, requested := s.requested + 1, failed := s.failed + 1
        errors := s.errors ++ [e], log := s.log ++ e.log f }
  | .answered (.ok (some text)) =>
    { s with
      collected := s.collected + 1, requested := s.requested + 1
      findings := s.findings.set s.collected (f.withSuggestion (some text)) }
  | .skipped | .answered (.ok none) => { s with collected := s.collected + 1 }
  | .queued | .taken | .cleared | .asked => s

def act (o : Outside) (s : EnrichmentSession) : Move → EnrichmentSession × List PoolEvent
  | .submit =>
    match s.findings[s.jobs.length]? with
    | some f =>
      if s.jobs.length < s.budget then ({ s with jobs := s.jobs ++ [{ finding := f }] }, [])
      else (s, [])
    | none => (s, [])
  | .take =>
    match s.jobs.findIdx? (·.point.isQueued) with
    | some j =>
      match s.jobs[j]? with
      | some job => if s.busy < s.workers then (s.put j job .taken, []) else (s, [])
      | none => (s, [])
    | none => (s, [])
  | .work j =>
    match s.jobs[j]? with
    | some job => s.work o j job
    | none => (s, [])
  | .collect =>
    match s.jobs[s.collected]?, s.findings[s.collected]? with
    | some job, some f =>
      if s.jobs.length = s.budget ∧ s.broken.isNone then (s.gather f job.point, []) else (s, [])
    | _, _ => (s, [])

def step (o : Outside) (s : EnrichmentSession) (m : Move) : EnrichmentSession :=
  (s.act o m).1

def run (o : Outside) (s : EnrichmentSession) (moves : List Move) : EnrichmentSession :=
  moves.foldl (step o) s

/-- What a run shows, the latest event last. -/
def trace (o : Outside) (s : EnrichmentSession) : List Move → List PoolEvent
  | [] => []
  | m :: moves => (s.act o m).2 ++ (s.step o m).trace o moves

/-- Whether every job was waited for, one by one or all together. -/
def isOver (s : EnrichmentSession) : Bool :=
  match s.broken with
  | none => s.collected = s.budget
  | some _ => s.jobs.all (·.point.isOver)

def result (s : EnrichmentSession) : EnrichmentResult :=
  ⟨s.findings, s.requested, s.errors, s.log⟩

def returned (s : EnrichmentSession) : Except Fault EnrichmentResult :=
  match s.broken with
  | none => .ok s.result
  | some (fault, _) => .error fault

theorem run_append (o : Outside) (s : EnrichmentSession) (moves moves' : List Move) :
    s.run o (moves ++ moves') = (s.run o moves).run o moves' := by
  rw [run, List.foldl_append]
  rfl

theorem trace_append (o : Outside) (s : EnrichmentSession) (moves moves' : List Move) :
    s.trace o (moves ++ moves') = s.trace o moves ++ (s.run o moves).trace o moves' := by
  induction moves generalizing s with
  | nil => rfl
  | cons m moves ih =>
      rw [List.cons_append, trace, trace, ih, List.append_assoc]
      rfl

theorem trace_concat (o : Outside) (s : EnrichmentSession) (moves : List Move) (m : Move) :
    s.trace o (moves ++ [m]) = s.trace o moves ++ ((s.run o moves).act o m).2 := by
  rw [trace_append, trace, trace, List.append_nil]

end EnrichmentSession

end LintRelay
