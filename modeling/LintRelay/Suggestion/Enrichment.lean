import LintRelay.Log
import LintRelay.Suggestion.Service

/-!
# Enrichment

Asking for suggestions for the first findings of a document. There is one job
for each such finding, and the jobs may be worked on in any order: a job first
polls whether the work has been cancelled, and unless it has, asks the service
and waits for the reply. When all jobs have ended, their replies are collected
in the order of the findings. A failure is recorded with its words, so collecting
breaks off at an unexpected one that cannot be told.
-/

namespace LintRelay

/-- What a service replies; no text leaves the finding as it is. -/
abbrev SuggestReply := Except SuggestError (Option String)

/-- How far a job has come. -/
inductive EnrichmentJob where
  | waiting
  | asked
  | skipped
  | answered (reply : SuggestReply)
  deriving Inhabited

def EnrichmentJob.isOver : EnrichmentJob → Bool
  | waiting | asked => false
  | skipped | answered _ => true

/-- The work on the findings of one document; the jobs belong to the first
findings, one each. -/
structure Enrichment where
  findings : List Finding
  documentText : String
  jobs : List EnrichmentJob
  deriving Inhabited

structure EnrichmentResult where
  findings : List Finding
  requested : Nat
  errors : List SuggestError
  log : List LogRecord

def EnrichmentResult.failed (r : EnrichmentResult) : Nat :=
  r.errors.length

namespace SuggestError

/-- The words for a failed request, or what comes up instead. -/
def message : SuggestError → Except Fault String
  | declined reason => reason.toFault.message
  | unexpected fault => fault.shown.map ("unexpected suggestion failure: " ++ ·)

/-- The fault behind a failed request, if it was unexpected. -/
def cause? : SuggestError → Option Fault
  | declined _ => none
  | unexpected fault => some fault

/-- What comes up where a failed request is to be recorded, if it cannot be. A service
that declines has its own words, which nobody has to find for it. -/
def raised? : SuggestError → Option Fault
  | declined _ => none
  | unexpected fault => fault.raised?

/-- The log records of a failed request for a finding; none if there are no words for
it. -/
def log (f : Finding) (e : SuggestError) : List LogRecord :=
  let label := if f.ruleId = "" then "finding" else f.ruleId
  match e with
  | declined reason =>
    match reason.toFault.message with
    | .ok words => [⟨.warning, "suggestion for " ++ label ++ " omitted: " ++ words⟩]
    | .error _ => []
  | unexpected _ =>
    [⟨.warning, "suggestion for " ++ label ++ " omitted after unexpected error"⟩]

end SuggestError

namespace Enrichment

/-- How many findings get a job: at most `limit` of those there are. -/
def budget (enabled : Bool) (limit : Int) (count : Nat) : Nat :=
  if enabled then min limit.toNat count else 0

def start (enabled : Bool) (findings : List Finding) (documentText : String) (limit : Int) :
    Enrichment :=
  ⟨findings, documentText, List.replicate (budget enabled limit findings.length) .waiting⟩

def requestFor (e : Enrichment) (f : Finding) : SuggestionRequest :=
  .ofFinding e.documentText f

def request? (e : Enrichment) (j : Nat) : Option SuggestionRequest :=
  e.findings[j]?.map e.requestFor

def poll (e : Enrichment) (j : Nat) (cancelled : Bool) : Enrichment :=
  match e.jobs[j]? with
  | some .waiting => { e with jobs := e.jobs.set j (if cancelled then .skipped else .asked) }
  | _ => e

def reply (e : Enrichment) (j : Nat) (r : SuggestReply) : Enrichment :=
  match e.jobs[j]? with
  | some .asked => { e with jobs := e.jobs.set j (.answered r) }
  | _ => e

def isOver (e : Enrichment) : Bool :=
  e.jobs.all EnrichmentJob.isOver

def next? (e : Enrichment) : Option Nat :=
  e.jobs.findIdx? (!·.isOver)

def outcome (f : Finding) : EnrichmentJob → Finding
  | .answered (.ok (some s)) => f.withSuggestion (some s)
  | _ => f

def failure? : EnrichmentJob → Option SuggestError
  | .answered (.error e) => some e
  | _ => none

/-- Whether a job counts as a request: it failed, or a text came back. -/
def counts : EnrichmentJob → Bool
  | .answered (.error _) | .answered (.ok (some _)) => true
  | _ => false

/-- What comes up where the failure of a job is to be recorded, if it cannot be. -/
def raised? (job : EnrichmentJob) : Option Fault :=
  (failure? job).bind SuggestError.raised?

/-- What is logged of jobs, up to one whose failure cannot be recorded. -/
def logOf : List (Finding × EnrichmentJob) → List LogRecord
  | [] => []
  | (f, job) :: rest =>
    (failure? job).elim [] (·.log f) ++ if (raised? job).isSome then [] else logOf rest

/-- Collect what the jobs brought, in the order of the findings. -/
def result (e : Enrichment) : EnrichmentResult :=
  let pairs := e.findings.zip e.jobs
  { findings := pairs.map (fun (f, job) => outcome f job) ++ e.findings.drop e.jobs.length
    requested := e.jobs.countP counts
    errors := e.jobs.filterMap failure?
    log := logOf pairs }

/-- What an enrichment comes to whose jobs have ended: what the jobs brought, or what came
up at the first failure that could not be recorded. -/
def collected (e : Enrichment) : Except Fault EnrichmentResult :=
  match e.jobs.findSome? raised? with
  | some fault => .error fault
  | none => .ok e.result

def work (service : SuggestionRequest → SuggestReply) (cancelled : Nat → Bool) (e : Enrichment)
    (j : Nat) : Enrichment :=
  match e.request? j with
  | none => e
  | some r => (e.poll j (cancelled j)).reply j (service r)

def inOrder (service : SuggestionRequest → SuggestReply) (cancelled : Nat → Bool)
    (e : Enrichment) : Enrichment :=
  (List.range e.jobs.length).foldl (work service cancelled) e

def answeredRequests (e : Enrichment) : List SuggestionRequest :=
  (e.findings.zip e.jobs).filterMap fun (f, job) =>
    match job with
    | .answered _ => some (e.requestFor f)
    | _ => none

end Enrichment

end LintRelay
