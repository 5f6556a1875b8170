import LintRelay.Validation.Session

/-!
# Journals

What a pass has been told and what it has asked for, read off its actions as they
find it: the settings that it got or could not have, what the linter answered, which jobs
asked the service and what came back, and what broke off. An action that does not fit the point
where the pass stands leaves no note. Like the sets that were handed over, journals
decide nothing.
-/

namespace LintRelay

inductive PassNote where
  /-- The provider has answered with a failure that cannot be told. -/
  | untold (e : SettingsError)
  /-- The pass has its settings. -/
  | settled (s : DocumentSettings)
  /-- The linter has answered. -/
  | linted (answer : Except LintError String)
  /-- A job has sent its request to the service. -/
  | asked (job : Nat) (request : SuggestionRequest)
  /-- The service has replied to a job. -/
  | replied (job : Nat) (reply : SuggestReply)
  /-- The delay, the settings or the enrichment broke off with a fault that was not
  told as an answer. -/
  | interrupted (fault : Fault)
  deriving Inhabited

def PassNote.job? : PassNote → Option Nat
  | asked job _ | replied job _ => some job
  | _ => none

def PassNote.asks (job : Nat) : PassNote → Bool
  | asked j _ => j = job
  | _ => false

def PassNote.replyTo? (job : Nat) : PassNote → Option SuggestReply
  | replied j reply => if j = job then some reply else none
  | _ => none

/-- The suggestion that stands for a finding after what was noted: the text with which
the service replied to its job, or else the one that the finding came with. -/
def PassNote.suggestion? (notes : List PassNote) (job : Nat) (f : Finding) : Option String :=
  match notes.findSome? (replyTo? job) with
  | some (.ok (some text)) => some text
  | _ => f.suggestion

/-- What is noted when a job polls: unless the work has been cancelled, the job asks the
service. -/
def Enrichment.notesOfPoll (e : Enrichment) (job : Nat) (cancelled : Bool) : List PassNote :=
  match e.jobs[job]?, e.request? job with
  | some .waiting, some request => if cancelled then [] else [.asked job request]
  | _, _ => []

def Enrichment.notesOfReply (e : Enrichment) (job : Nat) (reply : SuggestReply) :
    List PassNote :=
  match e.jobs[job]? with
  | some .asked => [.replied job reply]
  | _ => []

namespace Pass

def notes (sh : Shared) (p : Pass) (a : PassAction) : List PassNote :=
  match p.point, a with
  | .reading ⟨_, .fetching _⟩, .fetched (.error e) => if e.raised?.isSome then [.untold e] else []
  | .reading ⟨_, .done s⟩, .proceed => [.settled s]
  | .linting _, .linted answer => [.linted answer]
  | .enriching e, .poll job =>
    e.notesOfPoll job (!sh.board.isCurrent p.document.uri p.token)
  | .enriching e, .replied job reply => e.notesOfReply job reply
  | .dozing, .interrupted fault | .reading _, .interrupted fault
  | .enriching _, .interrupted fault => [.interrupted fault]
  | _, _ => []

end Pass

namespace Session

def noted (s : Session) (i : Nat) (m : Move) : List PassNote :=
  match m, s.passes[i]? with
  | .act j _ a, some r => if j = i then r.pass.notes s.orchestrator.shared a else []
  | _, _ => []

/-- The journal of a pass in a run, the latest note last. -/
def journal (s : Session) (i : Nat) : List Move → List PassNote
  | [] => []
  | m :: moves => s.noted i m ++ (s.step m).journal i moves

/-- The sets that a pass handed over. -/
def handed (s : Session) (i : Nat) : List Delivery :=
  s.deliveries.filter (·.pass = i)

/-- What a pass published: the sets that the sink took from it. -/
def published (s : Session) (i : Nat) : List Publication :=
  ((s.handed i).filter Delivery.taken).map Delivery.publication

theorem noted_act (s : Session) {i : Nat} {r : PassRecord} (hget : s.passes[i]? = some r)
    (sink : Sink) (a : PassAction) :
    s.noted i (.act i sink a) = r.pass.notes s.orchestrator.shared a := by
  simp only [noted, hget, if_pos]

theorem noted_eq_nil (s : Session) {i : Nat} {m : Move}
    (h : ∀ sink a r, m = .act i sink a → s.passes[i]? ≠ some r) : s.noted i m = [] := by
  unfold noted
  split
  next j sink a r hget =>
    split
    next hj => exact absurd hget (h sink a r (by rw [hj]))
    next => rfl
  next => rfl

end Session

end LintRelay
