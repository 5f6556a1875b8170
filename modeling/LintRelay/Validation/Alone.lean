import LintRelay.Validation.Orchestrator

/-!
# A pass on its own

Running a pass from start to end when nothing else happens meanwhile and
everyone it asks answers at once.
-/

namespace LintRelay

/-- Those that a pass asks. -/
structure Collaborators where
  lint : Document → List LogRecord × Except LintError String
  settings : String → Except SettingsError DocumentSettings
  suggest : SuggestionRequest → SuggestReply

/-- The answer to a demand, with what was logged on the way. -/
def Collaborators.answer (c : Collaborators) : PassDemand → List LogRecord × PassAction
  | .sleep _ => ([], .wake)
  | .fetch key => ([], .fetched (c.settings key))
  | .lint d => ((c.lint d).1, .linted (c.lint d).2)
  | .poll job => ([], .poll job)
  | .suggest job request => ([], .replied job (c.suggest request))

def SettingsRead.Point.distance : SettingsRead.Point → Nat
  | .start => 7
  | .owning _ => 6
  | .fetching _ => 5
  | .evicting _ => 4
  | .storing _ _ | .failing _ => 3
  | .waiting _ => 2
  | .fallback => 1
  | .done _ | .broken _ _ => 0

/-- How far a job is from its end. -/
def EnrichmentJob.distance : EnrichmentJob → Nat
  | .waiting => 2
  | .asked => 1
  | .skipped | .answered _ => 0

/-- How far a pass is from its end: the points that lie ahead, and the steps that
are left at this one. -/
def Pass.Point.distance : Pass.Point → Nat × Nat
  | .queued => (15, 0)
  | .begun => (14, 0)
  | .dozing => (13, 0)
  | .woken => (12, 0)
  | .reading r => (11, r.point.distance)
  | .settled _ => (10, 0)
  | .linting _ => (9, 0)
  | .linted _ _ => (8, 0)
  | .parsing _ _ => (7, 0)
  | .parsed _ _ => (6, 0)
  | .enriching e => (5, e.jobs.foldr (·.distance + ·) 0)
  | .publishing _ => (4, 0)
  | .clearing _ => (4, 0)
  | .failing _ => (4, 0)
  | .failed _ => (3, 0)
  | .leaving _ => (2, 0)
  | .ended _ => (1, 0)

/-- The order of distances: first by the points ahead. -/
def nearer (a b : Nat × Nat) : Bool :=
  a.1 < b.1 || (a.1 = b.1 && a.2 < b.2)

theorem lex_of_nearer {a b : Nat × Nat} (h : nearer a b = true) :
    Prod.Lex (· < ·) (· < ·) a b := by
  simp only [nearer, Bool.or_eq_true, Bool.and_eq_true, decide_eq_true_eq] at h
  rw [Prod.lex_def]
  exact h

/-- A pass on its own: what it shares, how far it is, what was logged, and what
it has asked for. -/
structure SoloRun where
  shared : Shared
  pass : Pass
  log : List LogRecord := []
  asked : List PassDemand := []

instance : Inhabited SoloRun := ⟨{ shared := default, pass := default }⟩

namespace SoloRun

/-- The next step: the pass takes one of its own, or gets an answer. -/
def step (ctx : PassContext) (sink : Sink) (c : Collaborators) (r : SoloRun) : SoloRun :=
  match r.pass.demand? ctx with
  | none =>
    let change := r.pass.act ctx sink r.shared .proceed
    { r with shared := change.shared, pass := change.pass, log := r.log ++ change.log }
  | some demand =>
    let (log, action) := c.answer demand
    let change := r.pass.act ctx sink r.shared action
    { shared := change.shared
      pass := change.pass
      log := r.log ++ log ++ change.log
      asked := r.asked ++ [demand] }

/-- Run to the end: as long as steps bring the pass nearer to it. -/
def finish (ctx : PassContext) (sink : Sink) (c : Collaborators) (r : SoloRun) : SoloRun :=
  let next := r.step ctx sink c
  if _nearer : nearer next.pass.point.distance r.pass.point.distance then
    next.finish ctx sink c
  else
    r
termination_by r.pass.point.distance
decreasing_by exact lex_of_nearer _nearer

end SoloRun

def Orchestrator.validate (o : Orchestrator) (sink : Sink) (c : Collaborators) (d : Document) :
    SoloRun :=
  SoloRun.finish o.context sink c { shared := o.shared, pass := { document := d } }

end LintRelay
