import LintRelay.Fault
import LintRelay.Publication

/-!
# The board of passes

Every pass over a document takes a token, which is the document's generation at
that moment. Only the pass with the current generation may show its stage or
publish; a later pass, or a closed document, makes earlier tokens worthless.
Each function here is one step that nothing interrupts.
-/

namespace LintRelay

/-- What a running pass is doing. -/
inductive ValidationStage where
  | linting
  | parsing
  | enriching
  | publishing
  deriving DecidableEq, Repr, Inhabited

/-- The name of a stage; none means that nothing runs. -/
def ValidationStage.name : Option ValidationStage → String
  | none => "idle"
  | some linting => "linting"
  | some parsing => "parsing"
  | some enriching => "enriching"
  | some publishing => "publishing"

/-- Where diagnostics go; a sink may refuse a set. -/
abbrev Sink := Publication → Option Fault

/-- The generations and stages of documents, and what was published. -/
structure Board where
  generation : String → Nat := fun _ => 0
  stage : String → Option ValidationStage := fun _ => none
  history : PublicationHistory := {}

instance : Inhabited Board := ⟨{}⟩

namespace Board

def setStage (b : Board) (uri : String) (s : Option ValidationStage) : Board :=
  { b with stage := fun u => if u = uri then s else b.stage u }

/-- Make all tokens of a document worthless. -/
def supersede (b : Board) (uri : String) : Board :=
  { b with generation := fun u => if u = uri then b.generation u + 1 else b.generation u }.setStage
    uri none

def begin' (b : Board) (uri : String) : Board × Nat :=
  (b.supersede uri, b.generation uri + 1)

def isCurrent (b : Board) (uri : String) (token : Nat) : Bool :=
  b.generation uri = token

def advance (b : Board) (uri : String) (token : Nat) (s : ValidationStage) : Board × Bool :=
  if b.isCurrent uri token then (b.setStage uri (some s), true) else (b, false)

/-- Leave all stages, if the token is current. -/
def finish (b : Board) (uri : String) (token : Nat) : Board :=
  if b.isCurrent uri token then b.setStage uri none else b

/-- The board while a set of a document is with the sink. -/
def handingOver (b : Board) (uri : String) : Board :=
  b.setStage uri (some .publishing)

/-- Publish, if the token is current. The stage is left again even if the sink
refuses. -/
def publish (b : Board) (sink : Sink) (uri : String) (token : Nat) (ds : List Diagnostic) :
    Board × Except Fault Bool :=
  if b.isCurrent uri token then
    let left := (b.handingOver uri).setStage uri none
    match sink ⟨uri, ds⟩ with
    | some fault => (left, .error fault)
    | none => ({ left with history := left.history.publish ⟨uri, ds⟩ }, .ok true)
  else
    (b, .ok false)

section

variable (b : Board) (uri u : String) (token : Nat)

@[simp] theorem generation_setStage (s : Option ValidationStage) :
    (b.setStage uri s).generation = b.generation := rfl

@[simp] theorem history_setStage (s : Option ValidationStage) :
    (b.setStage uri s).history = b.history := rfl

theorem stage_setStage (s : Option ValidationStage) :
    (b.setStage uri s).stage u = if u = uri then s else b.stage u := rfl

@[simp] theorem isCurrent_setStage (v : String) (s : Option ValidationStage) :
    (b.setStage v s).isCurrent uri token = b.isCurrent uri token := rfl

@[simp] theorem isCurrent_eq_true_iff :
    b.isCurrent uri token = true ↔ b.generation uri = token := by
  simp [isCurrent]

theorem generation_supersede :
    (b.supersede uri).generation u =
      if u = uri then b.generation u + 1 else b.generation u := rfl

theorem stage_supersede :
    (b.supersede uri).stage u = if u = uri then none else b.stage u := rfl

@[simp] theorem history_supersede : (b.supersede uri).history = b.history := rfl

@[simp] theorem generation_finish : (b.finish uri token).generation = b.generation := by
  rw [finish]
  split <;> rfl

@[simp] theorem history_finish : (b.finish uri token).history = b.history := by
  rw [finish]
  split <;> rfl

theorem stage_finish :
    (b.finish uri token).stage u =
      if u = uri ∧ b.generation uri = token then none else b.stage u := by
  by_cases h : b.generation uri = token <;> simp [finish, h, stage_setStage]

variable (sink : Sink) (ds : List Diagnostic)

@[simp] theorem generation_publish :
    (b.publish sink uri token ds).1.generation = b.generation := by
  rw [publish]
  split
  · cases sink ⟨uri, ds⟩ <;> rfl
  · rfl

theorem stage_publish :
    (b.publish sink uri token ds).1.stage u =
      if u = uri ∧ b.generation uri = token then none else b.stage u := by
  by_cases h : b.generation uri = token
  · cases hsink : sink ⟨uri, ds⟩ <;> by_cases hu : u = uri <;>
      simp [publish, h, hsink, hu, handingOver, stage_setStage]
  · simp [publish, h]

/-- With a current token, the sink gets the set and keeps it unless it refuses. -/
theorem history_publish (h : b.generation uri = token) :
    (b.publish sink uri token ds).1.history.events =
      b.history.events ++ if (sink ⟨uri, ds⟩).isNone then [⟨uri, ds⟩] else [] := by
  cases hsink : sink ⟨uri, ds⟩ <;>
    simp [publish, h, hsink, handingOver, PublicationHistory.publish]

end

end Board

end LintRelay
