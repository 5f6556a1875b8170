import LintRelay.Validation.Orchestrator

/-!
# Putting the parts together

The linter, the suggestion service and the orchestrator that a configuration
describes.
-/

namespace LintRelay

/-- Why the parts cannot be put together. -/
inductive BuildError where
  | noWorkers
  | endpoint (e : EndpointError)
  deriving DecidableEq, Repr

def BuildError.message : BuildError → String
  | .noWorkers => NoWorkers.message {}
  | .endpoint e => e.message

def LinterConfig.build (c : LinterConfig) (cwd : Option String) : Linter :=
  { binary := c.binary
    timeout := c.timeout.map Number.float
    extraArgs := c.extraArgs
    cwd }

def SuggestionConfig.service (c : SuggestionConfig) : CompletionService :=
  { endpoint := c.endpoint
    model := c.model
    temperature := .float c.temperature
    apiKeyEnv := c.apiKeyEnv
    timeout := c.timeout.map Number.float }

/-- The service that suggestions come from; none if they are turned off. -/
def SuggestionConfig.build (c : SuggestionConfig) :
    Except BuildError (Option CompletionService) := do
  let service ←
    if c.enabled then
      match c.service.check with
      | .error e => throw (.endpoint e)
      | .ok _ => pure (some c.service)
    else
      pure none
  match checkWorkers c.maxWorkers with
  | .error _ => throw .noWorkers
  | .ok _ => return service

def ValidationConfig.policy (c : ValidationConfig) : ValidationPolicy :=
  { validateOnChange := c.validateOnChange
    debounceSeconds := .float c.debounceSeconds
    onLinterFailure := c.onLinterFailure }

def Config.orchestrator (c : Config) (hasProvider suggestions : Bool) :
    Except BuildError Orchestrator :=
  match checkWorkers c.validation.maxWorkers with
  | .error _ => .error .noWorkers
  | .ok _ =>
    .ok {
      capabilities := ⟨hasProvider, c.validation.relatedInformation⟩
      policy := c.validation.policy
      suggestions
      shared := { settings := { hasProvider, global := c.defaults } } }

/-- The orchestrator that a configuration describes, put together with its parts. One who
brings a source of suggestions tells whether it has any; it takes the place of the service
that the configuration describes. -/
def Config.assemble (c : Config) (hasProvider : Bool) (brought : Option Bool) :
    Except BuildError Orchestrator := do
  let suggestions ←
    match brought with
    | some suggestions => pure suggestions
    | none => (c.suggestions.build).map (·.isSome)
  c.orchestrator hasProvider suggestions

end LintRelay
