import LintRelay.Config.Basic
import LintRelay.Schema.Assign
import LintRelay.Schema.Scalar

/-!
# The fields of a configuration

Which values the fields of a configuration accept, at loading and when one is
assigned later.
-/

namespace LintRelay

open LintRelay.Schema

def LinterConfig.record : Record LinterConfig where
  name := "LinterConfig"
  initial := {}
  fields := [
    .given "binary" text fun x c => { c with binary := x },
    .given "timeout" (optional nonNegative) fun x c => { c with timeout := x },
    .given "extra_args" (listOf .notList text) fun x c => { c with extraArgs := x }]

def SuggestionConfig.record : Record SuggestionConfig where
  name := "SuggestionConfig"
  initial := {}
  fields := [
    .given "enabled" bool fun x c => { c with enabled := x },
    .given "endpoint" text fun x c => { c with endpoint := x },
    .given "model" text fun x c => { c with model := x },
    .given "temperature" fromZeroToTwo fun x c => { c with temperature := x },
    .given "api_key_env" text fun x c => { c with apiKeyEnv := x },
    .given "timeout" (optional nonNegative) fun x c => { c with timeout := x },
    .given "max_workers" (intFrom 1) fun x c => { c with maxWorkers := x }]

def ValidationConfig.record : Record ValidationConfig where
  name := "ValidationConfig"
  initial := {}
  fields := [
    .given "validate_on_change" bool fun x c => { c with validateOnChange := x },
    .given "debounce_seconds" nonNegative fun x c => { c with debounceSeconds := x },
    .given "on_linter_failure" (choice FailurePolicy.named) fun x c =>
      { c with onLinterFailure := x },
    .given "related_information" bool fun x c => { c with relatedInformation := x },
    .given "max_workers" (intFrom 1) fun x c => { c with maxWorkers := x }]

def DocumentSettings.record : Record DocumentSettings where
  name := "DocumentSettings"
  initial := {}
  fields := [.given "max_problems" (intFrom 0) fun x c => { c with maxProblems := x }]

def Config.record : Record Config where
  name := "AppConfig"
  initial := {}
  fields := [
    .given "linter" LinterConfig.record.decode fun x c => { c with linter := x },
    .given "suggestions" SuggestionConfig.record.decode fun x c => { c with suggestions := x },
    .given "validation" ValidationConfig.record.decode fun x c => { c with validation := x },
    .given "defaults" DocumentSettings.record.decode fun x c => { c with defaults := x }]

/-- Assign to the field at a path. The settings of a document cannot be changed
in place, only replaced. -/
def Config.assignField (c : Config) : List String → Value → Checked Config
  | ["linter", name], v =>
    (LinterConfig.record.assign name v c.linter).map fun x => { c with linter := x }
  | ["suggestions", name], v =>
    (SuggestionConfig.record.assign name v c.suggestions).map fun x => { c with suggestions := x }
  | ["validation", name], v =>
    (ValidationConfig.record.assign name v c.validation).map fun x => { c with validation := x }
  | ["defaults", name], _ => .error [⟨[.field name], .frozen⟩]
  | path, v => Config.record.assign (path.getLastD "") v c

def timeoutValue : Option Float → Value
  | none => .null
  | some x => .float x

def LinterConfig.toValue (c : LinterConfig) : Value :=
  .table [
    ("binary", .text c.binary),
    ("timeout", timeoutValue c.timeout),
    ("extra_args", .texts c.extraArgs)]

def SuggestionConfig.toValue (c : SuggestionConfig) : Value :=
  .table [
    ("enabled", .bool c.enabled),
    ("endpoint", .text c.endpoint),
    ("model", .text c.model),
    ("temperature", .float c.temperature),
    ("api_key_env", .text c.apiKeyEnv),
    ("timeout", timeoutValue c.timeout),
    ("max_workers", .nat c.maxWorkers)]

def ValidationConfig.toValue (c : ValidationConfig) : Value :=
  .table [
    ("validate_on_change", .bool c.validateOnChange),
    ("debounce_seconds", .float c.debounceSeconds),
    ("on_linter_failure", .text c.onLinterFailure.name),
    ("related_information", .bool c.relatedInformation),
    ("max_workers", .nat c.maxWorkers)]

def DocumentSettings.toValue (s : DocumentSettings) : Value :=
  .table [("max_problems", .nat s.maxProblems)]

def Config.toValue (c : Config) : Value :=
  .table [
    ("linter", c.linter.toValue),
    ("suggestions", c.suggestions.toValue),
    ("validation", c.validation.toValue),
    ("defaults", c.defaults.toValue)]

def Config.assign (c : Config) (path : List String) (v : Value) :
    Except AssignError (Assigned Config) :=
  assignAt "AppConfig" c.toValue path v c (c.assignField path v)

/-! ## A configuration in use -/

structure Assignment where
  path : List String
  value : Value

inductive ConfigInUse where
  | checked (c : Config)
  /-- A private attribute has been set, and these are the fields since then. What later
  assignments do is not followed. -/
  | loose (fields : Value)
  deriving Inhabited

namespace ConfigInUse

def toValue : ConfigInUse → Value
  | checked c => c.toValue
  | loose fields => fields

/-- A configuration after an assignment, and why it was refused, if it was. -/
def perform (s : ConfigInUse) (a : Assignment) : ConfigInUse × Option AssignError :=
  match s with
  | loose _ => (s, none)
  | checked c =>
    match c.assign a.path a.value with
    | .error e => (s, some e)
    | .ok (.checked assigned) => (checked assigned, none)
    | .ok (.replaced path fields) => (loose (c.toValue.putAt path (.table fields)), none)
    | .ok .privately => (loose c.toValue, none)

end ConfigInUse

end LintRelay
