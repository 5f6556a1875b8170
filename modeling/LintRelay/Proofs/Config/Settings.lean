import LintRelay.Proofs.Config.Bounds
import LintRelay.Proofs.Schema.Reading
import LintRelay.Proofs.Value.Paths

/-!
# The settings of a configuration

Each setting stands at a path of two keys, the part of the configuration and the name in it.
A configuration that is read has there what the value at that path is read as, and the default
where nothing stands.
-/

namespace LintRelay

open LintRelay.Schema

/-! ## Parts -/

variable {entries : List (String × Value)}

/-- The linter's part has what the entries of a table say. -/
structure LinterConfig.FieldsRead (entries : List (String × Value)) (c : LinterConfig) : Prop where
  binary : FieldRead entries "binary" text ({} : LinterConfig).binary c.binary
  timeout : FieldRead entries "timeout" (optional nonNegative) ({} : LinterConfig).timeout
    c.timeout
  extraArgs : FieldRead entries "extra_args" (listOf .notList text) ({} : LinterConfig).extraArgs
    c.extraArgs

/-- The suggestion service's part has what the entries of a table say. -/
structure SuggestionConfig.FieldsRead (entries : List (String × Value)) (c : SuggestionConfig) :
    Prop where
  enabled : FieldRead entries "enabled" bool ({} : SuggestionConfig).enabled c.enabled
  endpoint : FieldRead entries "endpoint" text ({} : SuggestionConfig).endpoint c.endpoint
  model : FieldRead entries "model" text ({} : SuggestionConfig).model c.model
  temperature : FieldRead entries "temperature" fromZeroToTwo ({} : SuggestionConfig).temperature
    c.temperature
  apiKeyEnv : FieldRead entries "api_key_env" text ({} : SuggestionConfig).apiKeyEnv c.apiKeyEnv
  timeout : FieldRead entries "timeout" (optional nonNegative) ({} : SuggestionConfig).timeout
    c.timeout
  maxWorkers : FieldRead entries "max_workers" (intFrom 1) ({} : SuggestionConfig).maxWorkers
    c.maxWorkers

/-- The validation's part has what the entries of a table say. -/
structure ValidationConfig.FieldsRead (entries : List (String × Value)) (c : ValidationConfig) :
    Prop where
  validateOnChange : FieldRead entries "validate_on_change" bool
    ({} : ValidationConfig).validateOnChange c.validateOnChange
  debounceSeconds : FieldRead entries "debounce_seconds" nonNegative
    ({} : ValidationConfig).debounceSeconds c.debounceSeconds
  onLinterFailure : FieldRead entries "on_linter_failure" (choice FailurePolicy.named)
    ({} : ValidationConfig).onLinterFailure c.onLinterFailure
  relatedInformation : FieldRead entries "related_information" bool
    ({} : ValidationConfig).relatedInformation c.relatedInformation
  maxWorkers : FieldRead entries "max_workers" (intFrom 1) ({} : ValidationConfig).maxWorkers
    c.maxWorkers

/-- A configuration has the parts that the entries of a table say. -/
structure Config.PartsRead (entries : List (String × Value)) (c : Config) : Prop where
  linter : FieldRead entries "linter" LinterConfig.record.decode ({} : Config).linter c.linter
  suggestions : FieldRead entries "suggestions" SuggestionConfig.record.decode
    ({} : Config).suggestions c.suggestions
  validation : FieldRead entries "validation" ValidationConfig.record.decode
    ({} : Config).validation c.validation
  defaults : FieldRead entries "defaults" DocumentSettings.record.decode
    ({} : Config).defaults c.defaults

theorem LinterConfig.fieldsRead {c : LinterConfig}
    (h : LinterConfig.record.decode (.table entries) = .ok c) : c.FieldsRead entries := by
  have hfills := fills_of_decode h
  obtain ⟨binary, hbinary, hfills⟩ := hfills.given (·.binary) (fun _ => rfl) explained_text
  obtain ⟨timeout, htimeout, hfills⟩ := hfills.given (·.timeout) (fun _ => rfl)
    (explained_optional explained_nonNegative)
  obtain ⟨extraArgs, hextraArgs, hfills⟩ := hfills.given (·.extraArgs) (fun _ => rfl)
    (explained_listOf explained_text _)
  obtain rfl := fills_nil hfills
  exact ⟨hbinary, htimeout, hextraArgs⟩

theorem SuggestionConfig.fieldsRead {c : SuggestionConfig}
    (h : SuggestionConfig.record.decode (.table entries) = .ok c) : c.FieldsRead entries := by
  have hfills := fills_of_decode h
  obtain ⟨enabled, henabled, hfills⟩ := hfills.given (·.enabled) (fun _ => rfl) explained_bool
  obtain ⟨endpoint, hendpoint, hfills⟩ := hfills.given (·.endpoint) (fun _ => rfl) explained_text
  obtain ⟨model, hmodel, hfills⟩ := hfills.given (·.model) (fun _ => rfl) explained_text
  obtain ⟨temperature, htemperature, hfills⟩ := hfills.given (·.temperature) (fun _ => rfl)
    explained_fromZeroToTwo
  obtain ⟨apiKeyEnv, hapiKeyEnv, hfills⟩ := hfills.given (·.apiKeyEnv) (fun _ => rfl)
    explained_text
  obtain ⟨timeout, htimeout, hfills⟩ := hfills.given (·.timeout) (fun _ => rfl)
    (explained_optional explained_nonNegative)
  obtain ⟨maxWorkers, hmaxWorkers, hfills⟩ := hfills.given (·.maxWorkers) (fun _ => rfl)
    (explained_intFrom 1)
  obtain rfl := fills_nil hfills
  exact ⟨henabled, hendpoint, hmodel, htemperature, hapiKeyEnv, htimeout, hmaxWorkers⟩

theorem ValidationConfig.fieldsRead {c : ValidationConfig}
    (h : ValidationConfig.record.decode (.table entries) = .ok c) : c.FieldsRead entries := by
  have hfills := fills_of_decode h
  obtain ⟨validateOnChange, hvalidateOnChange, hfills⟩ :=
    hfills.given (·.validateOnChange) (fun _ => rfl) explained_bool
  obtain ⟨debounceSeconds, hdebounceSeconds, hfills⟩ :=
    hfills.given (·.debounceSeconds) (fun _ => rfl) explained_nonNegative
  obtain ⟨onLinterFailure, honLinterFailure, hfills⟩ :=
    hfills.given (·.onLinterFailure) (fun _ => rfl) (explained_choice _)
  obtain ⟨relatedInformation, hrelatedInformation, hfills⟩ :=
    hfills.given (·.relatedInformation) (fun _ => rfl) explained_bool
  obtain ⟨maxWorkers, hmaxWorkers, hfills⟩ := hfills.given (·.maxWorkers) (fun _ => rfl)
    (explained_intFrom 1)
  obtain rfl := fills_nil hfills
  exact ⟨hvalidateOnChange, hdebounceSeconds, honLinterFailure, hrelatedInformation, hmaxWorkers⟩

theorem DocumentSettings.fieldRead {s : DocumentSettings}
    (h : DocumentSettings.record.decode (.table entries) = .ok s) :
    FieldRead entries "max_problems" (intFrom 0) ({} : DocumentSettings).maxProblems
      s.maxProblems := by
  obtain ⟨maxProblems, hmaxProblems, hfills⟩ := (fills_of_decode h).given (·.maxProblems)
    (fun _ => rfl) (explained_intFrom 0)
  obtain rfl := fills_nil hfills
  exact hmaxProblems

theorem Config.partsRead {c : Config} (h : Config.record.decode (.table entries) = .ok c) :
    c.PartsRead entries := by
  have hfills := fills_of_decode h
  obtain ⟨linter, hlinter, hfills⟩ := hfills.given (·.linter) (fun _ => rfl) (explained_decode _)
  obtain ⟨suggestions, hsuggestions, hfills⟩ := hfills.given (·.suggestions) (fun _ => rfl)
    (explained_decode _)
  obtain ⟨validation, hvalidation, hfills⟩ := hfills.given (·.validation) (fun _ => rfl)
    (explained_decode _)
  obtain ⟨defaults, hdefaults, hfills⟩ := hfills.given (·.defaults) (fun _ => rfl)
    (explained_decode _)
  obtain rfl := fills_nil hfills
  exact ⟨hlinter, hsuggestions, hvalidation, hdefaults⟩

/-! ## Settings -/

/-- A setting: the part of the configuration that it belongs to and its name there, and whether
a configuration has there what a value is read as. -/
structure Setting where
  part : String
  name : String
  reads : Value → Config → Prop

namespace Setting

def path (s : Setting) : List String :=
  [s.part, s.name]

/-- A setting that is read into a field of a part. -/
def into {σ β : Type} (part : String) (pick : Config → σ) (name : String)
    (decode : Value → Checked β) (get : σ → β) : Setting where
  part
  name
  reads v c := decode v = .ok (get (pick c))

def all : List Setting := [
  into "linter" (·.linter) "binary" text (·.binary),
  into "linter" (·.linter) "timeout" (optional nonNegative) (·.timeout),
  into "linter" (·.linter) "extra_args" (listOf .notList text) (·.extraArgs),
  into "suggestions" (·.suggestions) "enabled" bool (·.enabled),
  into "suggestions" (·.suggestions) "endpoint" text (·.endpoint),
  into "suggestions" (·.suggestions) "model" text (·.model),
  into "suggestions" (·.suggestions) "temperature" fromZeroToTwo (·.temperature),
  into "suggestions" (·.suggestions) "api_key_env" text (·.apiKeyEnv),
  into "suggestions" (·.suggestions) "timeout" (optional nonNegative) (·.timeout),
  into "suggestions" (·.suggestions) "max_workers" (intFrom 1) (·.maxWorkers),
  into "validation" (·.validation) "validate_on_change" bool (·.validateOnChange),
  into "validation" (·.validation) "debounce_seconds" nonNegative (·.debounceSeconds),
  into "validation" (·.validation) "on_linter_failure" (choice FailurePolicy.named)
    (·.onLinterFailure),
  into "validation" (·.validation) "related_information" bool (·.relatedInformation),
  into "validation" (·.validation) "max_workers" (intFrom 1) (·.maxWorkers),
  into "defaults" (·.defaults) "max_problems" (intFrom 0) (·.maxProblems)]

/-- How a configuration that is read from a value has a setting. -/
structure IsRead (s : Setting) (v : Value) (c : Config) : Prop where
  present : ∀ w, v.at? s.path = some w → s.reads w c
  absent : v.at? s.path = none → ∀ w, s.reads w {} → s.reads w c
  part : ∀ w, v.at? [s.part] = some w → w.isTable = true

theorem isRead_into {σ β : Type} {r : Record σ} {c : Config} {part name : String}
    {pick : Config → σ} {decode : Value → Checked β} {get : σ → β}
    (hpart : FieldRead entries part r.decode (pick {}) (pick c))
    (hfield : ∀ es, r.decode (.table es) = .ok (pick c) →
      FieldRead es name decode (get (pick {})) (get (pick c))) :
    (into part pick name decode get).IsRead (.table entries) c := by
  unfold FieldRead at hpart
  cases hlookup : Value.lookup entries part with
  | none =>
    rw [hlookup] at hpart
    have hnone : ∀ ks, (Value.table entries).at? (part :: ks) = none := fun ks => by
      rw [Value.at?_table_cons, hlookup]
      rfl
    refine ⟨fun w hw => ?_, fun _ w hw => ?_, fun w hw => ?_⟩
    · cases (hnone _).symm.trans hw
    · exact (congrArg (fun x => decode w = .ok (get x)) hpart).mpr hw
    · cases (hnone _).symm.trans hw
  | some below =>
    rw [hlookup] at hpart
    obtain ⟨es, rfl⟩ := exists_table_of_decode hpart
    have hread := hfield es hpart
    have hat : (Value.table entries).at? [part, name] = Value.lookup es name := by
      rw [Value.at?_table_cons, hlookup]
      change Value.lookup es name >>= (·.at? []) = _
      cases Value.lookup es name <;> rfl
    unfold FieldRead at hread
    refine ⟨fun w hw => ?_, fun hnone w hw => ?_, fun w hw => ?_⟩
    · rw [hat.symm.trans hw] at hread
      exact hread
    · rw [hat.symm.trans hnone] at hread
      exact (congrArg (fun x => decode w = .ok x) hread).mpr hw
    · change (Value.table entries).at? [part] = some w at hw
      rw [Value.at?_table_cons, hlookup] at hw
      exact Option.some.inj hw ▸ rfl

/-- A configuration that is read has every setting as the value says. -/
theorem isRead_of_decode {v : Value} {c : Config} (h : Config.record.decode v = .ok c) :
    ∀ s ∈ all, s.IsRead v c := by
  obtain ⟨entries, rfl⟩ := exists_table_of_decode h
  have hparts := Config.partsRead h
  simp only [all, List.forall_mem_cons]
  refine ⟨?_, ?_, ?_, ?_, ?_, ?_, ?_, ?_, ?_, ?_, ?_, ?_, ?_, ?_, ?_, ?_, nofun⟩
  · exact isRead_into hparts.linter fun _ hes => (LinterConfig.fieldsRead hes).binary
  · exact isRead_into hparts.linter fun _ hes => (LinterConfig.fieldsRead hes).timeout
  · exact isRead_into hparts.linter fun _ hes => (LinterConfig.fieldsRead hes).extraArgs
  · exact isRead_into hparts.suggestions fun _ hes => (SuggestionConfig.fieldsRead hes).enabled
  · exact isRead_into hparts.suggestions fun _ hes => (SuggestionConfig.fieldsRead hes).endpoint
  · exact isRead_into hparts.suggestions fun _ hes => (SuggestionConfig.fieldsRead hes).model
  · exact isRead_into hparts.suggestions fun _ hes =>
      (SuggestionConfig.fieldsRead hes).temperature
  · exact isRead_into hparts.suggestions fun _ hes => (SuggestionConfig.fieldsRead hes).apiKeyEnv
  · exact isRead_into hparts.suggestions fun _ hes => (SuggestionConfig.fieldsRead hes).timeout
  · exact isRead_into hparts.suggestions fun _ hes => (SuggestionConfig.fieldsRead hes).maxWorkers
  · exact isRead_into hparts.validation fun _ hes =>
      (ValidationConfig.fieldsRead hes).validateOnChange
  · exact isRead_into hparts.validation fun _ hes =>
      (ValidationConfig.fieldsRead hes).debounceSeconds
  · exact isRead_into hparts.validation fun _ hes =>
      (ValidationConfig.fieldsRead hes).onLinterFailure
  · exact isRead_into hparts.validation fun _ hes =>
      (ValidationConfig.fieldsRead hes).relatedInformation
  · exact isRead_into hparts.validation fun _ hes => (ValidationConfig.fieldsRead hes).maxWorkers
  · exact isRead_into hparts.defaults fun _ hes => DocumentSettings.fieldRead hes

theorem not_reads_table {s : Setting} (hs : s ∈ all) (es : List (String × Value)) (c : Config) :
    ¬s.reads (.table es) c := by
  revert s
  simp only [all, List.forall_mem_cons]
  refine ⟨?_, ?_, ?_, ?_, ?_, ?_, ?_, ?_, ?_, ?_, ?_, ?_, ?_, ?_, ?_, ?_, nofun⟩
  all_goals
    intro h
    cases h

theorem isTable_timeoutValue (timeout : Option Float) :
    (timeoutValue timeout).isTable = false := by
  cases timeout <;> rfl

/-- A configuration, seen as a value, is a table of tables, and their keys are those of the
settings. -/
theorem path_of_mem_toValue (c : Config) :
    ∀ part ∈ c.toValue.entries, ∃ es, part.2 = .table es ∧
      ∀ entry ∈ es, entry.2.isTable = false ∧ [part.1, entry.1] ∈ all.map path := by
  simp only [Config.toValue, Value.entries, List.forall_mem_cons]
  refine ⟨⟨_, rfl, ?linter⟩, ⟨_, rfl, ?suggestions⟩, ⟨_, rfl, ?validation⟩, ⟨_, rfl, ?defaults⟩,
    nofun⟩
  all_goals
    simp only [List.forall_mem_cons, List.not_mem_nil, false_imp_iff, forall_const, and_true]
  case linter => exact ⟨⟨rfl, by decide⟩, ⟨isTable_timeoutValue _, by decide⟩, ⟨rfl, by decide⟩⟩
  case suggestions =>
    exact ⟨⟨rfl, by decide⟩, ⟨rfl, by decide⟩, ⟨rfl, by decide⟩, ⟨rfl, by decide⟩,
      ⟨rfl, by decide⟩, ⟨isTable_timeoutValue _, by decide⟩, ⟨rfl, by decide⟩⟩
  case validation =>
    exact ⟨⟨rfl, by decide⟩, ⟨rfl, by decide⟩, ⟨rfl, by decide⟩, ⟨rfl, by decide⟩,
      ⟨rfl, by decide⟩⟩
  case defaults => exact ⟨rfl, by decide⟩

/-- Whatever is no table in a configuration, seen as a value, is a setting. -/
theorem exists_setting {c : Config} {p : List String} {v : Value}
    (hat : c.toValue.at? p = some v) (hv : v.isTable = false) : ∃ s ∈ all, s.path = p := by
  suffices p ∈ all.map path from List.mem_map.1 this
  cases p with
  | nil =>
    obtain rfl := Option.some.inj hat
    cases hv
  | cons part ks =>
    obtain ⟨below, hbelow, hat⟩ := Option.bind_eq_some_iff.1 hat
    obtain ⟨es, rfl, hes⟩ := path_of_mem_toValue c _ (Value.mem_of_lookup hbelow)
    cases ks with
    | nil =>
      obtain rfl := Option.some.inj hat
      cases hv
    | cons name ks =>
      obtain ⟨w, hw, hat⟩ := Option.bind_eq_some_iff.1 hat
      obtain ⟨htable, hpath⟩ := hes _ (Value.mem_of_lookup hw)
      cases ks with
      | nil => exact hpath
      | cons k ks => cases (Value.at?_cons_of_not_table htable k ks).symm.trans hat

end Setting

end LintRelay
