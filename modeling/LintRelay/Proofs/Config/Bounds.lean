import LintRelay.Config.Schema
import LintRelay.Proofs.Config.Loading
import LintRelay.Proofs.Schema.Keeping

/-!
# The bounds of a configuration

The numbers of a configuration lie within bounds: those of its defaults do, reading lets no
other in, and no assignment does, whether it is accepted or refused. The bounds are said by
comparison, so that what is no number lies within none.
-/

namespace LintRelay

open LintRelay.Schema

/-- A timeout, if there is one, is not below zero. -/
def TimeoutBounded (timeout : Option Float) : Prop :=
  ∀ x ∈ timeout, 0.0 ≤ x

structure LinterConfig.Bounded (c : LinterConfig) : Prop where
  timeout : TimeoutBounded c.timeout

structure SuggestionConfig.Bounded (c : SuggestionConfig) : Prop where
  temperature_nonneg : 0.0 ≤ c.temperature
  temperature_le : c.temperature ≤ 2.0
  timeout : TimeoutBounded c.timeout
  maxWorkers : 1 ≤ c.maxWorkers

structure ValidationConfig.Bounded (c : ValidationConfig) : Prop where
  debounceSeconds : 0.0 ≤ c.debounceSeconds
  maxWorkers : 1 ≤ c.maxWorkers

structure DocumentSettings.Bounded (s : DocumentSettings) : Prop where
  maxProblems : 0 ≤ (s.maxProblems : Int)

structure Config.Bounded (c : Config) : Prop where
  linter : c.linter.Bounded
  suggestions : c.suggestions.Bounded
  validation : c.validation.Bounded
  defaults : c.defaults.Bounded

/-! ## What is read lies within the bounds -/

theorem timeoutBounded_of_optional {v : Value} {timeout : Option Float}
    (h : optional nonNegative v = .ok timeout) : TimeoutBounded timeout :=
  fun _ hx => (nonNegative_eq_ok_iff.mp (of_mem_optional h hx)).2

theorem LinterConfig.bounded_default : LinterConfig.Bounded {} where
  timeout x hx := by
    obtain rfl := Option.some.inj hx
    decide

theorem SuggestionConfig.bounded_default : SuggestionConfig.Bounded {} where
  temperature_nonneg := by decide
  temperature_le := by decide
  timeout := LinterConfig.bounded_default.timeout
  maxWorkers := by decide

theorem ValidationConfig.bounded_default : ValidationConfig.Bounded {} where
  debounceSeconds := by decide
  maxWorkers := by decide

theorem Config.bounded_default : Config.Bounded {} where
  linter := LinterConfig.bounded_default
  suggestions := SuggestionConfig.bounded_default
  validation := ValidationConfig.bounded_default
  defaults := ⟨by decide⟩

theorem LinterConfig.keeps_bounded : LinterConfig.record.Keeps LinterConfig.Bounded where
  initial := bounded_default
  fields := by
    simp only [LinterConfig.record, List.forall_mem_cons]
    refine ⟨?binary, ?timeout, ?extraArgs, nofun⟩ <;>
      refine Field.given_keeps fun v x c hx h => ?_
    case timeout => exact { h with timeout := timeoutBounded_of_optional hx }
    all_goals exact { h with }

theorem SuggestionConfig.keeps_bounded :
    SuggestionConfig.record.Keeps SuggestionConfig.Bounded where
  initial := bounded_default
  fields := by
    simp only [SuggestionConfig.record, List.forall_mem_cons]
    refine ⟨?enabled, ?endpoint, ?model, ?temperature, ?apiKeyEnv, ?timeout, ?maxWorkers, nofun⟩
      <;> refine Field.given_keeps fun v x c hx h => ?_
    case temperature =>
      obtain ⟨-, hlow, hhigh⟩ := fromZeroToTwo_eq_ok_iff.mp hx
      exact { h with temperature_nonneg := hlow, temperature_le := hhigh }
    case timeout => exact { h with timeout := timeoutBounded_of_optional hx }
    case maxWorkers => exact { h with maxWorkers := (intFrom_eq_ok_iff.mp hx).2 }
    all_goals exact { h with }

theorem ValidationConfig.keeps_bounded :
    ValidationConfig.record.Keeps ValidationConfig.Bounded where
  initial := bounded_default
  fields := by
    simp only [ValidationConfig.record, List.forall_mem_cons]
    refine ⟨?onChange, ?debounceSeconds, ?onFailure, ?related, ?maxWorkers, nofun⟩ <;>
      refine Field.given_keeps fun v x c hx h => ?_
    case debounceSeconds => exact { h with debounceSeconds := (nonNegative_eq_ok_iff.mp hx).2 }
    case maxWorkers => exact { h with maxWorkers := (intFrom_eq_ok_iff.mp hx).2 }
    all_goals exact { h with }

theorem DocumentSettings.keeps_bounded :
    DocumentSettings.record.Keeps DocumentSettings.Bounded where
  initial := ⟨by decide⟩
  fields := by
    simp only [DocumentSettings.record, List.forall_mem_cons]
    exact ⟨Field.given_keeps fun v x s hx h => ⟨Int.natCast_nonneg x⟩, nofun⟩

theorem Config.keeps_bounded : Config.record.Keeps Config.Bounded where
  initial := bounded_default
  fields := by
    simp only [Config.record, List.forall_mem_cons]
    refine ⟨?linter, ?suggestions, ?validation, ?defaults, nofun⟩ <;>
      refine Field.given_keeps fun v x c hx h => ?_
    case linter => exact { h with linter := LinterConfig.keeps_bounded.decode hx }
    case suggestions => exact { h with suggestions := SuggestionConfig.keeps_bounded.decode hx }
    case validation => exact { h with validation := ValidationConfig.keeps_bounded.decode hx }
    case defaults => exact { h with defaults := DocumentSettings.keeps_bounded.decode hx }

/-! ## What lies within the bounds can be read -/

theorem optional_timeoutValue {timeout : Option Float} (h : TimeoutBounded timeout) :
    optional nonNegative (timeoutValue timeout) = .ok timeout := by
  cases timeout with
  | none => rfl
  | some x =>
    have hx : nonNegative (.float x) = .ok x := nonNegative_eq_ok_iff.mpr ⟨rfl, h x rfl⟩
    exact (optional_of_ne_null (v := .float x) (by simp)).trans (congrArg (Except.map some) hx)

theorem LinterConfig.decode_toValue {c : LinterConfig} (h : c.Bounded) :
    record.decode c.toValue = .ok c := by
  have htimeout := optional_timeoutValue h.timeout
  have hargs : listOf .notList text (.texts c.extraArgs) = .ok c.extraArgs := itemsFrom_texts 0 _
  simp only [Record.decode, toValue, record, List.foldl_cons, List.foldl_nil]
  rw [fill_given rfl (text_text _), fill_given rfl htimeout, fill_given rfl hargs]

theorem SuggestionConfig.decode_toValue {c : SuggestionConfig} (h : c.Bounded) :
    record.decode c.toValue = .ok c := by
  have htimeout := optional_timeoutValue h.timeout
  have htemperature : fromZeroToTwo (.float c.temperature) = .ok c.temperature :=
    fromZeroToTwo_eq_ok_iff.mpr ⟨rfl, h.temperature_nonneg, h.temperature_le⟩
  have hworkers : intFrom 1 (.nat c.maxWorkers) = .ok c.maxWorkers :=
    intFrom_eq_ok_iff.mpr ⟨rfl, h.maxWorkers⟩
  simp only [Record.decode, toValue, record, List.foldl_cons, List.foldl_nil]
  rw [fill_given rfl (bool_bool _), fill_given rfl (text_text _), fill_given rfl (text_text _),
    fill_given rfl htemperature, fill_given rfl (text_text _), fill_given rfl htimeout,
    fill_given rfl hworkers]

theorem ValidationConfig.decode_toValue {c : ValidationConfig} (h : c.Bounded) :
    record.decode c.toValue = .ok c := by
  have hdebounce : nonNegative (.float c.debounceSeconds) = .ok c.debounceSeconds :=
    nonNegative_eq_ok_iff.mpr ⟨rfl, h.debounceSeconds⟩
  have hpolicy : choice FailurePolicy.named (.text c.onLinterFailure.name) =
      .ok c.onLinterFailure := by
    cases c.onLinterFailure <;> rfl
  have hworkers : intFrom 1 (.nat c.maxWorkers) = .ok c.maxWorkers :=
    intFrom_eq_ok_iff.mpr ⟨rfl, h.maxWorkers⟩
  simp only [Record.decode, toValue, record, List.foldl_cons, List.foldl_nil]
  rw [fill_given rfl (bool_bool _), fill_given rfl hdebounce, fill_given rfl hpolicy,
    fill_given rfl (bool_bool _), fill_given rfl hworkers]

theorem DocumentSettings.decode_toValue (s : DocumentSettings) :
    record.decode s.toValue = .ok s := by
  have hproblems : intFrom 0 (.nat s.maxProblems) = .ok s.maxProblems :=
    intFrom_eq_ok_iff.mpr ⟨rfl, Nat.zero_le _⟩
  simp only [Record.decode, toValue, record, List.foldl_cons, List.foldl_nil]
  rw [fill_given rfl hproblems]

namespace Config

variable {c d : Config} {v : Value}

theorem decode_toValue (h : c.Bounded) : record.decode c.toValue = .ok c := by
  simp only [Record.decode, toValue, record, List.foldl_cons, List.foldl_nil]
  rw [fill_given rfl (LinterConfig.decode_toValue h.linter),
    fill_given rfl (SuggestionConfig.decode_toValue h.suggestions),
    fill_given rfl (ValidationConfig.decode_toValue h.validation),
    fill_given rfl (DocumentSettings.decode_toValue c.defaults)]

/-- The bounds are those of reading: a configuration lies within them exactly if it is read
back from its value. -/
theorem bounded_iff_decode_toValue : c.Bounded ↔ record.decode c.toValue = .ok c :=
  ⟨decode_toValue, keeps_bounded.decode⟩

/-! ## Loading -/

theorem exists_decode_of_load {room : Room} {files : Files} {env : Environment} {root : Path}
    {asked : Option Path} (h : load room files env root asked = .ok c) :
    ∃ v, record.decode v = .ok c := by
  have hthere : AskedIsThere files asked := by
    rintro path rfl
    constructor
    · intro hfile
      rw [load_of_absent hfile] at h
      cases h
    · intro hfile
      rw [load_of_tooLong hfile] at h
      cases h
  rw [load_of_askedIsThere hthere] at h
  obtain ⟨project, -, h⟩ := bind_eq_ok_iff.mp h
  obtain ⟨settings, -, h⟩ := bind_eq_ok_iff.mp h
  split_ifs at h
  exact ⟨env.expand (layers project settings), mapError_eq_ok_iff.mp h⟩

theorem bounded_of_load {room : Room} {files : Files} {env : Environment} {root : Path}
    {asked : Option Path} (h : load room files env root asked = .ok c) : c.Bounded := by
  obtain ⟨v, hv⟩ := exists_decode_of_load h
  exact keeps_bounded.decode hv

/-! ## Assignments stay within the bounds -/

theorem Bounded.assignField {path : List String} (h : c.Bounded)
    (hassign : c.assignField path v = .ok d) : d.Bounded := by
  unfold Config.assignField at hassign
  split at hassign
  · obtain ⟨x, hx, rfl⟩ := map_eq_ok_iff.mp hassign
    exact { h with linter := LinterConfig.keeps_bounded.assign h.linter hx }
  · obtain ⟨x, hx, rfl⟩ := map_eq_ok_iff.mp hassign
    exact { h with suggestions := SuggestionConfig.keeps_bounded.assign h.suggestions hx }
  · obtain ⟨x, hx, rfl⟩ := map_eq_ok_iff.mp hassign
    exact { h with validation := ValidationConfig.keeps_bounded.assign h.validation hx }
  · cases hassign
  · exact keeps_bounded.assign h hassign

/-- An assignment by public names gives a configuration within the bounds. -/
theorem Bounded.assign {path : List String} (h : c.Bounded) (hpublic : IsPublic path)
    {x : Assigned Config} (hassign : c.assign path v = .ok x) :
    ∃ d : Config, x = .checked d ∧ d.Bounded := by
  obtain ⟨d, rfl, rfl | hfield⟩ := isChecked_of_assignAt hpublic hassign
  · exact ⟨d, rfl, h⟩
  · exact ⟨d, rfl, h.assignField hfield⟩

end Config

namespace ConfigInUse

open Config

variable {s : ConfigInUse} {c : Config} {a : Assignment} {v : Value}

/-- A configuration in use has been checked throughout, and lies within its bounds. -/
def Bounded (s : ConfigInUse) : Prop :=
  ∃ c : Config, s = checked c ∧ c.Bounded

theorem Bounded.perform (h : s.Bounded) (hpublic : IsPublic a.path) : (s.perform a).1.Bounded := by
  obtain ⟨c, rfl, hc⟩ := h
  rw [ConfigInUse.perform]
  cases hassign : c.assign a.path a.value with
  | error e => exact ⟨c, rfl, hc⟩
  | ok x =>
      obtain ⟨d, rfl, hd⟩ := hc.assign hpublic hassign
      exact ⟨d, rfl, hd⟩

def Refuses (s : ConfigInUse) (a : Assignment) : Prop :=
  (s.perform a).2.isSome

theorem Refuses.perform (h : s.Refuses a) : (s.perform a).1 = s := by
  unfold Refuses at h
  unfold ConfigInUse.perform at h ⊢
  split at h
  · cases h
  · split at h
    · rfl
    all_goals cases h

end ConfigInUse

namespace Config

end Config

end LintRelay
