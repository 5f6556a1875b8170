import LintRelay.Proofs.Config.Bounds
import LintRelay.Proofs.Suggestion.Endpoint
import LintRelay.Validation.Build

/-!
# Putting together what was loaded

A configuration that is loaded has workers enough, so its parts can be put together unless
suggestions are asked for at a place that is no endpoint. Loading does not look at the endpoint:
any text is taken for one.
-/

namespace LintRelay

/-! ## The parts of a configuration within its bounds -/

theorem checkWorkers_of_le {n : Nat} (h : 1 ≤ n) : checkWorkers n = .ok () :=
  if_neg (by omega)

namespace SuggestionConfig

variable {c : SuggestionConfig}

/-- Suggestions are turned off, or asked for at an endpoint. -/
def Offers (c : SuggestionConfig) : Prop :=
  c.enabled = true → CompletionService.IsEndpoint c.endpoint

/-- With workers enough, the endpoint alone is left to be refused. -/
theorem build_of_bounded (h : c.Bounded) :
    c.build =
      if c.enabled then
        (c.service.check.mapError BuildError.endpoint).map fun _ => some c.service
      else .ok none := by
  rw [build, checkWorkers_of_le h.maxWorkers]
  cases c.enabled with
  | false => rfl
  | true => cases c.service.check <;> rfl

theorem exists_build_iff (h : c.Bounded) : (∃ service, c.build = .ok service) ↔ c.Offers := by
  rw [build_of_bounded h, Offers]
  cases c.enabled with
  | false => simp
  | true =>
    rw [show CompletionService.IsEndpoint c.endpoint ↔ c.service.check = .ok () from
      (CompletionService.check_eq_ok_iff (s := c.service)).symm]
    cases c.service.check with
    | error e => simp [Except.mapError, Except.map]
    | ok _ => simp [Except.mapError, Except.map]

theorem build_eq_error (h : c.Bounded) {e : BuildError} (hbuild : c.build = .error e) :
    ∃ why, c.service.check = .error why ∧ e = .endpoint why := by
  rw [build_of_bounded h] at hbuild
  split_ifs at hbuild
  cases hcheck : c.service.check with
  | ok _ =>
    rw [hcheck] at hbuild
    cases hbuild
  | error why =>
    rw [hcheck] at hbuild
    cases hbuild
    exact ⟨why, rfl, rfl⟩

end SuggestionConfig

namespace Environment

variable {env : Environment}

/-! ## References -/

theorem expandText_of_not_mem {cs : List Char} (h : '$' ∉ cs) : expandText env cs = cs := by
  induction cs with
  | nil => rw [expandText]
  | cons c cs ih =>
    rw [List.mem_cons, not_or] at h
    rw [expandText, if_neg (Ne.symm h.1), ih h.2]

theorem expandText_reference {name cs : List Char} {s : String}
    (hreference : reference? cs = some (name, [])) (h : env (String.ofList name) = some s) :
    expandText env ('$' :: cs) = s.toList := by
  rw [expandText, if_pos rfl]
  split
  · rename_i hnone
    rw [hreference] at hnone
    cases hnone
  · rename_i hsome
    rw [hreference] at hsome
    obtain ⟨rfl, rfl⟩ := Prod.mk.inj (Option.some.inj hsome)
    rw [h]
    change s.toList ++ expandText env [] = _
    rw [expandText, List.append_nil]

end Environment

namespace Config

variable {c : Config}

theorem exists_orchestrator (h : c.Bounded) (hasProvider suggestions : Bool) :
    ∃ o, c.orchestrator hasProvider suggestions = .ok o := by
  rw [orchestrator, checkWorkers_of_le h.validation.maxWorkers]
  exact ⟨_, rfl⟩

/-- Parts that are brought along are not looked for in the configuration. -/
theorem exists_assemble_iff (h : c.Bounded) (hasProvider : Bool) (brought : Option Bool) :
    (∃ o, c.assemble hasProvider brought = .ok o) ↔ (brought = none → c.suggestions.Offers) := by
  cases brought with
  | some suggestions => exact iff_of_true (exists_orchestrator h hasProvider suggestions) nofun
  | none =>
    rw [← SuggestionConfig.exists_build_iff h.suggestions, assemble]
    cases c.suggestions.build with
    | error e => simp [Except.map, bind, Except.bind]
    | ok service =>
      exact iff_of_true (exists_orchestrator h hasProvider service.isSome) fun _ => ⟨service, rfl⟩

theorem assemble_eq_error (h : c.Bounded) {hasProvider : Bool} {brought : Option Bool}
    {e : BuildError} (hassemble : c.assemble hasProvider brought = .error e) :
    c.suggestions.build = .error e := by
  cases brought with
  | some suggestions =>
    change c.orchestrator hasProvider suggestions = .error e at hassemble
    obtain ⟨o, ho⟩ := exists_orchestrator h hasProvider suggestions
    cases hassemble.symm.trans ho
  | none =>
    change c.suggestions.build.map (·.isSome) >>= c.orchestrator hasProvider = .error e at hassemble
    cases hbuild : c.suggestions.build with
    | error why =>
      rw [hbuild] at hassemble
      cases hassemble
      rfl
    | ok service =>
      obtain ⟨o, ho⟩ := exists_orchestrator h hasProvider service.isSome
      rw [hbuild] at hassemble
      cases hassemble.symm.trans ho

/-! ## Loading takes any endpoint -/

/-- A settings file of the directory `root`, and no other file. -/
def settingsAlone (root : Path) (settings : String) : Files := fun path =>
  if path = settingsFile root then some (.file (Text.Utf8.encode settings.toList)) else none

/-- Settings that turn suggestions on and leave the endpoint to the environment. -/
def endpointReference : String :=
  "[suggestions]\nenabled = true\nendpoint = \"$ENDPOINT\"\n"

def endpointIs (endpoint : String) : Environment := fun name =>
  if name = "ENDPOINT" then some endpoint else none

/-- What suggestions are asked for at an endpoint by, with defaults for the rest. -/
def askingAt (endpoint : String) : Config :=
  { suggestions := { enabled := true, endpoint } }

theorem readSection_settingsAlone :
    (settingsAlone ⟨.relative, []⟩ endpointReference).readSection Room.ample.toml
      (projectFile ⟨.relative, []⟩) = .ok [] := by
  rfl

theorem readToml_settingsAlone :
    (settingsAlone ⟨.relative, []⟩ endpointReference).readToml Room.ample.toml
        (settingsFile ⟨.relative, []⟩) =
      .ok [("suggestions", .table [("enabled", .bool true), ("endpoint", .text "$ENDPOINT")])] := by
  with_unfolding_all rfl

theorem bounded_askingAt (endpoint : String) : (askingAt endpoint).Bounded :=
  { bounded_default with suggestions := { SuggestionConfig.bounded_default with } }

theorem expand_askingAt (endpoint : String) :
    (endpointIs endpoint).expand (askingAt "$ENDPOINT").toValue = (askingAt endpoint).toValue := by
  have hreference : Environment.reference? "ENDPOINT".toList = some ("ENDPOINT".toList, []) := by
    decide
  have hendpoint : Environment.expandText (endpointIs endpoint) "$ENDPOINT".toList =
      endpoint.toList :=
    Environment.expandText_reference hreference rfl
  simp (disch := decide) only [toValue, LinterConfig.toValue, SuggestionConfig.toValue,
    ValidationConfig.toValue, DocumentSettings.toValue, askingAt, timeoutValue, Value.texts,
    Value.nat, Environment.expand, Environment.expandEntries, Environment.expandItems,
    List.map_nil, Environment.expandText_of_not_mem, hendpoint, String.ofList_toList]

/-- Whatever the environment says the endpoint is, it is loaded as one. -/
theorem load_endpointReference (endpoint : String) :
    load .ample (settingsAlone ⟨.relative, []⟩ endpointReference) (endpointIs endpoint)
      ⟨.relative, []⟩ none = .ok (askingAt endpoint) := by
  rw [load_of_askedIsThere fun path hasked => by cases hasked]
  refine bind_eq_ok_iff.mpr ⟨_, readSection_settingsAlone,
    bind_eq_ok_iff.mpr ⟨_, readToml_settingsAlone, ?_⟩⟩
  rw [if_neg (by decide)]
  change ofValue ((endpointIs endpoint).expand (askingAt "$ENDPOINT").toValue) = _
  rw [expand_askingAt, ofValue, decode_toValue (bounded_askingAt endpoint)]
  rfl

/-! ## What can be put together -/

/-- A configuration that is loaded, whatever the files and the environment, is put together
exactly if suggestions are turned off, asked for at an endpoint, or brought along. If it is
not, the endpoint is refused, which loading never does. -/
theorem loaded_assembles_iff {room : Room} {files : Files} {env : Environment} {root : Path}
    {asked : Option Path} (hload : load room files env root asked = .ok c) :
    ((∃ service, c.suggestions.build = .ok service) ↔ c.suggestions.Offers) ∧
      (∀ hasProvider brought, (∃ o, c.assemble hasProvider brought = .ok o) ↔
        (brought = none → c.suggestions.Offers)) ∧
      ∀ hasProvider brought e, c.suggestions.build = .error e ∨
        c.assemble hasProvider brought = .error e →
          ∃ why, c.suggestions.service.check = .error why ∧ e = .endpoint why := by
  have h : c.Bounded := bounded_of_load hload
  refine ⟨SuggestionConfig.exists_build_iff h.suggestions, exists_assemble_iff h, ?_⟩
  rintro hasProvider brought e (hbuild | hassemble)
  · exact SuggestionConfig.build_eq_error h.suggestions hbuild
  · exact SuggestionConfig.build_eq_error h.suggestions (assemble_eq_error h hassemble)

/-- Suggestions asked for at `ftp://x` are loaded, and not put together; those asked for at
`HTTPS:x` are both. -/
theorem loaded_assembles_iff_ftp :
    (∃ c, load .ample (settingsAlone ⟨.relative, []⟩ endpointReference) (endpointIs "ftp://x")
        ⟨.relative, []⟩ none = .ok c ∧ ¬∃ o, c.assemble false none = .ok o) ∧
      ∃ c, load .ample (settingsAlone ⟨.relative, []⟩ endpointReference) (endpointIs "HTTPS:x")
        ⟨.relative, []⟩ none = .ok c ∧ ∃ o, c.assemble false none = .ok o := by
  refine ⟨⟨_, load_endpointReference "ftp://x", ?_⟩, ⟨_, load_endpointReference "HTTPS:x", ?_⟩⟩
  · rw [(loaded_assembles_iff (load_endpointReference "ftp://x")).2.1]
    intro hoffers
    have hcheck : (askingAt "ftp://x").suggestions.service.check ≠ .ok () := by
      decide
    exact hcheck (CompletionService.check_eq_ok_iff.mpr (hoffers rfl rfl))
  · rw [(loaded_assembles_iff (load_endpointReference "HTTPS:x")).2.1]
    intro _ _
    have hcheck : (askingAt "HTTPS:x").suggestions.service.check = .ok () := by
      decide
    exact CompletionService.check_eq_ok_iff.mp hcheck

end Config

end LintRelay
