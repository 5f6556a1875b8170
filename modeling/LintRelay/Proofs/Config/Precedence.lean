import LintRelay.Proofs.Config.Assembling
import LintRelay.Proofs.Config.Expansion
import LintRelay.Proofs.Config.Settings
import LintRelay.Proofs.Toml.Keys

/-!
# Which layer of settings wins

What stands at a path when one table is laid over another: tables on both sides are joined, and
else the upper table wins where it says something about the path, and the lower one where it
does not. So each setting of a configuration that is loaded comes from the last layer that has
it.
-/

namespace LintRelay

namespace Value

variable {lower upper v w : Value} {base us : List (String × Value)} {k : String}
  {p : List String}

/-! ## One entry -/

/-- What a value becomes above what stands below it, if anything does. -/
def laid : Option Value → Value → Value
  | none, v => v
  | some below, v => layOver below v

theorem layOver_of_not_table (h : v.isTable = false) (below : Value) : layOver below v = v := by
  cases v with
  | table => cases h
  | _ => rfl

theorem layOver_of_below_not_table (h : w.isTable = false) (v : Value) : layOver w v = v := by
  cases v with
  | table =>
    cases w with
    | table => cases h
    | _ => rfl
  | _ => rfl

theorem laid_of_not_table (h : v.isTable = false) (below : Option Value) : laid below v = v := by
  cases below with
  | none => rfl
  | some below => exact layOver_of_not_table h below

theorem isTable_laid (below : Option Value) (v : Value) : (laid below v).isTable = v.isTable := by
  cases htable : v.isTable with
  | false => rw [laid_of_not_table htable, htable]
  | true =>
    obtain ⟨entries, rfl⟩ := eq_table_of_isTable htable
    cases below with
    | none => rfl
    | some below => cases below <;> rfl

theorem overlay_cons (base : List (String × Value)) (k : String) (v : Value)
    (rest : List (String × Value)) :
    overlay base ((k, v) :: rest) = overlay (insert k (laid (lookup base k) v) base) rest := by
  rw [overlay]
  cases lookup base k <;> rfl

/-- An entry of one table laid over another is the upper one above the lower one, or the lower
one where there is no upper one. -/
theorem lookup_overlay (h : (us.map (·.1)).Nodup) (base : List (String × Value)) (k : String) :
    lookup (overlay base us) k =
      match lookup us k with
      | none => lookup base k
      | some v => some (laid (lookup base k) v) := by
  induction us generalizing base with
  | nil => rw [overlay, lookup_nil]
  | cons entry rest ih =>
    obtain ⟨k', v⟩ := entry
    obtain ⟨hnew, hrest⟩ := List.nodup_cons.1 h
    rw [overlay_cons, ih hrest, lookup_insert, lookup_cons]
    by_cases hk : k' = k
    · subst hk
      rw [lookup_eq_none_iff.2 hnew, if_pos rfl, if_pos rfl]
    · rw [if_neg hk, if_neg hk]

theorem field?_layOver (h : (table us).Distinct) (lower : Value) (k : String) :
    (layOver lower (table us)).field? k =
      match lookup us k with
      | none => lower.field? k
      | some v => some (laid (lower.field? k) v) := by
  cases lower with
  | table base => exact lookup_overlay (h [] us rfl) base k
  | _ =>
    change lookup us k = _
    cases lookup us k <;> rfl

/-! ## Paths -/

theorem at?_layOver_of_some (h : upper.Distinct) (hat : upper.at? p = some v) :
    (layOver lower upper).at? p = some (laid (lower.at? p) v) := by
  induction p generalizing lower upper with
  | nil =>
    obtain rfl := Option.some.inj hat
    rfl
  | cons k ks ih =>
    cases htable : upper.isTable with
    | false => cases (at?_cons_of_not_table htable k ks).symm.trans hat
    | true =>
      obtain ⟨us, rfl⟩ := eq_table_of_isTable htable
      obtain ⟨above, habove, hat⟩ := Option.bind_eq_some_iff.1 hat
      change lookup us k = some above at habove
      rw [at?, at?, field?_layOver h, habove]
      cases lower.field? k with
      | none => exact hat
      | some below => exact ih (h.lookup habove) hat

theorem at?_layOver_of_hides (h : upper.Distinct) (hhides : upper.Hides p) :
    (layOver lower upper).at? p = none := by
  induction p generalizing lower upper with
  | nil => exact absurd hhides (not_hides_nil upper)
  | cons k ks ih =>
    cases htable : upper.isTable with
    | false => rw [layOver_of_not_table htable, at?_cons_of_not_table htable]
    | true =>
      obtain ⟨us, rfl⟩ := eq_table_of_isTable htable
      obtain ⟨above, habove, hhides⟩ := hides_table_cons.1 hhides
      rw [at?, field?_layOver h, habove]
      cases lower.field? k with
      | none => exact Option.eq_none_iff_forall_ne_some.2 fun _ hw => not_hides_of_at? hw hhides
      | some below => exact ih (h.lookup habove) hhides

/-- Where the upper value says nothing, the lower one has the say. -/
theorem at?_layOver_of_not_mentions (h : upper.Distinct) (hsilent : ¬upper.Mentions p) :
    (layOver lower upper).at? p = lower.at? p := by
  induction p generalizing lower upper with
  | nil => exact absurd (.inl nofun) hsilent
  | cons k ks ih =>
    cases htable : upper.isTable with
    | false => exact absurd (.inr (hides_of_not_table htable k ks)) hsilent
    | true =>
      obtain ⟨us, rfl⟩ := eq_table_of_isTable htable
      rw [at?, at?, field?_layOver h]
      cases habove : lookup us k with
      | none => rfl
      | some above =>
        have hsilent' : ¬above.Mentions ks := by
          rintro (hat | hhides)
          · exact hsilent (.inl (by rwa [at?_table_cons, habove]))
          · exact hsilent (.inr (hides_table_cons.2 ⟨above, habove, hhides⟩))
        cases lower.field? k with
        | none => exact not_not.1 fun hat => hsilent' (.inl hat)
        | some below => exact ih (h.lookup habove) hsilent'

/-- What one value laid over another has at a path. -/
structure Precedence (lower upper merged : Value) (p : List String) : Prop where
  /-- Tables in both are joined. -/
  joined : ∀ below above, lower.at? p = some (.table below) → upper.at? p = some (.table above) →
    merged.at? p = some (.table (overlay below above))
  /-- Anything else in the upper one wins. -/
  above : ∀ v, upper.at? p = some v →
    (∀ w, lower.at? p = some w → ¬(w.isTable = true ∧ v.isTable = true)) → merged.at? p = some v
  /-- What the upper one hides is not there. -/
  hidden : upper.Hides p → merged.at? p = none
  /-- What the upper one does not mention is as it was. -/
  below : ¬upper.Mentions p → merged.at? p = lower.at? p

theorem precedence_layOver (lower : Value) (h : upper.Distinct) (p : List String) :
    Precedence lower upper (layOver lower upper) p where
  joined below above hlower hupper := by
    rw [at?_layOver_of_some h hupper, hlower]
    rfl
  above v hupper hclash := by
    rw [at?_layOver_of_some h hupper]
    cases hlower : lower.at? p with
    | none => rfl
    | some w =>
      cases hw : w.isTable with
      | false => exact congrArg some (layOver_of_below_not_table hw v)
      | true =>
        have hv : v.isTable = false := Bool.eq_false_iff.2 fun hv => hclash w hlower ⟨hw, hv⟩
        exact congrArg some (layOver_of_not_table hv w)
  hidden := at?_layOver_of_hides h
  below := at?_layOver_of_not_mentions h

/-! ## Layers -/

/-- The last of some values that has something at a path has that there. -/
def LastHolds (layers : List Value) (p : List String) (v : Value) : Prop :=
  ∃ before l after, layers = before ++ l :: after ∧ l.at? p = some v ∧
    ∀ m ∈ after, m.at? p = none

/-- What is no table comes from one of two values, and from the lower one only where the upper
one has nothing. -/
theorem of_at?_layOver (h : upper.Distinct) (hv : v.isTable = false)
    (hat : (layOver lower upper).at? p = some v) :
    upper.at? p = some v ∨ upper.at? p = none ∧ lower.at? p = some v := by
  cases hupper : upper.at? p with
  | some w =>
    rw [at?_layOver_of_some h hupper] at hat
    obtain rfl := Option.some.inj hat
    rw [isTable_laid] at hv
    rw [laid_of_not_table hv]
    exact .inl rfl
  | none =>
    refine .inr ⟨rfl, ?_⟩
    by_cases hhides : upper.Hides p
    · cases (at?_layOver_of_hides h hhides).symm.trans hat
    · have hsilent : ¬upper.Mentions p := fun hmentions =>
        hmentions.elim (fun hne => hne hupper) hhides
      rw [← hat, at?_layOver_of_not_mentions h hsilent]

/-- A table hides nothing at a path of two keys if there is a table, or nothing, at the first
one when it is laid over something. -/
theorem not_hides_pair (lower : Value) {k' : String} (h : (table us).Distinct)
    (htable : ∀ w, (layOver lower (table us)).at? [k] = some w → w.isTable = true) :
    ¬(table us).Hides [k, k'] := by
  rintro ⟨q, s, w, hp, hs, hat, hw⟩
  match q with
  | [] =>
    obtain rfl := Option.some.inj hat
    cases hw
  | [k''] =>
    obtain rfl := (List.cons.inj hp).1
    have hlaid := htable _ (at?_layOver_of_some h hat)
    rw [isTable_laid, hw] at hlaid
    cases hlaid
  | _ :: _ :: q =>
    have hnil := (List.cons.inj (List.cons.inj hp).2).2
    exact hs (List.append_eq_nil_iff.1 hnil.symm).2

end Value

/-! ## Tables that are read -/

theorem Files.distinct_of_readToml {files : Files} {room : Nat} {path : Path}
    {entries : List (String × Value)} (h : files.readToml room path = .ok entries) :
    (Value.table entries).Distinct := by
  unfold readToml at h
  split at h
  · exact Except.ok.inj h ▸ Value.distinct_empty
  · cases h
  · cases h
  · split at h
    · cases h
    · split at h
      · rename_i hread
        exact Except.ok.inj h ▸ Toml.distinct_of_read hread
      · cases h
      · cases h
      · cases h

theorem Files.distinct_of_readSection {files : Files} {room : Nat} {path : Path}
    {project : List (String × Value)} (h : files.readSection room path = .ok project) :
    (Value.table project).Distinct := by
  obtain ⟨entries, hread, hproject⟩ := bind_eq_ok_iff.1 h
  obtain rfl := Except.ok.inj hproject
  have hentries := distinct_of_readToml hread
  cases hfound : (Value.table entries).field? sectionKeys.1 >>= (·.field? sectionKeys.2) with
  | none => exact Value.distinct_empty
  | some found =>
    have hat : (Value.table entries).at? [sectionKeys.1, sectionKeys.2] = some found := by
      obtain ⟨tool, htool, hfound⟩ := Option.bind_eq_some_iff.1 hfound
      rw [Value.at?, htool]
      change tool.field? sectionKeys.2 >>= (Value.at? · []) = _
      rw [hfound]
      rfl
    have hfound' : found.Distinct := fun p es hes => hentries _ es (by
      rw [Value.at?_append, hat]
      exact hes)
    exact hfound'.table_entries

/-! ## Loading -/

namespace Config

variable {project settings : List (String × Value)} {env : Environment} {c : Config}

theorem expand_defaults (env : Environment) :
    env.expand (Config.toValue {}) = Config.toValue {} := by
  simp (disch := decide) only [toValue, LinterConfig.toValue, SuggestionConfig.toValue,
    ValidationConfig.toValue, DocumentSettings.toValue, timeoutValue, Value.texts, Value.nat,
    FailurePolicy.name, Environment.expand, Environment.expandEntries, Environment.expandItems,
    List.map_nil, Environment.expandText_of_not_mem, String.ofList_toList]

theorem load_of_no_files {room : Room} {files : Files} {root : Path} (hroom : room.HoldsDefaults)
    (hproject : files (projectFile root) = none) (hsettings : files (settingsFile root) = none)
    (env : Environment) : load room files env root none = .ok {} := by
  have hsection : files.readSection room.toml (projectFile root) = .ok [] := by
    simp only [Files.readSection, Files.readToml, hproject]
    rfl
  have htable : files.readToml room.toml (settingsFile root) = .ok [] := by
    simp only [Files.readToml, hsettings]
  rw [load_of_askedIsThere fun path hasked => by cases hasked]
  refine bind_eq_ok_iff.mpr ⟨_, hsection, bind_eq_ok_iff.mpr ⟨_, htable, ?_⟩⟩
  have hwalk : ¬room.walk < Environment.levels room.lookup (layers [] []) := Nat.not_lt.mpr hroom
  rw [if_neg hwalk]
  change ofValue (env.expand (Config.toValue {})) = _
  rw [expand_defaults, ofValue, decode_toValue bounded_default]
  rfl

theorem expand_default {p : List String} {d : Value} (h : (Config.toValue {}).at? p = some d) :
    env.expand d = d := by
  have hat := Environment.at?_expand env (Config.toValue {}) p
  rw [expand_defaults, h] at hat
  exact (Option.some.inj hat).symm

theorem layers_eq (project settings : List (String × Value)) :
    layers project settings =
      Value.layOver (Value.layOver (Config.toValue {}) (.table project)) (.table settings) :=
  rfl

/-- What is no table in the layers comes from the last of the three that has something there. -/
theorem lastHolds_of_at?_layers (hproject : (Value.table project).Distinct)
    (hsettings : (Value.table settings).Distinct) {p : List String} {v : Value}
    (hv : v.isTable = false) (hat : (layers project settings).at? p = some v) :
    Value.LastHolds [Config.toValue {}, .table project, .table settings] p v := by
  rw [layers_eq] at hat
  rcases Value.of_at?_layOver hsettings hv hat with hupper | ⟨hnone, hat⟩
  · exact ⟨[_, _], _, [], rfl, hupper, nofun⟩
  · rcases Value.of_at?_layOver hproject hv hat with hmiddle | ⟨hnone', hlower⟩
    · exact ⟨[_], _, [_], rfl, hmiddle, by simpa using hnone⟩
    · exact ⟨[], _, [_, _], rfl, hlower, by simpa using ⟨hnone', hnone⟩⟩

/-- Where the layers have nothing at a path of two keys, but a table at the first one, neither the
section nor the settings have anything there. -/
theorem nothing_above (hproject : (Value.table project).Distinct)
    (hsettings : (Value.table settings).Distinct) {part name : String}
    (hat : (layers project settings).at? [part, name] = none)
    (hpart : ∀ w, (layers project settings).at? [part] = some w → w.isTable = true) :
    (Value.table project).at? [part, name] = none ∧
      (Value.table settings).at? [part, name] = none := by
  rw [layers_eq] at hat hpart
  have hupper : (Value.table settings).at? [part, name] = none := by
    by_contra hsome
    obtain ⟨w, hw⟩ := Option.ne_none_iff_exists'.1 hsome
    cases (Value.at?_layOver_of_some hsettings hw).symm.trans hat
  have hsilent : ¬(Value.table settings).Mentions [part, name] := by
    rintro (hsome | hhides)
    · exact hsome hupper
    · exact Value.not_hides_pair _ hsettings hpart hhides
  refine ⟨?_, hupper⟩
  rw [Value.at?_layOver_of_not_mentions hsettings hsilent] at hat
  by_contra hsome
  obtain ⟨w, hw⟩ := Option.ne_none_iff_exists'.1 hsome
  cases (Value.at?_layOver_of_some hproject hw).symm.trans hat

/-- A setting comes from the last of the defaults, the section and the settings that has it. -/
theorem exists_lastHolds (hproject : (Value.table project).Distinct)
    (hsettings : (Value.table settings).Distinct)
    (hdecode : record.decode (env.expand (layers project settings)) = .ok c) {s : Setting}
    (hs : s ∈ Setting.all) {d : Value} (hdefault : (Config.toValue {}).at? s.path = some d) :
    ∃ v, Value.LastHolds [Config.toValue {}, .table project, .table settings] s.path v ∧
      s.reads (env.expand v) c := by
  obtain ⟨hpresent, habsent, hpart⟩ := Setting.isRead_of_decode hdecode s hs
  rw [Environment.at?_expand] at hpresent habsent hpart
  cases hat : (layers project settings).at? s.path with
  | some v =>
    have hreads := hpresent (env.expand v) (by rw [hat, Option.map_some])
    have hv : v.isTable = false := by
      by_contra htable
      obtain ⟨es, rfl⟩ := Value.eq_table_of_isTable (Bool.not_eq_false _ ▸ htable)
      exact Setting.not_reads_table hs _ c hreads
    exact ⟨v, lastHolds_of_at?_layers hproject hsettings hv hat, hreads⟩
  | none =>
    -- an upper layer hides the default and another one opens the part again, without the setting
    have hreads : s.reads d c := by
      have hread : record.decode (Config.toValue {}) = .ok {} := decode_toValue bounded_default
      exact habsent (by rw [hat, Option.map_none]) d
        ((Setting.isRead_of_decode hread s hs).present d hdefault)
    obtain ⟨hlower, hupper⟩ := nothing_above hproject hsettings hat fun w hw => by
      rw [← Environment.isTable_expand env]
      exact hpart (env.expand w) (by rw [hw, Option.map_some])
    refine ⟨d, ⟨[], _, [_, _], rfl, hdefault, by simpa using ⟨hlower, hupper⟩⟩, ?_⟩
    rw [expand_default hdefault]
    exact hreads

/-- What stands at a path when one table is laid over another: tables in both are joined; else
what the upper one has; else nothing, where the upper one has something before the end of the
path that is no table; else what the lower one has. Loading lays a section and a table of
settings over the defaults in that way, so every setting of a configuration that is loaded comes
from the last of the three that has it. -/
theorem layers_take_precedence :
    (∀ (a b : List (String × Value)) (p : List String), (Value.table b).Distinct →
      Value.Precedence (.table a) (.table b) (.table (Value.overlay a b)) p) ∧
    ∀ (room : Room) (files : Files) (env : Environment) (root : Path) (asked : Option Path)
      (project settings : List (String × Value)), AskedIsThere files asked →
      files.readSection room.toml (projectFile root) = .ok project →
      files.readToml room.toml (asked.getD (settingsFile root)) = .ok settings →
      (load room files env root asked =
        if room.walk < Environment.levels room.lookup (layers project settings) then
          .error .tooNested
        else ofValue (env.expand (layers project settings))) ∧
      (∀ p, Value.Precedence (Config.toValue {}) (.table project) (layers project []) p ∧
        Value.Precedence (layers project []) (.table settings) (layers project settings) p) ∧
      (∀ p v, (layers project settings).at? p = some v → v.isTable = false →
        Value.LastHolds [Config.toValue {}, .table project, .table settings] p v) ∧
      ∀ c, load room files env root asked = .ok c →
        ∀ p d, (Config.toValue {}).at? p = some d → d.isTable = false →
          ∃ s ∈ Setting.all, s.path = p ∧
            ∃ v, Value.LastHolds [Config.toValue {}, .table project, .table settings] p v ∧
              s.reads (env.expand v) c := by
  refine ⟨fun a b p hb => Value.precedence_layOver (.table a) hb p, ?_⟩
  intro room files env root asked project settings hasked hsection htable
  have hproject := Files.distinct_of_readSection hsection
  have hsettings := Files.distinct_of_readToml htable
  have hload : load room files env root asked =
      if room.walk < Environment.levels room.lookup (layers project settings) then
        .error .tooNested
      else ofValue (env.expand (layers project settings)) := by
    rw [load_of_askedIsThere hasked, hsection, htable]
    rfl
  refine ⟨hload, fun p => ⟨Value.precedence_layOver _ hproject p,
    Value.precedence_layOver _ hsettings p⟩, fun p v hat hv => ?_, fun c hc p d hd hleaf => ?_⟩
  · exact lastHolds_of_at?_layers hproject hsettings hv hat
  · rw [hload] at hc
    split_ifs at hc
    obtain ⟨s, hs, rfl⟩ := Setting.exists_setting hd hleaf
    exact ⟨s, hs, rfl, exists_lastHolds hproject hsettings (mapError_eq_ok_iff.1 hc) hs hd⟩

/-- A project file and a settings file in the current directory, and no other file. The section
hides the linter's part of the defaults, and the settings open it again. -/
def reopened : Files := fun path =>
  if path = projectFile ⟨.relative, []⟩ then
    some (.file (Text.Utf8.encode "[tool.aiplint]\nlinter = 3\n".toList))
  else if path = settingsFile ⟨.relative, []⟩ then
    some (.file (Text.Utf8.encode "[linter]\nbinary = \"b\"\n".toList))
  else none

theorem readSection_reopened :
    reopened.readSection Room.ample.toml (projectFile ⟨.relative, []⟩) =
      .ok [("linter", .int 3)] := by
  -- numbers are read by the kernel alone, since elsewhere they unfold to their successors
  have hread : (reopened.readSection Room.ample.toml (projectFile ⟨.relative, []⟩)).toOption.map
      (·.map fun e => (e.1, e.2.int?)) = some [("linter", some 3)] := by decide +kernel
  obtain ⟨entries, hentries, hmap⟩ := Option.map_eq_some_iff.mp hread
  obtain ⟨⟨key, v⟩, rfl, hentry⟩ := List.map_eq_singleton_iff.mp hmap
  obtain ⟨rfl, hint⟩ := Prod.mk.inj hentry
  have hv : v = .int 3 := by
    cases v <;> cases hint
    rfl
  rw [eq_ok_of_toOption hentries, hv]

theorem readToml_reopened :
    reopened.readToml Room.ample.toml (settingsFile ⟨.relative, []⟩) =
      .ok [("linter", .table [("binary", .text "b")])] := by
  with_unfolding_all rfl

theorem load_reopened (env : Environment) :
    load .ample reopened env ⟨.relative, []⟩ none = .ok { linter := { binary := "b" } } := by
  rw [load_of_askedIsThere fun path hasked => by cases hasked]
  refine bind_eq_ok_iff.mpr ⟨_, readSection_reopened,
    bind_eq_ok_iff.mpr ⟨_, readToml_reopened, ?_⟩⟩
  rw [if_neg (by decide), layers_eq, Environment.expand_layOver, Environment.expand_layOver,
    expand_defaults]
  simp (disch := decide) only [Environment.expand, Environment.expandEntries,
    Environment.expandText_of_not_mem, String.ofList_toList]
  rfl

/-- A text hides the table that it is laid over. The linter's timeout comes from the defaults,
which alone have one, though the section hides it and the settings open its part again. -/
theorem layers_take_precedence_reopened :
    (Value.table (Value.overlay [("x", .table [("y", .int 1)])] [("x", .text "z")])).at?
        ["x", "y"] = none ∧
      load .ample reopened (fun _ => none) ⟨.relative, []⟩ none =
        .ok { linter := { binary := "b" } } ∧
      ∃ s ∈ Setting.all, s.path = ["linter", "timeout"] ∧
        ∃ v, Value.LastHolds [Config.toValue {}, .table [("linter", .int 3)],
            .table [("linter", .table [("binary", .text "b")])]] ["linter", "timeout"] v ∧
          s.reads (Environment.expand (fun _ => none) v) { linter := { binary := "b" } } := by
  have hupper : (Value.table [("x", .text "z")]).Distinct :=
    Value.distinct_empty.insert (Value.distinct_of_not_table rfl)
  have hhides : (Value.table [("x", .text "z")]).Hides ["x", "y"] :=
    ⟨["x"], ["y"], .text "z", rfl, List.cons_ne_nil _ _, rfl, rfl⟩
  have hload := load_reopened fun _ => none
  refine ⟨(layers_take_precedence.1 _ _ _ hupper).hidden hhides, hload, ?_⟩
  exact (layers_take_precedence.2 _ _ _ _ none _ _ (fun path hasked => by cases hasked)
    readSection_reopened readToml_reopened).2.2.2 _ hload ["linter", "timeout"] _ rfl rfl

end Config

end LintRelay
