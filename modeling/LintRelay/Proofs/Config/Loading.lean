import LintRelay.Config.Load
import LintRelay.Proofs.Toml.Remainders

/-!
# How loading a configuration fails

A configuration is loaded or refused with words about the configuration, except where a
file cannot be read at all: where a directory stands, where the bytes are no text, and
where a numeral, the values of a file or the layers together go beyond what can be read or
walked through. These failures are other ones, and there are no more of them.
-/

namespace LintRelay

open LintRelay.Decimal

/-! ## The levels of layers -/

namespace Environment

variable {lookup : Nat}

theorem levelsOfEntries_le_iff {entries : List (String × Value)} {n : Nat} :
    levelsOfEntries lookup entries ≤ n ↔ ∀ entry ∈ entries, levels lookup entry.2 ≤ n := by
  induction entries with
  | nil => simp [levelsOfEntries]
  | cons entry rest ih =>
    rw [levelsOfEntries, Nat.max_le, ih, List.forall_mem_cons]

variable (lookup)

theorem levels_lookup {entries : List (String × Value)} {k : String} {v : Value}
    (h : Value.lookup entries k = some v) : levels lookup v ≤ levelsOfEntries lookup entries := by
  obtain ⟨entry, hfound, rfl⟩ := Option.map_eq_some_iff.1 h
  exact levelsOfEntries_le_iff.1 (Nat.le_refl _) entry (List.mem_of_find?_eq_some hfound)

theorem levelsOfEntries_insert (k : String) (v : Value) (entries : List (String × Value)) :
    levelsOfEntries lookup (Value.insert k v entries) ≤
      max (levels lookup v) (levelsOfEntries lookup entries) := by
  induction entries with
  | nil => simp [Value.insert, levelsOfEntries]
  | cons entry rest ih =>
    rw [Value.insert]
    split
    · simp only [levelsOfEntries]
      omega
    · simp only [levelsOfEntries]
      omega

/-- The entries of a value, as a table, have no more levels than the value, or they are none. -/
theorem levels_entries (v : Value) :
    levels lookup (.table v.entries) ≤ max 2 (levels lookup v) := by
  cases v with
  | table entries => exact Nat.le_max_right ..
  | _ => exact Nat.le_max_left ..

theorem levels_field {v w : Value} {k : String} (h : v.field? k = some w) :
    levels lookup w ≤ levels lookup v := by
  cases v with
  | table entries => exact Nat.le_trans (levels_lookup lookup h) (Nat.le_add_left ..)
  | _ => cases h

mutual

theorem levels_layOver (base v : Value) :
    levels lookup (Value.layOver base v) ≤ max (levels lookup base) (levels lookup v) := by
  cases v with
  | table upper =>
    cases base with
    | table entries =>
      have h := levelsOfEntries_overlay entries upper
      simp only [Value.layOver, levels]
      omega
    | _ => exact Nat.le_max_right ..
  | _ => exact Nat.le_max_right ..

theorem levelsOfEntries_overlay (base upper : List (String × Value)) :
    levelsOfEntries lookup (Value.overlay base upper) ≤
      max (levelsOfEntries lookup base) (levelsOfEntries lookup upper) := by
  cases upper with
  | nil => exact Nat.le_max_left ..
  | cons entry rest =>
    obtain ⟨k, v⟩ := entry
    rw [Value.overlay]
    split
    · have hrest := levelsOfEntries_overlay (Value.insert k v base) rest
      have hinsert := levelsOfEntries_insert lookup k v base
      simp only [levelsOfEntries]
      omega
    · rename_i below hbelow
      have hrest := levelsOfEntries_overlay (Value.insert k (Value.layOver below v) base) rest
      have hinsert := levelsOfEntries_insert lookup k (Value.layOver below v) base
      have hlaid := levels_layOver below v
      have hbase := levels_lookup lookup hbelow
      simp only [levelsOfEntries]
      omega

end

end Environment

/-! ## Files that cannot be read -/

namespace Files

/-- What stands at a path cannot be read as a table, and not for want of a file or for its
TOML. -/
inductive Unreadable (files : Files) (room : Nat) (path : Path) : LoadError → Prop where
  | directory (h : files path = some .directory) : Unreadable files room path (.directory path)
  | tooLong (h : files path = some .tooLong) : Unreadable files room path (.tooLong path)
  | notText {bytes : List UInt8} (h : files path = some (.file bytes))
      (hbytes : Text.Utf8.decode? bytes = none) : Unreadable files room path .notText
  | oversized {bytes : List UInt8} {cs : List Char} {numeral : Oversized}
      (h : files path = some (.file bytes)) (hbytes : Text.Utf8.decode? bytes = some cs)
      (hread : Toml.read room cs = .error (.oversized numeral)) :
      Unreadable files room path (.oversized numeral)
  | tooDeep {bytes : List UInt8} {cs : List Char} (h : files path = some (.file bytes))
      (hbytes : Text.Utf8.decode? bytes = some cs) (hread : Toml.read room cs = .error .tooDeep) :
      Unreadable files room path .tooDeep

variable {files : Files} {room : Config.Room} {path : Path} {e : LoadError}

theorem readToml_eq_error_iff :
    files.readToml room.toml path = .error e ∧ e.isConfigError = false ↔
      files.Unreadable room.toml path e := by
  constructor
  · rintro ⟨h, hkind⟩
    unfold readToml at h
    split at h
    · cases h
    · rename_i hfile
      cases h
      exact .directory hfile
    · rename_i hfile
      cases h
      exact .tooLong hfile
    · rename_i hfile
      split at h
      · rename_i hbytes
        cases h
        exact .notText hfile hbytes
      · rename_i hbytes
        split at h
        · cases h
        · cases h
          cases hkind
        · rename_i hread
          cases h
          exact .oversized hfile hbytes hread
        · rename_i hread
          cases h
          exact .tooDeep hfile hbytes hread
  · rintro (h | h | ⟨h, hbytes⟩ | ⟨h, hbytes, hread⟩ | ⟨h, hbytes, hread⟩)
    · exact ⟨by rw [readToml, h], rfl⟩
    · exact ⟨by rw [readToml, h], rfl⟩
    · exact ⟨by simp only [readToml, h, hbytes], rfl⟩
    · exact ⟨by simp only [readToml, h, hbytes, hread], rfl⟩
    · exact ⟨by simp only [readToml, h, hbytes, hread], rfl⟩

/-- There is no file at a path, or one of text whose numerals are no longer than what is read,
and whose nesting keeps to the room that there is. -/
def Legible (files : Files) (room : Config.Room) (path : Path) : Prop :=
  files path = none ∨ ∃ bytes cs, files path = some (.file bytes) ∧
    Text.Utf8.decode? bytes = some cs ∧
    cs.countP Char.isDigit ≤ maxDigits ∧
    Toml.openings cs ≤ room.toml ∧
    ∀ entries, Toml.read room.toml cs = .ok entries →
      Environment.levels room.lookup (.table entries) ≤ room.walk

theorem Legible.not_unreadable (h : files.Legible room path) :
    ¬files.Unreadable room.toml path e := by
  rintro (h' | h' | ⟨h', hbytes⟩ | ⟨h', hbytes, hread⟩ | ⟨h', hbytes, hread⟩)
  -- both say what stands at the path; where they can agree it is a file with the same bytes
  all_goals
    rcases h with h | ⟨bytes, cs, h, hcs, hdigits, hopenings, -⟩
    · rw [h] at h'
      cases h'
    rw [h] at h'
    cases h'
  case notText =>
    rw [hcs] at hbytes
    cases hbytes
  case oversized =>
    obtain rfl := Option.some.inj (hcs.symm.trans hbytes)
    obtain ⟨hlong, hstand⟩ := Toml.read_error hread
    omega
  case tooDeep =>
    obtain rfl := Option.some.inj (hcs.symm.trans hbytes)
    have hdeep : room.toml < Toml.openings cs := Toml.read_error hread
    omega

/-- The table in a legible file does not go down too far, and neither does an empty one. -/
theorem Legible.levels_le (h : files.Legible room path) (hwalk : 2 ≤ room.walk)
    {entries : List (String × Value)} (hread : files.readToml room.toml path = .ok entries) :
    Environment.levels room.lookup (.table entries) ≤ room.walk := by
  rcases h with h | ⟨bytes, cs, h, hcs, -, -, hlevels⟩
  · rw [readToml, h] at hread
    obtain rfl := Except.ok.inj hread
    exact hwalk
  · simp only [readToml, h, hcs] at hread
    split at hread
    · rename_i hentries
      obtain rfl := Except.ok.inj hread
      exact hlevels _ hentries
    · cases hread
    · cases hread
    · cases hread

/-- A section is read as far as its file is. -/
theorem readSection_eq_error_iff :
    files.readSection room.toml path = .error e ↔ files.readToml room.toml path = .error e := by
  rw [readSection]
  cases files.readToml room.toml path with
  | error f => exact Iff.rfl
  | ok entries => exact ⟨nofun, nofun⟩

theorem levels_readSection {project : List (String × Value)}
    (h : files.readSection room.toml path = .ok project) :
    ∃ entries, files.readToml room.toml path = .ok entries ∧
      Environment.levels room.lookup (.table project) ≤
        Environment.levels room.lookup (.table entries) := by
  rw [readSection] at h
  cases hread : files.readToml room.toml path with
  | error f =>
    rw [hread] at h
    cases h
  | ok entries =>
    rw [hread] at h
    obtain rfl := Except.ok.inj h
    have htwo : 2 ≤ Environment.levels room.lookup (.table entries) := Nat.le_add_right ..
    refine ⟨entries, rfl, ?_⟩
    cases hfound : (Value.table entries).field? sectionKeys.1 >>= (·.field? sectionKeys.2) with
    | none => exact htwo
    | some found =>
      obtain ⟨tool, htool, hfound⟩ := Option.bind_eq_some_iff.1 hfound
      calc Environment.levels room.lookup (.table found.entries)
          ≤ max 2 (Environment.levels room.lookup found) := Environment.levels_entries _ found
        _ ≤ max 2 (Environment.levels room.lookup tool) := by
          have := Environment.levels_field room.lookup hfound
          omega
        _ ≤ Environment.levels room.lookup (.table entries) :=
          Nat.max_le.2 ⟨htwo, Environment.levels_field _ htool⟩

end Files

/-! ## Loading -/

namespace Config

/-- The layers of a configuration: the defaults, a section and a table of settings. -/
def layers (project settings : List (String × Value)) : Value :=
  .table (Value.overlay (Value.overlay (Config.toValue {}).entries project) settings)

/-- A file that is asked for is there, or none is asked for. -/
def AskedIsThere (files : Files) (asked : Option Path) : Prop :=
  ∀ path, asked = some path → files path ≠ none ∧ files path ≠ some .tooLong

/-- The failures of loading that do not tell what is wrong with the configuration. -/
inductive Escapes (room : Room) (files : Files) (root : Path) (asked : Option Path) :
    LoadError → Prop where
  | asked {path : Path} (h : asked = some path) (hfile : files path = some .tooLong) :
      Escapes room files root asked (.tooLong path)
  | project {e : LoadError} (h : AskedIsThere files asked)
      (hproject : files.Unreadable room.toml (projectFile root) e) : Escapes room files root asked e
  | settings {e : LoadError} {project : List (String × Value)} (h : AskedIsThere files asked)
      (hproject : files.readSection room.toml (projectFile root) = .ok project)
      (hsettings : files.Unreadable room.toml (asked.getD (settingsFile root)) e) :
      Escapes room files root asked e
  | nested {project settings : List (String × Value)} (h : AskedIsThere files asked)
      (hproject : files.readSection room.toml (projectFile root) = .ok project)
      (hsettings : files.readToml room.toml (asked.getD (settingsFile root)) = .ok settings)
      (hlevels : room.walk < Environment.levels room.lookup (layers project settings)) :
      Escapes room files root asked .tooNested

variable {room : Room} {files : Files} {env : Environment} {root : Path} {asked : Option Path}
  {e : LoadError}

theorem load_of_askedIsThere (h : AskedIsThere files asked) :
    load room files env root asked =
      files.readSection room.toml (projectFile root) >>= fun project =>
        files.readToml room.toml (asked.getD (settingsFile root)) >>= fun settings =>
          if room.walk < Environment.levels room.lookup (layers project settings) then
            .error .tooNested
          else ofValue (env.expand (layers project settings)) := by
  cases asked with
  | none => rfl
  | some path =>
    obtain ⟨hnone, hlong⟩ := h path rfl
    rw [load]
    cases hfile : files path with
    | none => exact absurd hfile hnone
    | some entry =>
      cases entry with
      | tooLong => exact absurd hfile hlong
      | _ => rfl

theorem load_of_absent {path : Path} (h : files path = none) :
    load room files env root (some path) = .error (.absent path) := by
  simp only [load, h]
  rfl

theorem load_of_tooLong {path : Path} (h : files path = some .tooLong) :
    load room files env root (some path) = .error (.tooLong path) := by
  simp only [load, h]
  rfl

/-- A value is refused with words about the configuration. -/
theorem isConfigError_of_ofValue {v : Value} (h : ofValue v = .error e) :
    e.isConfigError = true := by
  unfold ofValue at h
  cases hdecode : Config.record.decode v with
  | ok c =>
    rw [hdecode] at h
    cases h
  | error issues =>
    rw [hdecode] at h
    cases h
    rfl

/-- A failure that is not about the configuration comes from one of the places where
something is read or walked through. -/
theorem escapes_of_load (hload : load room files env root asked = .error e)
    (hkind : e.isConfigError = false) : Escapes room files root asked e := by
  by_cases h : AskedIsThere files asked
  case neg =>
    obtain ⟨path, rfl, hfile⟩ : ∃ path, asked = some path ∧
        (files path = none ∨ files path = some .tooLong) := by
      simp only [AskedIsThere, not_forall, not_and_or, not_not] at h
      obtain ⟨path, hasked, hfile⟩ := h
      exact ⟨path, hasked, hfile⟩
    rcases hfile with hfile | hfile
    · rw [load_of_absent hfile] at hload
      cases hload
      cases hkind
    · rw [load_of_tooLong hfile] at hload
      cases hload
      exact .asked rfl hfile
  rw [load_of_askedIsThere h] at hload
  cases hproject : files.readSection room.toml (projectFile root) with
  | error f =>
    rw [hproject] at hload
    obtain rfl := Except.error.inj hload
    have hread := Files.readSection_eq_error_iff.1 hproject
    exact .project h (Files.readToml_eq_error_iff.1 ⟨hread, hkind⟩)
  | ok project =>
    rw [hproject] at hload
    change (files.readToml _ _ >>= _) = _ at hload
    cases hsettings : files.readToml room.toml (asked.getD (settingsFile root)) with
    | error f =>
      rw [hsettings] at hload
      obtain rfl := Except.error.inj hload
      exact .settings h hproject (Files.readToml_eq_error_iff.1 ⟨hsettings, hkind⟩)
    | ok settings =>
      rw [hsettings] at hload
      change (if _ then _ else _) = _ at hload
      split at hload
      · rename_i hlevels
        obtain rfl := Except.error.inj hload
        exact .nested h hproject hsettings hlevels
      · rw [isConfigError_of_ofValue hload] at hkind
        cases hkind

theorem load_of_escapes (h : Escapes room files root asked e) :
    load room files env root asked = .error e ∧ e.isConfigError = false := by
  cases h with
  | asked h hfile =>
    subst h
    exact ⟨load_of_tooLong hfile, rfl⟩
  | project h hproject =>
    obtain ⟨hread, hkind⟩ := Files.readToml_eq_error_iff.2 hproject
    refine ⟨?_, hkind⟩
    rw [load_of_askedIsThere h, Files.readSection_eq_error_iff.2 hread]
    rfl
  | settings h hproject hsettings =>
    obtain ⟨hread, hkind⟩ := Files.readToml_eq_error_iff.2 hsettings
    refine ⟨?_, hkind⟩
    rw [load_of_askedIsThere h, hproject, hread]
    rfl
  | nested h hproject hsettings hlevels =>
    refine ⟨?_, rfl⟩
    rw [load_of_askedIsThere h, hproject, hsettings]
    exact if_pos hlevels

/-- There is room for the defaults alone. -/
def Room.HoldsDefaults (room : Room) : Prop :=
  Environment.levels room.lookup (Config.toValue {}) ≤ room.walk

/-- A room that holds the defaults many times over. -/
def Room.ample : Room := ⟨988, 990, 3⟩

theorem Room.holdsDefaults_ample : ample.HoldsDefaults := by
  unfold HoldsDefaults
  decide

/-- Layers that do not go down too far do not go down too far together. -/
theorem levels_layers_le {project settings : List (String × Value)}
    (hdefaults : room.HoldsDefaults)
    (hproject : Environment.levels room.lookup (.table project) ≤ room.walk)
    (hsettings : Environment.levels room.lookup (.table settings) ≤ room.walk) :
    Environment.levels room.lookup (layers project settings) ≤ room.walk := by
  have hinitial : 2 + Environment.levelsOfEntries room.lookup (Config.toValue {}).entries ≤
      room.walk := hdefaults
  have hlower := Environment.levelsOfEntries_overlay room.lookup
    (Config.toValue {}).entries project
  have hupper := Environment.levelsOfEntries_overlay room.lookup
    (Value.overlay (Config.toValue {}).entries project) settings
  rw [Environment.levels] at hproject hsettings
  rw [layers, Environment.levels]
  omega

/-- **How loading fails.** Whatever room there is for it, loading fails without words about the
configuration exactly if a file that it comes to cannot be read or the layers go down too far,
whatever the environment; and it always ends in a configuration or in words about it if the
files are legible and there is room for the defaults. -/
theorem load_fails_iff :
    ∀ (room : Room) (files : Files) (env : Environment) (root : Path) (asked : Option Path),
      (∀ e, load room files env root asked = .error e ∧ e.isConfigError = false ↔
        Escapes room files root asked e) ∧
      (room.HoldsDefaults → files.Legible room (projectFile root) →
        files.Legible room (asked.getD (settingsFile root)) →
        (∃ c, load room files env root asked = .ok c) ∨
          ∃ e, load room files env root asked = .error e ∧ e.isConfigError = true) := by
  intro room files env root asked
  have hiff : ∀ e, load room files env root asked = .error e ∧ e.isConfigError = false ↔
      Escapes room files root asked e :=
    fun e => ⟨fun h => escapes_of_load h.1 h.2, load_of_escapes⟩
  refine ⟨hiff, fun hdefaults hproject hsettings => ?_⟩
  cases hload : load room files env root asked with
  | ok c => exact .inl ⟨c, rfl⟩
  | error e =>
    refine .inr ⟨e, rfl, ?_⟩
    by_contra hkind
    cases (hiff e).1 ⟨hload, Bool.eq_false_iff.2 hkind⟩ with
    | asked h hfile =>
      subst h
      exact hsettings.not_unreadable (.tooLong hfile)
    | project _ hfile => exact hproject.not_unreadable hfile
    | settings _ _ hfile => exact hsettings.not_unreadable hfile
    | nested _ hsection htable hlevels =>
      -- laying tables over each other makes none deeper than the deepest
      obtain ⟨entries, hread, hbelow⟩ := Files.levels_readSection hsection
      have htwo : 2 ≤ room.walk := Nat.le_trans (Nat.le_add_right ..) hdefaults
      have hupper := levels_layers_le hdefaults
        (Nat.le_trans hbelow (hproject.levels_le htwo hread)) (hsettings.levels_le htwo htable)
      omega

/-- One byte that starts no character, in the project file, and loading fails with words
about the bytes; where there are no files it fails with words about the configuration at most. -/
theorem load_fails_of_byte :
    load .ample
        (fun path => if path = projectFile ⟨.relative, []⟩ then some (.file [0xFF]) else none)
        (fun _ => none) ⟨.relative, []⟩ none = .error .notText ∧
      ((∃ c, load .ample (fun _ => none) (fun _ => none) ⟨.relative, []⟩ none = .ok c) ∨
        ∃ e, load .ample (fun _ => none) (fun _ => none) ⟨.relative, []⟩ none = .error e ∧
          e.isConfigError = true) := by
  have hbytes : Text.Utf8.decode? [0xFF] = none := by
    simp [Text.Utf8.decode?, Text.Utf8.decode, Text.Utf8.decodeFirst, Text.Utf8.continuation?]
  refine ⟨(((load_fails_iff _ _ _ _ _).1 .notText).2 ?_).1,
    (load_fails_iff _ _ _ _ _).2 Room.holdsDefaults_ample (.inl rfl) (.inl rfl)⟩
  exact .project (fun path hasked => by cases hasked) (.notText (if_pos rfl) hbytes)

end Config

end LintRelay
