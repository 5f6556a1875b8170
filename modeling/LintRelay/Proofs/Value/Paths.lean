import LintRelay.Value
import Mathlib.Data.List.Nodup

/-!
# Paths through tables

What stands in a value at the end of a path of keys, where each key but the last leads to a
table. Something that is no table hides all paths that go on behind it. Values whose tables
have different keys keep that when an entry is set.
-/

namespace LintRelay.Value

variable {v w : Value} {k k' : String} {p ks : List String} {entries : List (String × Value)}

/-! ## Entries -/

theorem lookup_nil (k : String) : lookup [] k = none :=
  rfl

theorem lookup_cons (entry : String × Value) (rest : List (String × Value)) (k : String) :
    lookup (entry :: rest) k = if entry.1 = k then some entry.2 else lookup rest k := by
  rw [lookup, List.find?_cons]
  split
  · rename_i h
    rw [if_pos (of_decide_eq_true h), Option.map_some]
  · rename_i h
    rw [if_neg (of_decide_eq_false h), lookup]

theorem lookup_eq_none_iff : lookup entries k = none ↔ k ∉ entries.map (·.1) := by
  rw [lookup, Option.map_eq_none_iff, List.find?_eq_none]
  simp only [decide_eq_true_eq, List.mem_map, not_exists, not_and]

theorem mem_of_lookup (h : lookup entries k = some v) : (k, v) ∈ entries := by
  obtain ⟨entry, hfound, rfl⟩ := Option.map_eq_some_iff.1 h
  obtain rfl : entry.1 = k := by simpa using List.find?_some hfound
  exact List.mem_of_find?_eq_some hfound

theorem lookup_insert (k : String) (v : Value) (entries : List (String × Value)) (k' : String) :
    lookup (insert k v entries) k' = if k = k' then some v else lookup entries k' := by
  induction entries with
  | nil => rw [insert, lookup_cons, lookup_nil]
  | cons entry rest ih =>
    rw [insert]
    split
    · rename_i hk
      rw [lookup_cons, lookup_cons, hk]
      split
      · rfl
      · rfl
    · rename_i hk
      rw [lookup_cons, ih, lookup_cons]
      split
      · rename_i hk'
        rw [if_neg fun h => hk (hk'.trans h.symm)]
      · rfl

theorem keys_insert (k : String) (v : Value) (entries : List (String × Value)) :
    (insert k v entries).map (·.1) =
      if k ∈ entries.map (·.1) then entries.map (·.1) else entries.map (·.1) ++ [k] := by
  induction entries with
  | nil => rfl
  | cons entry rest ih =>
    rw [insert]
    split
    · rename_i hk
      rw [if_pos (by simp [hk])]
      rfl
    · rename_i hk
      rw [List.map_cons, List.map_cons, ih]
      by_cases hmem : k ∈ rest.map (·.1)
      · rw [if_pos hmem, if_pos (List.mem_cons_of_mem _ hmem)]
      · rw [if_neg hmem, if_neg (by simpa [Ne.symm hk] using hmem), List.cons_append]

theorem nodup_keys_insert (h : (entries.map (·.1)).Nodup) :
    ((insert k v entries).map (·.1)).Nodup := by
  rw [keys_insert]
  split
  · exact h
  · rename_i hk
    rw [← List.concat_eq_append]
    exact h.concat hk

/-! ## Paths -/

/-- What stands at the end of a path of keys. -/
def at? : Value → List String → Option Value
  | v, [] => some v
  | v, k :: ks => v.field? k >>= (at? · ks)

def isTable : Value → Bool
  | table _ => true
  | _ => false

theorem eq_table_of_isTable (h : v.isTable = true) : ∃ entries, v = .table entries := by
  cases v with
  | table entries => exact ⟨entries, rfl⟩
  | _ => cases h

theorem at?_cons_of_not_table (h : v.isTable = false) (k : String) (ks : List String) :
    v.at? (k :: ks) = none := by
  cases v with
  | table => cases h
  | _ => rfl

theorem at?_table_cons (entries : List (String × Value)) (k : String) (ks : List String) :
    (table entries).at? (k :: ks) = lookup entries k >>= (·.at? ks) :=
  rfl

theorem at?_append (v : Value) (p q : List String) : v.at? (p ++ q) = v.at? p >>= (·.at? q) := by
  induction p generalizing v with
  | nil => rfl
  | cons k ks ih =>
    rw [List.cons_append, at?, at?]
    cases v.field? k with
    | none => rfl
    | some below => exact ih below

/-- Something that is no table stands before the end of a path. -/
def Hides (v : Value) (p : List String) : Prop :=
  ∃ q s w, p = q ++ s ∧ s ≠ [] ∧ v.at? q = some w ∧ w.isTable = false

/-- Something stands at the end of a path, or before it and is no table. -/
def Mentions (v : Value) (p : List String) : Prop :=
  v.at? p ≠ none ∨ v.Hides p

theorem not_hides_nil (v : Value) : ¬v.Hides [] := by
  rintro ⟨q, s, w, hp, hs, -, -⟩
  exact hs (List.append_eq_nil_iff.1 hp.symm).2

theorem hides_of_not_table (h : v.isTable = false) (k : String) (ks : List String) :
    v.Hides (k :: ks) :=
  ⟨[], k :: ks, v, rfl, List.cons_ne_nil _ _, rfl, h⟩

theorem hides_table_cons :
    (table entries).Hides (k :: ks) ↔ ∃ below, lookup entries k = some below ∧ below.Hides ks := by
  constructor
  · rintro ⟨q, s, w, hp, hs, hat, hw⟩
    cases q with
    | nil =>
      obtain rfl := Option.some.inj hat
      cases hw
    | cons k' q =>
      obtain ⟨rfl, rfl⟩ := List.cons.inj hp
      obtain ⟨below, hbelow, hat⟩ := Option.bind_eq_some_iff.1 hat
      exact ⟨below, hbelow, q, s, w, rfl, hs, hat, hw⟩
  · rintro ⟨below, hbelow, q, s, w, rfl, hs, hat, hw⟩
    refine ⟨k :: q, s, w, rfl, hs, ?_, hw⟩
    rw [at?_table_cons, hbelow]
    exact hat

/-- Where something stands, nothing before it hides it. -/
theorem not_hides_of_at? (h : v.at? p = some w) : ¬v.Hides p := by
  rintro ⟨q, s, below, rfl, hs, hat, hbelow⟩
  obtain ⟨k, ks, rfl⟩ := List.exists_cons_of_ne_nil hs
  rw [at?_append, hat] at h
  have hnone := at?_cons_of_not_table hbelow k ks
  rw [show (some below >>= (·.at? (k :: ks))) = below.at? (k :: ks) from rfl, hnone] at h
  cases h

/-! ## Different keys -/

/-- Every table that keys lead to has different keys. -/
def Distinct (v : Value) : Prop :=
  ∀ p entries, v.at? p = some (.table entries) → (entries.map (·.1)).Nodup

theorem distinct_of_not_table (h : v.isTable = false) : v.Distinct := by
  intro p entries hat
  cases p with
  | nil =>
    obtain rfl := Option.some.inj hat
    cases h
  | cons k ks =>
    rw [at?_cons_of_not_table h] at hat
    cases hat

theorem distinct_table_iff :
    (table entries).Distinct ↔
      (entries.map (·.1)).Nodup ∧ ∀ k v, lookup entries k = some v → v.Distinct := by
  constructor
  · refine fun h => ⟨h [] entries rfl, fun k v hv p es hat => h (k :: p) es ?_⟩
    rw [at?_table_cons, hv]
    exact hat
  · rintro ⟨hnodup, hbelow⟩ p es hat
    cases p with
    | nil =>
      obtain rfl := table.inj (Option.some.inj hat)
      exact hnodup
    | cons k ks =>
      obtain ⟨v, hv, hat⟩ := Option.bind_eq_some_iff.1 hat
      exact hbelow k v hv ks es hat

theorem distinct_empty : (table []).Distinct :=
  distinct_table_iff.2 ⟨List.nodup_nil, nofun⟩

theorem Distinct.lookup (h : (table entries).Distinct) (hv : lookup entries k = some v) :
    v.Distinct :=
  (distinct_table_iff.1 h).2 k v hv

theorem Distinct.insert (h : (table entries).Distinct) (hv : v.Distinct) :
    (table (insert k v entries)).Distinct := by
  refine distinct_table_iff.2 ⟨nodup_keys_insert (h [] entries rfl), fun k' w hw => ?_⟩
  rw [lookup_insert] at hw
  split at hw
  · exact Option.some.inj hw ▸ hv
  · exact h.lookup hw

/-- The entries of a value with different keys, or none. -/
theorem Distinct.table_entries (h : v.Distinct) : (table v.entries).Distinct := by
  cases v with
  | table => exact h
  | _ => exact distinct_empty

end LintRelay.Value
