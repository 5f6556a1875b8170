import Mathlib.Tactic.SplitIfs
import LintRelay.Proofs.Results
import LintRelay.Schema.Assign
import LintRelay.Schema.Scalar

/-!
# What reading and assigning keep

A property that the defaults of a record have, and that is kept whenever one of its fields is
set, holds of every record that is read and after everything that is assigned. Which fields
keep it rests on what the readings of scalars let through.
-/

namespace LintRelay.Schema

open LintRelay

/-! ## Records -/

section

variable {α β : Type} {P : α → Prop} {r : Record α} {a b : α} {v : Value}

def Field.Keeps (f : Field α) (P : α → Prop) : Prop :=
  ∀ v a b, P a → f.set v a = .ok b → P b

/-- The defaults have a property, and setting any of the fields keeps it. -/
structure Record.Keeps (r : Record α) (P : α → Prop) : Prop where
  initial : P r.initial
  fields : ∀ f ∈ r.fields, f.Keeps P

theorem within_eq_ok_iff {c : Checked β} {s : Step} {x : β} :
    c.within s = .ok x ↔ c = .ok x := by
  cases c with
  | ok y => exact Iff.rfl
  | error issues => exact ⟨nofun, nofun⟩

theorem Field.given_keeps {name : String} {decode : Value → Checked β} {put : β → α → α}
    (h : ∀ v x a, decode v = .ok x → P a → P (put x a)) :
    (Field.given name decode put).Keeps P := by
  intro v a b ha hset
  change ((decode v).within (.field name)).map (put · a) = .ok b at hset
  obtain ⟨x, hx, rfl⟩ := map_eq_ok_iff.mp hset
  exact h v x a (within_eq_ok_iff.mp hx) ha

theorem fill_given {entries : List (String × Value)} {name : String} {decode : Value → Checked β}
    {put : β → α → α} {issues : List Issue} {x : β} (hlookup : Value.lookup entries name = some v)
    (hdecode : decode v = .ok x) :
    Record.fill entries (a, issues) (.given name decode put) = (put x a, issues) := by
  have hset : (Field.given name decode put).set v a = .ok (put x a) := by
    simp only [Field.given, hdecode]
    rfl
  simp only [Record.fill, show (Field.given name decode put).name = name from rfl, hlookup, hset]

theorem Record.fill_keeps {entries : List (String × Value)} {state : α × List Issue} {f : Field α}
    (hf : f.Keeps P) (h : P state.1) : P (Record.fill entries state f).1 := by
  rw [Record.fill]
  split
  · split
    · exact h
    · exact h
  · split
    · rename_i hset
      exact hf _ _ _ h hset
    · exact h

theorem Record.Keeps.decode (h : r.Keeps P) (hdecode : r.decode v = .ok a) : P a := by
  have hfold : ∀ (entries : List (String × Value)) (fields : List (Field α))
      (state : α × List Issue), (∀ f ∈ fields, f.Keeps P) → P state.1 →
      P (fields.foldl (Record.fill entries) state).1 := by
    intro entries fields
    induction fields with
    | nil => exact fun _ _ hstate => hstate
    | cons f fields ih =>
      intro state hfields hstate
      rw [List.forall_mem_cons] at hfields
      exact ih _ hfields.2 (Record.fill_keeps hfields.1 hstate)
  cases v with
  | table entries =>
    have hread := hfold entries r.fields (r.initial, []) h.fields h.initial
    rw [Record.decode] at hdecode
    split at hdecode
    · rename_i hresult
      rw [hresult] at hread
      exact Except.ok.inj hdecode ▸ hread
    · cases hdecode
  | _ => cases hdecode

theorem Record.Keeps.assign {name : String} (h : r.Keeps P) (ha : P a)
    (hassign : r.assign name v a = .ok b) : P b := by
  rw [Record.assign] at hassign
  split at hassign
  · rename_i hfound
    exact h.fields _ (List.mem_of_find?_eq_some hfound) _ _ _ ha hassign
  · cases hassign

end

/-! ## Assignments -/

section

variable {α : Type} {kind owner name : String} {whole v : Value} {path : List String}
  {unchanged : α} {assigned : Checked α} {x : Assigned α}

/-- An assignment that is checked changes nothing, or is one to a field. -/
def Assigned.IsChecked (unchanged : α) (assigned : Checked α) (x : Assigned α) : Prop :=
  ∃ a, x = .checked a ∧ (a = unchanged ∨ assigned = .ok a)

theorem isChecked_of_assignRecord (hname : isPrivate name = false)
    (h : assignRecord kind path name v assigned = .ok x) : x.IsChecked unchanged assigned := by
  have hclass : name ≠ "__class__" := fun heq => by simp [heq, isPrivate] at hname
  have hdict : name ≠ "__dict__" := fun heq => by simp [heq, isPrivate] at hname
  unfold assignRecord at h
  rw [if_neg hclass, if_neg hdict, if_neg (by rw [hname]; exact Bool.false_ne_true)] at h
  split_ifs at h
  · obtain ⟨a, ha, rfl⟩ := map_eq_ok_iff.mp h
    exact ⟨a, rfl, .inr (mapError_eq_ok_iff.mp ha)⟩

/-- By public names, assigning at the end of a path changes nothing or assigns to a field. -/
theorem isChecked_of_assignAt (hpublic : IsPublic path)
    (h : assignAt owner whole path v unchanged assigned = .ok x) :
    x.IsChecked unchanged assigned := by
  have hname : isPrivate (path.getLastD "") = false := by
    cases hlast : path.getLast? with
    | none => simp [List.getLastD_eq_getLast?, hlast, isPrivate]
    | some name =>
        rw [List.getLastD_eq_getLast?, hlast]
        exact hpublic name (List.mem_of_getLast? hlast)
  have hclass : path.dropLast.getLast? ≠ some "__class__" := by
    intro hlast
    have hprivate := hpublic _ (List.dropLast_subset path (List.mem_of_getLast? hlast))
    simp [isPrivate] at hprivate
  unfold assignAt at h
  dsimp only at h
  rw [if_neg hclass] at h
  obtain ⟨⟨kind, held⟩, -, h⟩ := bind_eq_ok_iff.mp h
  have hplain : (if path.getLastD "" = "__class__" then throw (.notClass v.kindName)
      else (assignPlain kind (path.getLastD "")).map fun _ =>
        if isPrivate (path.getLastD "") then Assigned.privately else .checked unchanged) = .ok x →
      x.IsChecked unchanged assigned := by
    intro he
    simp only [hname, Bool.false_eq_true, if_false] at he
    split_ifs at he
    obtain ⟨-, -, rfl⟩ := map_eq_ok_iff.mp he
    exact ⟨unchanged, rfl, .inl rfl⟩
  cases held with
  | table entries => exact isChecked_of_assignRecord hname h
  | _ => exact hplain h

end

/-! ## Scalars -/

section

variable {v : Value}

theorem text_text (s : String) : text (.text s) = .ok s :=
  rfl

theorem bool_bool (b : Bool) : bool (.bool b) = .ok b :=
  rfl

theorem itemsFrom_texts (index : Nat) (xs : List String) :
    itemsFrom text index (xs.map .text) = .ok xs := by
  induction xs generalizing index with
  | nil => rfl
  | cons x xs ih => simp only [List.map_cons, itemsFrom, ih, text, Checked.within, Except.mapError]

theorem bind_ite_eq_ok_iff {α β : Type} {read : Checked α} {c : α → Prop} [DecidablePred c]
    {f : α → β} {p : Problem} {y : β} :
    (read >>= fun x => if c x then pure (f x) else reject p) = .ok y ↔
      ∃ x, read = .ok x ∧ c x ∧ f x = y := by
  rw [bind_eq_ok_iff]
  refine exists_congr fun x => and_congr_right fun _ => ?_
  split_ifs with hc
  · simp [hc, pure, Except.pure]
  · simp [hc, reject]

/-- Nothing but the bound is checked, and the number is taken as it is. -/
theorem intFrom_eq_ok_iff {low n : Nat} :
    intFrom low v = .ok n ↔ int v = .ok (n : Int) ∧ low ≤ n := by
  rw [intFrom, bind_ite_eq_ok_iff]
  constructor
  · rintro ⟨k, hk, hlow, rfl⟩
    rw [Int.toNat_of_nonneg (by omega)]
    exact ⟨hk, by omega⟩
  · rintro ⟨hk, hlow⟩
    exact ⟨n, hk, by omega, rfl⟩

theorem nonNegative_eq_ok_iff {x : Float} :
    nonNegative v = .ok x ↔ float v = .ok x ∧ 0.0 ≤ x := by
  rw [nonNegative, bind_ite_eq_ok_iff]
  constructor
  · rintro ⟨y, hy, hlow, rfl⟩
    exact ⟨hy, hlow⟩
  · rintro ⟨hx, hlow⟩
    exact ⟨x, hx, hlow, rfl⟩

theorem fromZeroToTwo_eq_ok_iff {x : Float} :
    fromZeroToTwo v = .ok x ↔ float v = .ok x ∧ 0.0 ≤ x ∧ x ≤ 2.0 := by
  rw [fromZeroToTwo, bind_eq_ok_iff]
  constructor
  · rintro ⟨y, hy, h⟩
    split_ifs at h with habove hlow
    · cases h
    · obtain rfl := Except.ok.inj h
      exact ⟨hy, hlow, by simpa using habove⟩
    · cases h
  · rintro ⟨hx, hlow, hhigh⟩
    refine ⟨x, hx, ?_⟩
    rw [if_neg (by simp [hhigh]), if_pos hlow]
    rfl

theorem optional_of_ne_null {α : Type} {decode : Value → Checked α} (hv : v ≠ .null) :
    optional decode v = (decode v).map some := by
  cases v with
  | null => exact absurd rfl hv
  | _ => rfl

theorem of_mem_optional {α : Type} {decode : Value → Checked α} {o : Option α} {x : α}
    (h : optional decode v = .ok o) (hx : x ∈ o) : decode v = .ok x := by
  by_cases hv : v = .null
  · subst hv
    obtain rfl := Except.ok.inj h
    cases hx
  · rw [optional_of_ne_null hv] at h
    obtain ⟨y, hy, rfl⟩ := map_eq_ok_iff.mp h
    exact Option.some.inj hx ▸ hy

end

end LintRelay.Schema
