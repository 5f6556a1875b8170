import Mathlib.Data.List.Forall2

/-!
# Lists by their places

What stands at the places of a list after one of them was set, or one was added, and at
which places those stand that are left when others are taken out.
-/

namespace LintRelay

theorem getElem?_set_of_getElem? {α : Type} {xs : List α} {i : Nat} {x y : α}
    (h : xs[i]? = some x) (j : Nat) : (xs.set i y)[j]? = if j = i then some y else xs[j]? := by
  obtain ⟨hi, -⟩ := List.getElem?_eq_some_iff.mp h
  rw [List.getElem?_set]
  by_cases hj : i = j
  · rw [if_pos hj, if_pos hi, if_pos hj.symm]
  · rw [if_neg hj, if_neg (Ne.symm hj)]

theorem getElem?_set_cases {α : Type} {xs : List α} {i j : Nat} {x y z : α}
    (hget : xs[i]? = some x) (h : (xs.set i y)[j]? = some z) :
    (j = i ∧ z = y) ∨ (j ≠ i ∧ xs[j]? = some z) := by
  rw [getElem?_set_of_getElem? hget] at h
  split at h
  next hj => exact .inl ⟨hj, (Option.some.inj h).symm⟩
  next hj => exact .inr ⟨hj, h⟩

theorem getElem?_concat_cases {α : Type} {xs : List α} {j : Nat} {y z : α}
    (h : (xs ++ [y])[j]? = some z) : xs[j]? = some z ∨ z = y := by
  rw [List.getElem?_append] at h
  split at h
  · exact .inl h
  · exact .inr (List.mem_singleton.mp (List.mem_of_getElem? h))

theorem set_of_getElem? {α : Type} {xs : List α} {i : Nat} {x : α} (h : xs[i]? = some x) :
    xs.set i x = xs := by
  obtain ⟨hi, rfl⟩ := List.getElem?_eq_some_iff.mp h
  exact List.set_getElem_self hi

/-- A sum over a list grows by what is appended. -/
theorem foldr_concat {α : Type} (f : α → Nat) (xs : List α) (x : α) :
    (xs ++ [x]).foldr (f · + ·) 0 = xs.foldr (f · + ·) 0 + f x := by
  induction xs with
  | nil => exact Nat.add_comm ..
  | cons first xs ih => rw [List.cons_append, List.foldr_cons, ih, List.foldr_cons, Nat.add_assoc]

/-- A sum over a list gets smaller with what stands at a place. -/
theorem foldr_set_lt {α : Type} {xs : List α} {i : Nat} {x y : α} (f : α → Nat)
    (h : xs[i]? = some x) (hlt : f y < f x) :
    (xs.set i y).foldr (f · + ·) 0 < xs.foldr (f · + ·) 0 := by
  induction xs generalizing i with
  | nil => cases h
  | cons first xs ih =>
      cases i with
      | zero =>
          obtain rfl := Option.some.inj h
          exact Nat.add_lt_add_right hlt _
      | succ i => exact Nat.add_lt_add_left (ih h) _

/-! ## When others are taken out -/

section

variable {α : Type} {p : α → Bool} {xs : List α} {i : Nat} {x y : α}

theorem getElem?_filter_of_pos (h : xs[i]? = some x) (hx : p x) :
    (xs.filter p)[(xs.take i).countP p]? = some x := by
  induction xs generalizing i with
  | nil => cases h
  | cons first xs ih =>
      cases i with
      | zero =>
          obtain rfl := Option.some.inj h
          simp [List.filter_cons_of_pos hx]
      | succ i => by_cases hfirst : p first <;> simp [hfirst, ih h]

theorem filter_set_of_pos (h : xs[i]? = some x) (hx : p x) (hy : p y) :
    (xs.set i y).filter p = (xs.filter p).set ((xs.take i).countP p) y := by
  induction xs generalizing i with
  | nil => cases h
  | cons first xs ih =>
      cases i with
      | zero =>
          obtain rfl := Option.some.inj h
          simp [hx, hy]
      | succ i => by_cases hfirst : p first <;> simp [hfirst, ih h]

theorem filter_set_of_neg (h : xs[i]? = some x) (hx : p x = false) (hy : p y = false) :
    (xs.set i y).filter p = xs.filter p := by
  induction xs generalizing i with
  | nil => cases h
  | cons first xs ih =>
      cases i with
      | zero =>
          obtain rfl := Option.some.inj h
          simp [hx, hy]
      | succ i => by_cases hfirst : p first <;> simp [hfirst, ih h]

theorem countP_take_set (h : xs[i]? = some x) (hxy : p y = p x) (j : Nat) :
    ((xs.set i y).take j).countP p = (xs.take j).countP p := by
  induction xs generalizing i j with
  | nil => cases h
  | cons first xs ih =>
      cases j with
      | zero => rfl
      | succ j =>
          cases i with
          | zero =>
              obtain rfl := Option.some.inj h
              simp [List.countP_cons, hxy]
          | succ i => simp [List.countP_cons, ih h]

end

/-! ## Two lists side by side -/

section

variable {α β : Type} {R : α → β → Prop} {xs : List α} {ys : List β} {x : α} {y : β}

theorem exists_getElem?_of_forall₂ (h : List.Forall₂ R xs ys) {i : Nat} (hx : xs[i]? = some x) :
    ∃ y, ys[i]? = some y ∧ R x y := by
  induction h generalizing i with
  | nil => cases hx
  | cons hfirst _ ih =>
      cases i with
      | zero =>
          obtain rfl := Option.some.inj hx
          exact ⟨_, rfl, hfirst⟩
      | succ i => exact ih hx

theorem forall₂_set (h : List.Forall₂ R xs ys) (hxy : R x y) (i : Nat) :
    List.Forall₂ R (xs.set i x) (ys.set i y) := by
  induction h generalizing i with
  | nil => exact .nil
  | cons hfirst hrest ih =>
      cases i with
      | zero => exact .cons hxy hrest
      | succ i => exact .cons hfirst (ih i)

theorem map_eq_of_forall₂ {γ : Type} {f : α → γ} {g : β → γ} (h : List.Forall₂ R xs ys)
    (hfg : ∀ x y, R x y → g y = f x) : ys.map g = xs.map f := by
  induction h with
  | nil => rfl
  | cons hfirst _ ih => rw [List.map_cons, List.map_cons, hfg _ _ hfirst, ih]

end

end LintRelay
