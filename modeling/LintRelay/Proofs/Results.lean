/-!
# Results

What it takes for a computation that may fail to succeed: its parts succeed, one after
another. It fails as the first of them that does.
-/

namespace LintRelay

variable {ε α β : Type} {e : Except ε α} {y : β}

theorem map_eq_ok_iff {f : α → β} : e.map f = .ok y ↔ ∃ x, e = .ok x ∧ f x = y := by
  cases e with
  | ok x =>
    constructor
    · intro h
      exact ⟨x, rfl, Except.ok.inj h⟩
    · rintro ⟨_, hx, rfl⟩
      exact congrArg (fun x => Except.ok (f x)) (Except.ok.inj hx)
  | error _ =>
    constructor
    · intro h
      cases h
    · rintro ⟨_, hx, -⟩
      cases hx

theorem mapError_eq_ok_iff {δ : Type} {f : ε → δ} {x : α} : e.mapError f = .ok x ↔ e = .ok x := by
  cases e with
  | ok z =>
    constructor
    · intro h
      exact congrArg Except.ok (Except.ok.inj h)
    · intro h
      exact congrArg Except.ok (Except.ok.inj h)
  | error _ =>
    constructor
    · intro h
      cases h
    · intro h
      cases h

theorem eq_ok_of_toOption {x : α} (h : e.toOption = some x) : e = .ok x := by
  cases e with
  | ok y => exact congrArg Except.ok (Option.some.inj h)
  | error _ => cases h

theorem discard_eq_ok_iff : discard e = .ok () ↔ ∃ x, e = .ok x := by
  cases e with
  | ok x => exact ⟨fun _ => ⟨x, rfl⟩, fun _ => rfl⟩
  | error _ =>
    constructor
    · intro h
      cases h
    · rintro ⟨_, hx⟩
      cases hx

theorem bind_eq_ok_iff {f : α → Except ε β} : e >>= f = .ok y ↔ ∃ x, e = .ok x ∧ f x = .ok y := by
  cases e with
  | ok x =>
    constructor
    · intro h
      exact ⟨x, rfl, h⟩
    · rintro ⟨_, hx, h⟩
      obtain rfl := Except.ok.inj hx
      exact h
  | error _ =>
    constructor
    · intro h
      cases h
    · rintro ⟨_, hx, -⟩
      cases hx

theorem bind_eq_error_iff {f : α → Except ε β} {y : ε} :
    e >>= f = .error y ↔ e = .error y ∨ ∃ x, e = .ok x ∧ f x = .error y := by
  cases e with
  | ok x =>
    constructor
    · exact fun h => .inr ⟨x, rfl, h⟩
    · rintro (h | ⟨_, hx, h⟩)
      · cases h
      · obtain rfl := Except.ok.inj hx
        exact h
  | error _ =>
    constructor
    · exact fun h => .inl (congrArg Except.error (Except.error.inj h))
    · rintro (h | ⟨_, hx, -⟩)
      · exact congrArg Except.error (Except.error.inj h)
      · cases hx

theorem eq_map_of_mapM {α β ε : Type} {f : α → Except ε β} {g : α → β} {xs : List α}
    {ys : List β} (h : xs.mapM f = .ok ys) (hg : ∀ x ∈ xs, ∀ y, f x = .ok y → y = g x) :
    ys = xs.map g := by
  induction xs generalizing ys with
  | nil =>
      rw [List.mapM_nil] at h
      exact (Except.ok.inj h).symm
  | cons x xs ih =>
      rw [List.forall_mem_cons] at hg
      rw [List.mapM_cons] at h
      obtain ⟨y, hy, hrest⟩ := bind_eq_ok_iff.mp h
      obtain ⟨rest, hys, hcons⟩ := bind_eq_ok_iff.mp hrest
      rw [← Except.ok.inj hcons, List.map_cons, hg.1 y hy, ih hys hg.2]

end LintRelay
