import LintRelay.Validation.Alone

/-!
# Readers that nobody holds up

A reader waits for the provider, and for a fetch that another reader has to end. One that
is held up by neither comes nearer to its end with every step. It breaks off only at an
answer of the provider that has no words.
-/

namespace LintRelay

/-- The provider has to be asked for the settings of a key. -/
def SettingsCache.Asks (c : SettingsCache) (key : String) : Prop :=
  c.hasProvider = true ∧ c.entry key = none

theorem SettingsCache.not_asks_of_unprovided {c : SettingsCache} (h : c.hasProvider = false)
    (key : String) : ¬ c.Asks key := by
  rintro ⟨hprovider, -⟩
  exact Bool.false_ne_true (h.symm.trans hprovider)

namespace SettingsRead

/-- No fetch of another reader holds a reader up. -/
def IsFree (c : SettingsCache) (r : SettingsRead) : Prop :=
  match r.point with
  | .start => c.hasProvider = true → ∀ ticket, c.entry r.key = some ticket →
      c.fetch ticket ≠ .pending
  | .waiting ticket => c.fetch ticket ≠ .pending
  | _ => True

def Point.isBroken : Point → Bool
  | broken _ _ => true
  | _ => false

variable {c : SettingsCache} {r : SettingsRead}

theorem isFree_of_unprovided (h : c.hasProvider = false) (key : String) :
    IsFree c { key } := by
  intro hprovider
  exact absurd (h.symm.trans hprovider) Bool.false_ne_true

theorem eq_of_isBroken (h : r.point.isBroken) :
    ∃ key fault ticket, r = ⟨key, .broken ticket fault⟩ := by
  obtain ⟨key, point⟩ := r
  cases point with
  | broken ticket fault => exact ⟨key, fault, ticket, rfl⟩
  | _ => cases h

@[simp] theorem key_step (c : SettingsCache) (r : SettingsRead) : (r.step c).2.key = r.key := by
  unfold step
  repeat' split
  all_goals rfl

@[simp] theorem key_fetched (r : SettingsRead) (answer : Except SettingsError DocumentSettings) :
    (r.fetched answer).1.key = r.key := by
  unfold fetched
  repeat' split
  all_goals rfl

/-- A reader never breaks off with a step of its own. -/
theorem isBroken_step (c : SettingsCache) (h : r.point.isBroken = false) :
    (r.step c).2.point.isBroken = false := by
  obtain ⟨key, point⟩ := r
  cases point with
  | start =>
      simp only [step]
      split
      · split <;> rfl
      · rfl
  | waiting t =>
      simp only [step]
      split <;> rfl
  | broken => cases h
  | _ => rfl

/-- A reader that is free gets on with every step. -/
theorem isFree_step (h : r.IsFree c) (hfetching : ∀ ticket, r.point ≠ .fetching ticket)
    (hahead : 0 < r.point.distance) :
    (r.step c).2.IsFree (r.step c).1 ∧ (r.step c).2.point.distance < r.point.distance := by
  obtain ⟨key, point⟩ := r
  cases point with
  | start =>
      simp only [step]
      split
      next hprovider =>
        split
        next ticket hentry => exact ⟨h hprovider ticket hentry, by simp [Point.distance]⟩
        next => exact ⟨trivial, by simp [Point.distance]⟩
      next => exact ⟨trivial, by simp [Point.distance]⟩
  | fetching ticket => exact absurd rfl (hfetching ticket)
  | owning ticket | evicting ticket | fallback =>
      exact ⟨trivial, by simp [step, Point.distance]⟩
  | storing ticket s | failing ticket =>
      exact ⟨by simp [step, IsFree, SettingsCache.setFetch], by simp [step, Point.distance]⟩
  | waiting ticket =>
      simp only [step]
      split
      next hpending => exact absurd hpending h
      next => exact ⟨trivial, by simp [Point.distance]⟩
      next => exact ⟨trivial, by simp [Point.distance]⟩
  | done | broken => exact absurd hahead (Nat.lt_irrefl 0)

/-- The provider's answer lets a reader go on, whatever it is. -/
theorem isFree_fetched {ticket : Nat} (hpoint : r.point = .fetching ticket)
    (answer : Except SettingsError DocumentSettings) :
    (r.fetched answer).1.IsFree c ∧ (r.fetched answer).1.point.distance < r.point.distance := by
  obtain ⟨key, point⟩ := r
  obtain rfl : point = .fetching ticket := hpoint
  rcases answer with e | s
  · simp only [fetched]
    split <;> exact ⟨trivial, by simp [Point.distance]⟩
  · exact ⟨trivial, by simp [fetched, Point.distance]⟩

/-- A reader breaks off only if the provider is asked and its answer has no words. -/
def Heeds (asks : Prop) (answer : Except SettingsError DocumentSettings) (c : SettingsCache)
    (r : SettingsRead) : Prop :=
  match r.point with
  | .start => c.Asks r.key → asks
  | .owning _ | .fetching _ => asks
  | .broken _ fault => asks ∧ ∃ e, answer = .error e ∧ e.raised? = some fault
  | _ => True

variable {asks : Prop} {answer : Except SettingsError DocumentSettings}

theorem heeds_step (h : r.Heeds asks answer c) : (r.step c).2.Heeds asks answer (r.step c).1 := by
  obtain ⟨key, point⟩ := r
  cases point with
  | start =>
      simp only [step]
      split
      next hprovider =>
        split
        next => trivial
        next hentry => exact h ⟨hprovider, hentry⟩
      next => trivial
  | waiting ticket =>
      simp only [step]
      split <;> trivial
  | owning | fetching | broken => exact h
  | storing | evicting | failing | fallback | done => trivial

theorem heeds_fetched (h : r.Heeds asks answer c) : (r.fetched answer).1.Heeds asks answer c := by
  obtain ⟨key, point⟩ := r
  cases point with
  | fetching ticket =>
      rcases answer with e | s
      · simp only [fetched]
        split
        next => trivial
        next hraised => exact ⟨h, e, rfl, hraised⟩
      · trivial
  | _ => exact h

end SettingsRead

end LintRelay
