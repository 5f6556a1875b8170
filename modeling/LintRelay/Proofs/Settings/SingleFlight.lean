import LintRelay.Proofs.Settings.Charge

/-!
# One fetch for all who ask meanwhile

Between two moments at which its entry is dropped, a key gets one entry at most. Its fetch
is started once, by the call that made it, and whoever found the entry gets what that fetch
brings. A call makes its entry and starts the fetch in two steps, so a fetch may start late,
when its entry has been dropped and another has taken its place.
-/

namespace LintRelay

namespace SettingsCall

variable {c : SettingsCache} {events : List FetchEvent} {call : SettingsCall}

end SettingsCall

namespace SettingsSession

theorem calls_step (s : SettingsSession) {i : Nat} {call : SettingsCall}
    (hget : s.calls[i]? = some call) :
    (s.step (.step i)).calls[i]? = some (call.goesOn (call.read.step s.cache).2) := by
  simp only [step, hget]
  rw [getElem?_set_of_getElem? hget, if_pos rfl]

theorem cache_step (s : SettingsSession) {i : Nat} {call : SettingsCall}
    (hget : s.calls[i]? = some call) :
    (s.step (.step i)).cache = (call.read.step s.cache).1 := by
  simp only [step, hget]

/-- A fetch starts with the step of a call that has made its entry. -/
theorem owning_of_started (s : SettingsSession) {key : String} {m : Move} {t : Nat}
    (hstarted : .started t ∈ s.events key m) : ∃ (i : Nat) (call : SettingsCall),
      m = .step i ∧ s.calls[i]? = some call ∧ call.read.point = .owning t := by
  cases m with
  | step i =>
      simp only [events] at hstarted
      split at hstarted
      · cases hstarted
      next call hget =>
        refine ⟨i, call, rfl, hget, ?_⟩
        split at hstarted
        · unfold SettingsRead.eventsOfStep at hstarted
          split at hstarted
          · simp at hstarted
          next ticket hpoint =>
            obtain rfl : t = ticket := by simpa using hstarted
            exact hpoint
          · split at hstarted <;> simp at hstarted
          · cases hstarted
        · cases hstarted
  | answer i answer =>
      simp only [events] at hstarted
      split at hstarted
      · cases hstarted
      · split at hstarted
        · unfold SettingsRead.eventsOfAnswer at hstarted
          split at hstarted <;> simp at hstarted
        · cases hstarted
  | remove k | invalidateAll =>
      simp only [events] at hstarted
      split at hstarted <;> simp at hstarted
  | call | updateGlobal => cases hstarted

end SettingsSession

end LintRelay
