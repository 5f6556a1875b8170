import Mathlib.Data.List.Induction
import LintRelay.Proofs.Settings.Calls

/-!
# Who has a fetch in charge

From the moment its entry is made, one call has a fetch in charge: it starts the fetch,
waits for the provider, and tells those who wait how the fetch has ended, after it has
dropped the entry of a failed one. A call that breaks off keeps its fetch in charge for
ever.
-/

namespace LintRelay

namespace FetchEvent

/-- A fetch has ended with one answer and no other. -/
def Answered (answer : Except SettingsError DocumentSettings) (t : Nat)
    (events : List FetchEvent) : Prop :=
  ∀ a, .ended t a ∈ events ↔ a = answer

/-- A fetch has neither started nor ended. -/
def Unaware (t : Nat) (events : List FetchEvent) : Prop :=
  .started t ∉ events ∧ ∀ answer, .ended t answer ∉ events

theorem unaware_dropped (t : Nat) (p : Prop) [Decidable p] :
    Unaware t (if p then [.dropped] else []) := by
  constructor <;> split <;> simp

theorem Answered.append {answer : Except SettingsError DocumentSettings} {t : Nat}
    {events more : List FetchEvent} (h : Answered answer t events) (hmore : Unaware t more) :
    Answered answer t (events ++ more) := by
  intro a
  rw [List.mem_append, or_iff_left (hmore.2 a)]
  exact h a

theorem answered_of_never {answer : Except SettingsError DocumentSettings} {t : Nat}
    {events : List FetchEvent} (h : ∀ a, .ended t a ∉ events) :
    Answered answer t (events ++ [.ended t answer]) := by
  intro a
  simp [h a]

end FetchEvent

open FetchEvent (Answered Unaware)

/-- What has happened to a fetch that a reader has in charge where it stands. -/
inductive SettingsRead.Point.Holds (t : Nat) (events : List FetchEvent) :
    SettingsRead.Point → Prop where
  | waits (hnot : .started t ∉ events) : Holds t events (.owning t)
  | asks (hstarted : .started t ∈ events) (hnever : ∀ answer, .ended t answer ∉ events) :
      Holds t events (.fetching t)
  | stores {v : DocumentSettings} (hended : Answered (.ok v) t events) :
      Holds t events (.storing t v)
  | drops {e : SettingsError} (hended : Answered (.error e) t events) (htold : e.raised? = none) :
      Holds t events (.evicting t)
  | tells {e : SettingsError} (hended : Answered (.error e) t events) (htold : e.raised? = none) :
      Holds t events (.failing t)
  | breaks {e : SettingsError} {fault : Fault} (hended : Answered (.error e) t events)
      (hraised : e.raised? = some fault) : Holds t events (.broken t fault)

namespace SettingsRead.Point.Holds

variable {t : Nat} {events more : List FetchEvent} {q : SettingsRead.Point}

theorem owned (h : q.Holds t events) : q.owned? = some t := by
  cases h <;> rfl

theorem append (h : q.Holds t events) (hmore : Unaware t more) : q.Holds t (events ++ more) := by
  cases h with
  | waits hnot => exact .waits (by simp [hnot, hmore.1])
  | asks hstarted hnever =>
      exact .asks (List.mem_append_left _ hstarted) fun a => by simp [hnever a, hmore.2 a]
  | stores hended => exact .stores (hended.append hmore)
  | drops hended htold => exact .drops (hended.append hmore) htold
  | tells hended htold => exact .tells (hended.append hmore) htold
  | breaks hended hraised => exact .breaks (hended.append hmore) hraised

end SettingsRead.Point.Holds

namespace SettingsCall.Effect

variable {c c' : SettingsCache} {call call' : SettingsCall} {new : List FetchEvent}

/-- A call that goes on leaves an entry, drops it, or makes one with a new ticket. -/
theorem entry_cases (h : call.Effect c c' call' new) (key : String) :
    c'.entry key = c.entry key ∨ c'.entry key = none ∨ c'.entry key = some c.tickets := by
  cases h with
  | opens =>
      simp only [SettingsCache.open', SettingsCache.setEntry]
      split
      · exact .inr (.inr rfl)
      · exact .inl rfl
  | evicts ticket =>
      rw [SettingsCache.entry_evict]
      split
      · exact .inr (.inl rfl)
      · exact .inl rfl
  | _ => exact .inl rfl

/-- A fetch is started by the call that has made its entry, and by no other. -/
theorem owning_of_started (h : call.Effect c c' call' new) {t : Nat} (hnew : .started t ∈ new) :
    call.read.point = .owning t := by
  cases h with
  | begins ticket hpoint =>
      obtain rfl : t = ticket := by simpa using hnew
      exact hpoint
  | evicts => split at hnew <;> simp at hnew
  | _ => simp at hnew

/-- Only a call that waits for the provider is told how its fetch ends. -/
theorem fetching_of_ended (h : call.Effect c c' call' new) {t : Nat}
    {answer : Except SettingsError DocumentSettings} (hended : .ended t answer ∈ new) :
    call.read.point = .fetching t := by
  cases h with
  | succeeds ticket v hpoint | fails ticket e hpoint | breaks ticket e fault hpoint =>
      simp only [List.mem_singleton, FetchEvent.ended.injEq] at hended
      rw [hpoint, hended.1]
  | evicts => split at hended <;> simp at hended
  | _ => simp at hended

/-- A call that does not have a fetch to end neither starts nor ends it. -/
theorem unaware (h : call.Effect c c' call' new) {t : Nat}
    (howned : call.read.point.owned? ≠ some t) : Unaware t new := by
  refine ⟨fun hnew => howned ?_, fun answer hnew => howned ?_⟩
  · rw [h.owning_of_started hnew]
    rfl
  · rw [h.fetching_of_ended hnew]
    rfl

end SettingsCall.Effect

namespace SettingsSession

/-- How a fetch fares whose entry was made for a key: one call has it in charge, or those
who wait have been told how it has ended. -/
inductive Fares (s : SettingsSession) (events : List FetchEvent) (key : String) (t : Nat) :
    Prop where
  | held {i : Nat} {call : SettingsCall} (hget : s.calls[i]? = some call)
      (hkey : call.read.key = key) (hholds : call.read.point.Holds t events)
      (hgone : call.read.point = .failing t → s.cache.entry key ≠ some t)
  | failed {e : SettingsError} (hfetch : s.cache.fetch t = .failed)
      (hended : Answered (.error e) t events) (htold : e.raised? = none)
      (hgone : s.cache.entry key ≠ some t)
  | brought {v : DocumentSettings} (hfetch : s.cache.fetch t = .ready v)
      (hended : Answered (.ok v) t events)

variable {s s' : SettingsSession} {trace new : String → List FetchEvent} {key : String} {t : Nat}

/-- A fetch fares as before when nobody but others go on. -/
theorem Fares.of_others {events more : List FetchEvent} (h : s.Fares events key t)
    (hcalls : ∀ (i : Nat) (call : SettingsCall), s.calls[i]? = some call →
      call.read.point.owned? = some t → s'.calls[i]? = some call)
    (hfetch : s'.cache.fetch t = s.cache.fetch t)
    (hentry : s.cache.entry key ≠ some t → s'.cache.entry key ≠ some t)
    (hmore : Unaware t more) : s'.Fares (events ++ more) key t := by
  cases h with
  | held hget hkey hholds hgone =>
      exact .held (hcalls _ _ hget hholds.owned) hkey (hholds.append hmore)
        fun hpoint => hentry (hgone hpoint)
  | failed hfailed hended htold hgone =>
      exact .failed (hfetch.trans hfailed) (hended.append hmore) htold (hentry hgone)
  | brought hready hended => exact .brought (hfetch.trans hready) (hended.append hmore)

/-- A fetch that is over has nobody in charge. -/
theorem Sound.not_owned (h : s.Sound trace) (hended : s.cache.fetch t ≠ .pending) {i : Nat}
    {call : SettingsCall} (hget : s.calls[i]? = some call) : call.read.point.owned? ≠ some t :=
  fun howned => hended ((h.stands i call hget).of_owned howned).2.2.2

/-- The call that has a fetch in charge. -/
theorem Fares.of_owned {events : List FetchEvent} (hfares : s.Fares events key t)
    (h : s.Sound trace) {i : Nat} {call : SettingsCall} (hget : s.calls[i]? = some call)
    (howned : call.read.point.owned? = some t) :
    call.read.key = key ∧ call.read.point.Holds t events ∧
      (call.read.point = .failing t → s.cache.entry key ≠ some t) := by
  cases hfares with
  | held hother hkey hholds hgone =>
      -- no other call has the fetch in charge
      obtain rfl := h.alone i _ call _ t hget hother howned hholds.owned
      obtain rfl := Option.some.inj (hother.symm.trans hget)
      exact ⟨hkey, hholds, hgone⟩
  | failed hfetch | brought hfetch =>
      exact absurd howned (h.not_owned (by simp [hfetch]) hget)

/-- A fetch goes its way when the call goes on that has it in charge. -/
theorem Fares.of_own (hfares : s.Fares (trace key) key t) (h : s.Sound trace) {i : Nat}
    {call call' : SettingsCall} {c : SettingsCache} {new : List FetchEvent}
    (hget : s.calls[i]? = some call) (howned : call.read.point.owned? = some t)
    (heffect : call.Effect s.cache c call' new) :
    Fares ⟨c, s.calls.set i call'⟩ (trace key ++ if call.read.key = key then new else [])
      key t := by
  obtain ⟨hkey, hholds, hgone⟩ := hfares.of_owned h hget howned
  have hset : (s.calls.set i call')[i]? = some call' :=
    (getElem?_set_of_getElem? hget i).trans (if_pos rfl)
  rw [if_pos hkey]
  cases heffect with
  | begins ticket hpoint =>
      rw [hpoint] at hholds
      cases hholds with
      | waits hnot =>
          refine .held hset hkey (.asks (by simp) fun answer hended => ?_) nofun
          -- what has not started has not ended either
          exact hnot (h.fetches.started key t answer (by simpa using hended))
  | succeeds ticket v hpoint =>
      rw [hpoint] at hholds
      cases hholds with
      | asks hstarted hnever =>
          exact .held hset hkey (.stores (FetchEvent.answered_of_never hnever)) nofun
  | stores ticket v hpoint =>
      rw [hpoint] at hholds
      cases hholds with
      | stores hended => exact .brought (if_pos rfl) (by simpa using hended)
  | fails ticket e hpoint htold =>
      rw [hpoint] at hholds
      cases hholds with
      | asks hstarted hnever =>
          exact .held hset hkey (.drops (FetchEvent.answered_of_never hnever) htold) nofun
  | breaks ticket e fault hpoint hraised =>
      rw [hpoint] at hholds
      cases hholds with
      | asks hstarted hnever =>
          exact .held hset hkey (.breaks (FetchEvent.answered_of_never hnever) hraised) nofun
  | evicts ticket hpoint =>
      rw [hpoint] at hholds
      cases hholds with
      | drops hended htold =>
          refine .held hset hkey
            (.tells (hended.append (FetchEvent.unaware_dropped ..)) htold) fun _ => ?_
          show (s.cache.evict _ _).entry key ≠ _
          rw [SettingsCache.entry_evict]
          split
          next => simp
          next hnot => exact fun hentry => hnot ⟨hkey, hkey ▸ hentry⟩
  | tells ticket hpoint =>
      rw [hpoint] at hholds
      cases hholds with
      | tells hended htold =>
          exact .failed (if_pos rfl) (by simpa using hended) htold (hgone hpoint)
  | unprovided hpoint | finds _ hpoint | opens hpoint | returns _ _ hpoint | fallsBack _ hpoint
  | returnsGlobal hpoint =>
      rw [hpoint] at howned
      cases howned

/-- A fetch whose entry was made goes on as it should with every move. -/
theorem Fares.step (hfares : s.Fares (trace key) key t) (h : s.Sound trace)
    (hmade : .made t ∈ trace key) {m : Move} (heffect : Effect m s s' new) :
    s'.Fares (trace key ++ new key) key t := by
  have hnothing : Unaware t [] := ⟨nofun, nofun⟩
  cases heffect with
  | rests | updates => exact hfares.of_others (fun _ _ hget _ => hget) rfl id hnothing
  | joins =>
      refine hfares.of_others (fun i call hget _ => ?_) rfl id hnothing
      rw [List.getElem?_append_left (List.getElem?_eq_some_iff.mp hget).1, hget]
  | forgets which =>
      refine hfares.of_others (fun _ _ hget _ => hget) rfl (fun hgone => ?_) ?_
      · show (if which key then none else s.cache.entry key) ≠ some t
        split
        · simp
        · exact hgone
      · exact FetchEvent.unaware_dropped ..
  | goesOn i call hmove hget heffect =>
      by_cases howned : call.read.point.owned? = some t
      · exact hfares.of_own h hget howned heffect
      refine hfares.of_others (fun j other hother howned' => ?_) (heffect.fetch_eq howned)
        (fun hgone => ?_) ?_
      · rw [getElem?_set_of_getElem? hget, if_neg, hother]
        rintro rfl
        obtain rfl := Option.some.inj (hother.symm.trans hget)
        exact howned howned'
      · have hlt := h.enters.made_lt key t hmade
        rcases heffect.entry_cases key with hentry | hentry | hentry <;> rw [hentry]
        · exact hgone
        · simp
        · simp only [ne_eq, Option.some.injEq]
          omega
      · beta_reduce
        split
        · exact heffect.unaware howned
        · exact hnothing

end SettingsSession

end LintRelay
