import LintRelay.Proofs.Places
import LintRelay.Settings.Session

/-!
# What a move does to a settings cache in use

A call that goes on has one of thirteen effects on the cache, and a move lets one call go on,
begins one, drops entries, replaces the global settings, or does nothing. Later proofs go
through these two lists and never open a step again.
-/

namespace LintRelay

/-- What a call that goes on does to the cache, and to the fetches and the entry of its
key. -/
inductive SettingsCall.Effect (c : SettingsCache) (call : SettingsCall) :
    SettingsCache → SettingsCall → List FetchEvent → Prop where
  /-- Without a provider, the global settings are all there is. -/
  | unprovided (hpoint : call.read.point = .start) (hprovider : c.hasProvider = false) :
      Effect c call c ⟨⟨call.read.key, .done c.global⟩, call.ticket⟩ []
  /-- The call finds an entry. -/
  | finds (ticket : Nat) (hpoint : call.read.point = .start)
      (hentry : c.entry call.read.key = some ticket) :
      Effect c call c ⟨⟨call.read.key, .waiting ticket⟩, some ticket⟩ []
  /-- The call makes an entry. -/
  | opens (hpoint : call.read.point = .start) (hentry : c.entry call.read.key = none) :
      Effect c call (c.open' call.read.key) ⟨⟨call.read.key, .owning c.tickets⟩, some c.tickets⟩
        [.made c.tickets]
  /-- The call starts the fetch of the entry that it has made. -/
  | begins (ticket : Nat) (hpoint : call.read.point = .owning ticket) :
      Effect c call c ⟨⟨call.read.key, .fetching ticket⟩, call.ticket⟩ [.started ticket]
  /-- The provider has settings. -/
  | succeeds (ticket : Nat) (s : DocumentSettings) (hpoint : call.read.point = .fetching ticket) :
      Effect c call c ⟨⟨call.read.key, .storing ticket s⟩, call.ticket⟩ [.ended ticket (.ok s)]
  /-- The call tells those who wait what its fetch has brought. -/
  | stores (ticket : Nat) (s : DocumentSettings) (hpoint : call.read.point = .storing ticket s) :
      Effect c call (c.setFetch ticket (.ready s)) ⟨⟨call.read.key, .waiting ticket⟩, call.ticket⟩
        []
  /-- The provider fails, and the failure can be told. -/
  | fails (ticket : Nat) (e : SettingsError) (hpoint : call.read.point = .fetching ticket)
      (htold : e.raised? = none) :
      Effect c call c ⟨⟨call.read.key, .evicting ticket⟩, call.ticket⟩
        [.ended ticket (.error e)]
  /-- The provider fails, and the call breaks off since that cannot be told. -/
  | breaks (ticket : Nat) (e : SettingsError) (fault : Fault)
      (hpoint : call.read.point = .fetching ticket) (hraised : e.raised? = some fault) :
      Effect c call c ⟨⟨call.read.key, .broken ticket fault⟩, call.ticket⟩
        [.ended ticket (.error e)]
  /-- The call drops the entry of its failed fetch, if that still is the key's. -/
  | evicts (ticket : Nat) (hpoint : call.read.point = .evicting ticket) :
      Effect c call (c.evict call.read.key ticket)
        ⟨⟨call.read.key, .failing ticket⟩, call.ticket⟩
        (if c.entry call.read.key = some ticket then [.dropped] else [])
  /-- The call tells those who wait that its fetch has failed. -/
  | tells (ticket : Nat) (hpoint : call.read.point = .failing ticket) :
      Effect c call (c.setFetch ticket .failed) ⟨⟨call.read.key, .waiting ticket⟩, call.ticket⟩ []
  /-- The call returns what the fetch has brought. -/
  | returns (ticket : Nat) (s : DocumentSettings) (hpoint : call.read.point = .waiting ticket)
      (hfetch : c.fetch ticket = .ready s) :
      Effect c call c ⟨⟨call.read.key, .done s⟩, call.ticket⟩ []
  /-- The call falls back, since the fetch has failed. -/
  | fallsBack (ticket : Nat) (hpoint : call.read.point = .waiting ticket)
      (hfetch : c.fetch ticket = .failed) :
      Effect c call c ⟨⟨call.read.key, .fallback⟩, call.ticket⟩ []
  /-- The call returns the global settings instead. -/
  | returnsGlobal (hpoint : call.read.point = .fallback) :
      Effect c call c ⟨⟨call.read.key, .done c.global⟩, call.ticket⟩ []

namespace SettingsCall.Effect

variable {c c' : SettingsCache} {call call' : SettingsCall} {new : List FetchEvent}

theorem key_eq (h : call.Effect c c' call' new) : call'.read.key = call.read.key := by
  cases h <;> rfl

/-- A call gets the ticket of the entry that its key then has. -/
theorem ticket_cases (h : call.Effect c c' call' new) {t : Nat} (hticket : call'.ticket = some t) :
    call.ticket = some t ∨ c'.entry call.read.key = some t := by
  cases h with
  | finds ticket _ hentry => exact .inr (hentry.trans hticket)
  | opens =>
      right
      simp only [SettingsCache.open', SettingsCache.setEntry, if_true]
      exact hticket
  | _ => exact .inl hticket

/-- A call returns the global settings, or what the fetch that it waits for has brought. -/
theorem result_cases (h : call.Effect c c' call' new) {s : DocumentSettings}
    (hresult : call'.read.result? = some s) :
    s = c.global ∨ ∃ t, call.read.point = .waiting t ∧ c.fetch t = .ready s ∧
      call'.ticket = call.ticket := by
  cases h with
  | unprovided | returnsGlobal => exact .inl (Option.some.inj hresult).symm
  | returns ticket s' hpoint hready =>
      obtain rfl := Option.some.inj hresult
      exact .inr ⟨ticket, hpoint, hready, rfl⟩
  | _ => cases hresult

end SettingsCall.Effect

namespace SettingsSession

/-- What a move does to the cache and the calls, and to the fetches and entries of all
keys. -/
inductive Effect (m : Move) (s : SettingsSession) :
    SettingsSession → (String → List FetchEvent) → Prop where
  /-- Nothing happens. -/
  | rests : Effect m s s fun _ => []
  /-- A call begins. -/
  | joins (key : String) :
      Effect m s { s with calls := s.calls ++ [{ read := { key } }] } fun _ => []
  /-- The host drops the entries of some keys. -/
  | forgets (which : String → Bool)
      (hmove : ∀ key, which key = true ↔ m = .remove key ∨ m = .invalidateAll) :
      Effect m s
        { s with cache := { s.cache with
            entry := fun key => if which key then none else s.cache.entry key } }
        fun key => if which key ∧ (s.cache.entry key).isSome then [.dropped] else []
  /-- The host replaces the global settings. -/
  | updates (global : DocumentSettings) :
      Effect m s { s with cache := { s.cache with global } } fun _ => []
  /-- A call goes on. -/
  | goesOn (i : Nat) (call : SettingsCall) {c : SettingsCache} {call' : SettingsCall}
      {new : List FetchEvent} (hmove : m = .step i ∨ ∃ answer, m = .answer i answer)
      (hget : s.calls[i]? = some call) (heffect : call.Effect s.cache c call' new) :
      Effect m s ⟨c, s.calls.set i call'⟩ fun key => if call.read.key = key then new else []

/-- A move lets a call begin, leaves it as it is, or lets it go on. -/
theorem Effect.call_cases {m : Move} {s s' : SettingsSession} {new : String → List FetchEvent}
    (h : Effect m s s' new) {i : Nat} {call : SettingsCall} (hget : s'.calls[i]? = some call) :
    (call.ticket = none ∧ call.read.point = .start) ∨
    ∃ before, s.calls[i]? = some before ∧
      (call = before ∨ ∃ now, before.Effect s.cache s'.cache call now) := by
  cases h with
  | rests | forgets | updates => exact .inr ⟨call, hget, .inl rfl⟩
  | joins key =>
      rcases getElem?_concat_cases hget with hget | rfl
      · exact .inr ⟨call, hget, .inl rfl⟩
      · exact .inl ⟨rfl, rfl⟩
  | goesOn j before _ hbefore heffect =>
      rcases getElem?_set_cases hbefore hget with ⟨rfl, rfl⟩ | ⟨-, hget⟩
      · exact .inr ⟨before, hbefore, .inr ⟨_, heffect⟩⟩
      · exact .inr ⟨call, hget, .inl rfl⟩

section

variable (s : SettingsSession)

theorem effect_rests {m : Move} {i : Nat} {call : SettingsCall} (hget : s.calls[i]? = some call) :
    Effect m s ⟨s.cache, s.calls.set i (call.goesOn call.read)⟩ fun _ => [] := by
  have hsame : call.goesOn call.read = call := by
    obtain ⟨⟨key, point⟩, ticket⟩ := call
    cases point <;> rfl
  rw [hsame, set_of_getElem? hget]
  exact .rests

theorem effect_step (i : Nat) :
    Effect (.step i) s (s.step (.step i)) fun key => s.events key (.step i) := by
  cases hget : s.calls[i]? with
  | none =>
      simp only [step, events, hget]
      exact .rests
  | some call =>
      -- wherever the call stands, it rests or has one of the effects
      have hrests : call.read.step s.cache = (s.cache, call.read) →
          call.read.eventsOfStep s.cache = [] →
          Effect (.step i) s (s.step (.step i)) fun key => s.events key (.step i) := by
        intro hsame hnothing
        simp only [step, events, hget, hsame, hnothing, ite_self]
        exact effect_rests s hget
      have hgoesOn : ∀ {c : SettingsCache} {call' : SettingsCall} {new : List FetchEvent},
          call.Effect s.cache c call' new → (call.read.step s.cache).1 = c →
          call.goesOn (call.read.step s.cache).2 = call' →
          call.read.eventsOfStep s.cache = new →
          Effect (.step i) s (s.step (.step i)) fun key => s.events key (.step i) := by
        rintro _ _ _ heffect rfl rfl rfl
        simp only [step, events, hget]
        exact .goesOn i call (.inl rfl) hget heffect
      obtain ⟨⟨key, point⟩, ticket⟩ := call
      cases point with
      | start =>
          cases hprovider : s.cache.hasProvider with
          | false =>
              refine hgoesOn (.unprovided rfl hprovider) ?_ ?_ ?_ <;>
                simp [SettingsRead.step, hprovider, SettingsCall.goesOn,
                  SettingsRead.Point.ticket?, SettingsRead.eventsOfStep]
          | true =>
              cases hentry : s.cache.entry key with
              | some t =>
                  refine hgoesOn (.finds t rfl hentry) ?_ ?_ ?_ <;>
                    simp [SettingsRead.step, hprovider, hentry, SettingsCall.goesOn,
                      SettingsRead.Point.ticket?, SettingsRead.eventsOfStep]
              | none =>
                  refine hgoesOn (.opens rfl hentry) ?_ ?_ ?_ <;>
                    simp [SettingsRead.step, hprovider, hentry, SettingsCall.goesOn,
                      SettingsRead.Point.ticket?, SettingsRead.eventsOfStep]
      | owning t => exact hgoesOn (.begins t rfl) rfl rfl rfl
      | fetching t => exact hrests rfl rfl
      | storing t v => exact hgoesOn (.stores t v rfl) rfl rfl rfl
      | evicting t => exact hgoesOn (.evicts t rfl) rfl rfl rfl
      | failing t => exact hgoesOn (.tells t rfl) rfl rfl rfl
      | waiting t =>
          cases hfetch : s.cache.fetch t with
          | pending =>
              refine hrests ?_ rfl
              simp [SettingsRead.step, hfetch]
          | ready v =>
              refine hgoesOn (.returns t v rfl hfetch) ?_ ?_ rfl <;>
                simp [SettingsRead.step, hfetch, SettingsCall.goesOn]
          | failed =>
              refine hgoesOn (.fallsBack t rfl hfetch) ?_ ?_ rfl <;>
                simp [SettingsRead.step, hfetch, SettingsCall.goesOn]
      | fallback => exact hgoesOn (.returnsGlobal rfl) rfl rfl rfl
      | done v => exact hrests rfl rfl
      | broken t fault => exact hrests rfl rfl

theorem effect_answer (i : Nat) (answer : Except SettingsError DocumentSettings) :
    Effect (.answer i answer) s (s.step (.answer i answer)) fun key =>
      s.events key (.answer i answer) := by
  cases hget : s.calls[i]? with
  | none =>
      simp only [step, events, hget]
      exact .rests
  | some call =>
      simp only [step, events, hget]
      obtain ⟨⟨key, point⟩, ticket⟩ := call
      cases point with
      | fetching t =>
          rcases answer with e | v
          · cases hraised : e.raised? with
            | none =>
                simp only [SettingsRead.fetched, hraised]
                exact .goesOn i _ (.inr ⟨_, rfl⟩) hget (.fails t e rfl hraised)
            | some fault =>
                simp only [SettingsRead.fetched, hraised]
                exact .goesOn i _ (.inr ⟨_, rfl⟩) hget (.breaks t e fault rfl hraised)
          · exact .goesOn i _ (.inr ⟨_, rfl⟩) hget (.succeeds t v rfl)
      | _ =>
          simp only [SettingsRead.fetched, SettingsRead.eventsOfAnswer, ite_self]
          exact effect_rests s hget

/-- **What a move can do.** -/
theorem effect_move (m : Move) : Effect m s (s.step m) fun key => s.events key m := by
  have hforgets : ∀ which : String → Bool,
      (∀ key, which key = true ↔ m = .remove key ∨ m = .invalidateAll) →
      (s.step m) = { s with cache := { s.cache with
        entry := fun key => if which key then none else s.cache.entry key } } →
      (∀ key, s.events key m = if which key ∧ (s.cache.entry key).isSome then [.dropped] else []) →
      Effect m s (s.step m) fun key => s.events key m := by
    intro which hmove hstep hevents
    rw [hstep, funext hevents]
    exact .forgets which hmove
  cases m with
  | call key => exact .joins key
  | step i => exact s.effect_step i
  | answer i answer => exact s.effect_answer i answer
  | remove key =>
      refine hforgets (fun k => decide (k = key)) (fun k => by simp [eq_comm]) ?_ fun k => ?_
      · simp [step, SettingsCache.remove, SettingsCache.setEntry]
      · rw [events, SettingsCache.contains]
        by_cases hk : k = key
        · simp [hk]
        · simp [hk, Ne.symm hk]
  | invalidateAll =>
      refine hforgets (fun _ => true) (fun _ => by simp) rfl fun key => ?_
      rw [events, SettingsCache.contains]
      cases s.cache.entry key <;> rfl
  | updateGlobal global => exact .updates global

end

end SettingsSession

end LintRelay
