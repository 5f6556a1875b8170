import LintRelay.Proofs.Settings.Invalidation
import LintRelay.Proofs.Settings.Reading
import LintRelay.Proofs.Settings.SingleFlight

/-!
# A failed fetch leaves no trace and holds nobody up

From the moment its entry is made to its end, one call has a fetch in charge. When the
provider has answered with what can be told, that call needs two more steps at most until
the fetch is over for all who wait, and each of them returns with two more steps of its own.
A failed fetch takes its entry with it, and no entry but that.
-/

namespace LintRelay

/-- How a fetch has ended can be told, if it has ended. -/
def FetchEvent.IsTold (t : Nat) (events : List FetchEvent) : Prop :=
  ∀ e, .ended t (.error e) ∈ events → e.raised? = none

/-- A call has a fetch in charge: it is about to start it, or waits for the provider, or has
been answered and is about to tell what the fetch has brought, or to drop the entry. -/
def SettingsCall.InCharge (call : SettingsCall) (t : Nat) (events : List FetchEvent) : Prop :=
  (call.read.point = .owning t ∧ .started t ∉ events) ∨
    (call.read.point = .fetching t ∧ .started t ∈ events ∧ ∀ answer, .ended t answer ∉ events) ∨
    (∃ v, call.read.point = .storing t v ∧ .ended t (.ok v) ∈ events) ∨
    (call.read.point = .evicting t ∧ ∃ e, .ended t (.error e) ∈ events)

theorem SettingsCall.InCharge.owned {call : SettingsCall} {t : Nat} {events : List FetchEvent}
    (h : call.InCharge t events) : call.read.point.owned? = some t := by
  rcases h with ⟨hpoint, -⟩ | ⟨hpoint, -⟩ | ⟨v, hpoint, -⟩ | ⟨hpoint, -⟩ <;> rw [hpoint] <;> rfl

namespace SettingsCall.Effect

variable {c c' : SettingsCache} {call call' : SettingsCall} {new : List FetchEvent}

/-- A call that goes on behind its fetch is free, does not break off, and comes no further
from its end. -/
theorem isFree (h : call.Effect c c' call' new)
    (hdistance : call.read.point.distance ≤ 4) :
    call'.read.IsFree c' ∧ call'.read.point.isBroken = false ∧
      call'.read.point.distance ≤ call.read.point.distance ∧ call'.ticket = call.ticket := by
  cases h with
  | unprovided hpoint | finds _ hpoint | opens hpoint | begins _ hpoint | succeeds _ _ hpoint
  | fails _ _ hpoint | breaks _ _ _ hpoint =>
      simp [hpoint, SettingsRead.Point.distance] at hdistance
  | evicts ticket hpoint | fallsBack ticket hpoint | returns ticket v hpoint
  | returnsGlobal hpoint =>
      simp [hpoint, SettingsRead.IsFree, SettingsRead.Point.distance,
        SettingsRead.Point.isBroken]
  | stores ticket v hpoint | tells ticket hpoint =>
      simp [hpoint, SettingsRead.IsFree, SettingsRead.Point.distance,
        SettingsRead.Point.isBroken, SettingsCache.setFetch]

end SettingsCall.Effect

namespace SettingsSession

variable {s s' : SettingsSession} {trace new : String → List FetchEvent} {key : String} {t : Nat}

/-- Whether a call takes its next step with a move. -/
def Move.isStepOf (i : Nat) : Move → Bool
  | .step j => j = i
  | _ => false

/-- How often a call takes its next step. -/
def stepsOf (i : Nat) (moves : List Move) : Nat :=
  moves.countP (Move.isStepOf i)

/-- A call that stands by a fetch, which holds it up no more, and has some steps at most
to go. -/
structure Returns (s : SettingsSession) (i t n : Nat) : Prop where
  call : ∃ call, s.calls[i]? = some call ∧ call.ticket = some t ∧ call.read.IsFree s.cache ∧
    call.read.point.isBroken = false ∧ call.read.point.distance ≤ n
  le : n ≤ 4

/-- A call that nothing holds up comes nearer to its end with every step of its own. -/
theorem Returns.own {i n : Nat} (h : s.Returns i t n) : (s.step (.step i)).Returns i t (n - 1) := by
  obtain ⟨⟨call, hget, hticket, hfree, hbroken, hdistance⟩, hle⟩ := h
  have hsame : (call.goesOn (call.read.step s.cache).2).ticket = call.ticket := by
    unfold SettingsCall.goesOn
    split
    next hstart =>
      rw [hstart] at hdistance
      simp only [SettingsRead.Point.distance] at hdistance
      omega
    next => rfl
  refine ⟨⟨_, s.calls_step hget, hsame.trans hticket, ?_⟩, Nat.le_trans (n.sub_le 1) hle⟩
  rw [s.cache_step hget]
  show (call.read.step s.cache).2.IsFree _ ∧ (call.read.step s.cache).2.point.isBroken = false ∧
    (call.read.step s.cache).2.point.distance ≤ _
  rcases Nat.eq_zero_or_pos call.read.point.distance with hzero | hahead
  · obtain ⟨⟨key, point⟩, ticket⟩ := call
    cases point with
    | done => exact ⟨trivial, rfl, Nat.zero_le _⟩
    | broken => cases hbroken
    | _ => cases hzero
  · have hfetching : ∀ ticket, call.read.point ≠ .fetching ticket := by
      intro ticket hpoint
      rw [hpoint] at hdistance
      simp only [SettingsRead.Point.distance] at hdistance
      omega
    obtain ⟨hfree', hnearer⟩ := SettingsRead.isFree_step hfree hfetching hahead
    exact ⟨hfree', SettingsRead.isBroken_step s.cache hbroken, by omega⟩

/-- Other moves do not keep a call from its end. -/
theorem Returns.keeps {i n : Nat} (hreturns : s.Returns i t n) (h : s.Sound trace) {m : Move}
    (heffect : Effect m s s' new) : s'.Returns i t n := by
  obtain ⟨⟨call, hget, hticket, hfree, hbroken, hdistance⟩, hle⟩ := hreturns
  -- what holds nobody up stays so
  have hfree' : call.read.IsFree s'.cache := by
    unfold SettingsRead.IsFree at hfree ⊢
    split
    next hstart =>
      rw [hstart] at hdistance
      simp only [SettingsRead.Point.distance] at hdistance
      omega
    next ticket hwaiting =>
      simp only [hwaiting] at hfree
      rwa [h.fetch_eq heffect hfree]
    next => trivial
  have hsame : s'.calls[i]? = some call → s'.Returns i t n := fun hget' =>
    ⟨⟨call, hget', hticket, hfree', hbroken, hdistance⟩, hle⟩
  cases heffect with
  | rests | forgets | updates => exact hsame hget
  | joins =>
      refine hsame ?_
      rw [List.getElem?_append_left (List.getElem?_eq_some_iff.mp hget).1, hget]
  | @goesOn j other _ other' _ _ hother heffect =>
      have hset := getElem?_set_of_getElem? hother (y := other') i
      split at hset
      next hij =>
        subst hij
        obtain rfl := Option.some.inj (hother.symm.trans hget)
        obtain ⟨hfree, hbroken, hnearer, hticket'⟩ :=
          heffect.isFree (Nat.le_trans hdistance hle)
        exact ⟨⟨_, hset, hticket'.trans hticket, hfree, hbroken,
          Nat.le_trans hnearer hdistance⟩, hle⟩
      next => exact hsame (hset.trans hget)

/-- **Nobody is held up.** A call that its fetch holds up no more has as many steps less to
go as it takes, whatever happens in between. -/
theorem Returns.run {i n : Nat} (hreturns : s.Returns i t n) (h : s.Sound trace)
    (moves : List Move) : (s.run moves).Returns i t (n - stepsOf i moves) := by
  induction moves generalizing s trace n with
  | nil => exact hreturns
  | cons m moves ih =>
      have hsound := h.step (s.effect_move m)
      rw [stepsOf, List.countP_cons]
      split
      next hown =>
        obtain rfl : m = .step i := by
          cases m <;> simp_all [Move.isStepOf]
        rw [Nat.add_comm, ← Nat.sub_sub]
        exact ih hreturns.own hsound
      next => exact ih (hreturns.keeps h (s.effect_move m)) hsound

theorem Returns.returned {i : Nat} (h : s.Returns i t 0) :
    ∃ call, s.calls[i]? = some call ∧ call.read.result?.isSome := by
  obtain ⟨⟨⟨⟨key, point⟩, ticket⟩, hget, -, -, hbroken, hdistance⟩, -⟩ := h
  refine ⟨_, hget, ?_⟩
  cases point with
  | done => rfl
  | broken => cases hbroken
  | _ => simp [SettingsRead.Point.distance] at hdistance

/-- A call whose fetch is over returns with two steps. -/
theorem Sound.returns (h : s.Sound trace) {i : Nat} {call : SettingsCall}
    (hget : s.calls[i]? = some call) (hticket : call.ticket = some t)
    (hended : s.cache.fetch t ≠ .pending) : s.Returns i t 2 := by
  have hstands := h.stands i call hget
  obtain ⟨⟨key, point⟩, ticket⟩ := call
  obtain rfl : ticket = some t := hticket
  refine ⟨⟨_, hget, rfl, ?_⟩, by omega⟩
  cases hstands with
  | owning _ _ _ hpending => exact absurd hpending hended
  | waiting => exact ⟨hended, rfl, Nat.le_refl _⟩
  | fallback | fellBack | returned =>
      exact ⟨trivial, rfl, by simp [SettingsRead.Point.distance]⟩

end SettingsSession

end LintRelay
