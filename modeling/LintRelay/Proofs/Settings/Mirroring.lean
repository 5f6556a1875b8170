import LintRelay.Proofs.Settings.Calls
import LintRelay.Validation.Isolation

/-!
# Two caches that serve one key alike

A reader sees of a cache the entry of its key and the fetch behind it, never the number
of that fetch. So a cache in which other keys are read as well serves a key like one that
is used for this key alone: only the tickets are others, since those of other keys are
given out in between.
-/

namespace LintRelay

/-- Two readers at the same point, of the same fetch where they deal with one. -/
inductive SettingsRead.Point.Alike (same : Nat → Nat → Prop) :
    SettingsRead.Point → SettingsRead.Point → Prop where
  | start : Alike same .start .start
  | owning {t t' : Nat} (h : same t t') : Alike same (.owning t) (.owning t')
  | fetching {t t' : Nat} (h : same t t') : Alike same (.fetching t) (.fetching t')
  | storing {t t' : Nat} (s : DocumentSettings) (h : same t t') :
      Alike same (.storing t s) (.storing t' s)
  | evicting {t t' : Nat} (h : same t t') : Alike same (.evicting t) (.evicting t')
  | failing {t t' : Nat} (h : same t t') : Alike same (.failing t) (.failing t')
  | waiting {t t' : Nat} (h : same t t') : Alike same (.waiting t) (.waiting t')
  | fallback : Alike same .fallback .fallback
  | done (s : DocumentSettings) : Alike same (.done s) (.done s)
  | broken {t t' : Nat} (fault : Fault) (h : same t t') :
      Alike same (.broken t fault) (.broken t' fault)

/-- Two readers of a key at the same point. -/
inductive SettingsRead.Alike (key : String) (same : Nat → Nat → Prop) :
    SettingsRead → SettingsRead → Prop where
  | reads {q q' : Point} (h : q.Alike same q') : Alike key same ⟨key, q⟩ ⟨key, q'⟩

/-- Readers at the same point take an answer of the provider alike. -/
theorem SettingsRead.Alike.fetched {key : String} {same : Nat → Nat → Prop} {r r' : SettingsRead}
    (hr : r.Alike key same r') (answer : Except SettingsError DocumentSettings) :
    (r.fetched answer).1.Alike key same (r'.fetched answer).1 := by
  obtain ⟨hq⟩ := hr
  cases hq with
  | fetching ht =>
      cases answer with
      | ok s => exact ⟨.storing s ht⟩
      | error e =>
          simp only [SettingsRead.fetched]
          split
          · exact ⟨.evicting ht⟩
          · exact ⟨.broken _ ht⟩
  | start => exact ⟨.start⟩
  | owning ht => exact ⟨.owning ht⟩
  | storing s ht => exact ⟨.storing s ht⟩
  | evicting ht => exact ⟨.evicting ht⟩
  | failing ht => exact ⟨.failing ht⟩
  | waiting ht => exact ⟨.waiting ht⟩
  | fallback => exact ⟨.fallback⟩
  | done s => exact ⟨.done s⟩
  | broken fault ht => exact ⟨.broken fault ht⟩

namespace SettingsCache

/-- A fetch of another key: it was started, and it is none of those that two caches have
in common. -/
def Foreign (same : Nat → Nat → Prop) (c : SettingsCache) (t : Nat) : Prop :=
  t < c.tickets ∧ ∀ t', ¬ same t t'

/-- The second cache serves a key like the first one does. The fetches of this key that
were started in both are the same. -/
structure Mirrors (key : String) (same : Nat → Nat → Prop) (c c' : SettingsCache) : Prop where
  hasProvider : c'.hasProvider = c.hasProvider
  global : c'.global = c.global
  entry : Option.Rel same (c.entry key) (c'.entry key)
  others : ∀ k t, k ≠ key → c.entry k = some t → c.Foreign same t
  fetch : ∀ t t', same t t' → c'.fetch t' = c.fetch t
  started : ∀ t t', same t t' → t < c.tickets ∧ t' < c'.tickets
  unique : ∀ t t' u u', same t t' → same u u' → (t = u ↔ t' = u')
  unstarted : ∀ t, c.tickets ≤ t → c.fetch t = .pending
  unstarted' : ∀ t, c'.tickets ≤ t → c'.fetch t = .pending

/-- More fetches may be the same, but none of another key. -/
structure Extends (same : Nat → Nat → Prop) (c : SettingsCache) (same' : Nat → Nat → Prop)
    (c₁ : SettingsCache) : Prop where
  grows : ∀ {t t'}, same t t' → same' t t'
  foreign : ∀ {t}, c.Foreign same t → c₁.Foreign same' t

structure Apart (key : String) (same : Nat → Nat → Prop) (c : SettingsCache)
    (r : SettingsRead) : Prop where
  key_ne : r.key ≠ key
  ticket : ∀ t, r.point.ticket? = some t → c.Foreign same t

variable {key : String} {same same' : Nat → Nat → Prop} {c c' c₁ : SettingsCache} {t t' : Nat}

theorem Extends.of_tickets_eq (h : c₁.tickets = c.tickets) : Extends same c same c₁ :=
  ⟨id, fun hforeign => ⟨h ▸ hforeign.1, hforeign.2⟩⟩

theorem Extends.alike (h : Extends same c same' c₁) {r r' : SettingsRead}
    (hr : r.Alike key same r') : r.Alike key same' r' := by
  obtain ⟨hq⟩ := hr
  refine ⟨?_⟩
  cases hq with
  | start => exact .start
  | owning ht => exact .owning (h.grows ht)
  | fetching ht => exact .fetching (h.grows ht)
  | storing s ht => exact .storing s (h.grows ht)
  | evicting ht => exact .evicting (h.grows ht)
  | failing ht => exact .failing (h.grows ht)
  | waiting ht => exact .waiting (h.grows ht)
  | fallback => exact .fallback
  | done s => exact .done s
  | broken fault ht => exact .broken fault (h.grows ht)

/-- An answer of the provider lets a reader deal with the fetch that it dealt with. -/
theorem Apart.fetched {key : String} {same : Nat → Nat → Prop} {c : SettingsCache}
    {r : SettingsRead} (hr : c.Apart key same r)
    (answer : Except SettingsError DocumentSettings) : c.Apart key same (r.fetched answer).1 := by
  obtain ⟨k, q⟩ := r
  cases q with
  | fetching u =>
      cases answer with
      | ok s => exact ⟨hr.key_ne, hr.ticket⟩
      | error e =>
          simp only [SettingsRead.fetched]
          split <;> exact ⟨hr.key_ne, hr.ticket⟩
  | _ => exact hr

theorem Extends.apart (h : Extends same c same' c₁) {r : SettingsRead}
    (hr : c.Apart key same r) : c₁.Apart key same' r :=
  ⟨hr.key_ne, fun t ht => h.foreign (hr.ticket t ht)⟩

/-- A cache in use serves each key like the one without its other entries. -/
theorem exists_mirrors_only (hasProvider : Bool) (global : DocumentSettings)
    (moves : List SettingsSession.Move) (key : String) :
    let c := ((SettingsSession.start hasProvider global).run moves).cache
    ∃ same, Mirrors key same c (c.only key) := by
  intro c
  have hsound := SettingsSession.sound_run hasProvider global moves
  have hmade : ∀ {k u}, c.entry k = some u →
      .made u ∈ (SettingsSession.start hasProvider global).trace k moves :=
    fun hu => hsound.enters.made_of_entry hu
  have hlt : ∀ {k u}, c.entry k = some u → u < c.tickets :=
    fun hu => hsound.enters.made_lt _ _ (hmade hu)
  refine ⟨fun t t' => c.entry key = some t ∧ t' = t, ?_⟩
  constructor
  case hasProvider => rfl
  case global => rfl
  case entry =>
    have honly : (c.only key).entry key = c.entry key := if_pos rfl
    rw [honly]
    cases hentry : c.entry key with
    | none => exact .none
    | some u => exact .some ⟨rfl, rfl⟩
  case others =>
    intro k u hk hu
    refine ⟨hlt hu, fun t' ht' => hk ?_⟩
    exact hsound.enters.ofKey k key u (hmade hu) (hmade ht'.1)
  case fetch => rintro u _ ⟨-, rfl⟩; rfl
  case started => rintro u _ ⟨hu, rfl⟩; exact ⟨hlt hu, hlt hu⟩
  case unique => rintro u _ v _ ⟨-, rfl⟩ ⟨-, rfl⟩; rfl
  case unstarted => exact hsound.fetches.unmade
  case unstarted' => exact hsound.fetches.unmade

namespace Mirrors

/-! ## What happens to the key in both caches -/

theorem setFetch (h : Mirrors key same c c') (ht : same t t') (f : Fetch) :
    Mirrors key same (c.setFetch t f) (c'.setFetch t' f) := by
  refine { h with fetch := fun u u' hu => ?_, unstarted := fun u hu => ?_,
                  unstarted' := fun u hu => ?_ }
  · simp only [SettingsCache.setFetch, h.fetch u u' hu, h.unique u u' t t' hu ht]
  · have hlt := (h.started t t' ht).1
    have hle : c.tickets ≤ u := hu
    exact (if_neg (by omega)).trans (h.unstarted u hle)
  · have hlt := (h.started t t' ht).2
    have hle : c'.tickets ≤ u := hu
    exact (if_neg (by omega)).trans (h.unstarted' u hle)

theorem remove (h : Mirrors key same c c') : Mirrors key same (c.remove key) (c'.remove key) := by
  refine { h with entry := ?_, others := fun k u hk hu => ?_ }
  · simp [SettingsCache.remove, setEntry]
  · simp only [SettingsCache.remove, setEntry, if_neg hk] at hu
    exact h.others k u hk hu

theorem evict (h : Mirrors key same c c') (ht : same t t') :
    Mirrors key same (c.evict key t) (c'.evict key t') := by
  have hiff : c.entry key = some t ↔ c'.entry key = some t' := by
    have hentry := h.entry
    generalize c.entry key = e, c'.entry key = e' at hentry ⊢
    cases hentry with
    | none => simp
    | some hu => simpa using h.unique _ _ _ _ hu ht
  rw [SettingsCache.evict, SettingsCache.evict]
  split
  next hentry =>
    rw [if_pos (hiff.mp hentry)]
    exact h.remove
  next hentry =>
    rw [if_neg fun hentry' => hentry (hiff.mpr hentry')]
    exact h

/-- Where both caches make an entry for the key, the two new fetches are the same. -/
theorem opens (h : Mirrors key same c c') :
    ∃ same', same' c.tickets c'.tickets ∧ Extends same c same' (c.open' key) ∧
      Mirrors key same' (c.open' key) (c'.open' key) := by
  let same' : Nat → Nat → Prop := fun t t' => same t t' ∨ (t = c.tickets ∧ t' = c'.tickets)
  have hforeign : ∀ {u}, c.Foreign same u → (c.open' key).Foreign same' u := by
    rintro u ⟨hlt, hnot⟩
    refine ⟨Nat.lt_succ_of_lt hlt, fun u' hu' => ?_⟩
    rcases hu' with hu' | ⟨rfl, -⟩
    · exact hnot u' hu'
    · exact Nat.lt_irrefl _ hlt
  refine ⟨same', .inr ⟨rfl, rfl⟩, ⟨.inl, hforeign⟩, ?_⟩
  constructor
  case hasProvider => exact h.hasProvider
  case global => exact h.global
  case entry =>
    simp only [open', setEntry, if_true]
    exact .some (.inr ⟨rfl, rfl⟩)
  case others =>
    intro k u hk hu
    simp only [open', setEntry, if_neg hk] at hu
    exact hforeign (h.others k u hk hu)
  case fetch =>
    rintro u u' (hu | ⟨rfl, rfl⟩)
    · exact h.fetch u u' hu
    · exact (h.unstarted' _ (Nat.le_refl _)).trans (h.unstarted _ (Nat.le_refl _)).symm
  case started =>
    rintro u u' (hu | ⟨rfl, rfl⟩)
    · exact (h.started u u' hu).imp Nat.lt_succ_of_lt Nat.lt_succ_of_lt
    · exact ⟨Nat.lt_succ_self _, Nat.lt_succ_self _⟩
  case unique =>
    rintro u u' v v' (hu | ⟨rfl, rfl⟩) (hv | ⟨rfl, rfl⟩)
    · exact h.unique u u' v v' hu hv
    · have hlt := h.started u u' hu
      omega
    · have hlt := h.started v v' hv
      omega
    · simp
  case unstarted => exact fun u hu => h.unstarted u (Nat.le_of_succ_le hu)
  case unstarted' => exact fun u hu => h.unstarted' u (Nat.le_of_succ_le hu)

theorem invalidateAll (h : Mirrors key same c c') :
    Mirrors key same c.invalidateAll c'.invalidateAll :=
  { h with entry := .none, others := fun _ _ _ hu => nomatch hu }

theorem updateGlobal (h : Mirrors key same c c') (s : DocumentSettings) :
    Mirrors key same (c.updateGlobal s) (c'.updateGlobal s) :=
  { h with global := rfl }

/-- **Both caches serve a reader of the key alike**: at its next step they tell it the
same. -/
theorem step (h : Mirrors key same c c') {r r' : SettingsRead} (hr : r.Alike key same r') :
    ∃ same', Extends same c same' (r.step c).1 ∧ Mirrors key same' (r.step c).1 (r'.step c').1 ∧
      (r.step c).2.Alike key same' (r'.step c').2 := by
  obtain ⟨hq⟩ := hr
  have hstay : Extends same c same c := .of_tickets_eq rfl
  cases hq with
  | start =>
      simp only [SettingsRead.step, h.hasProvider, h.global]
      cases hprovider : c.hasProvider with
      | false => exact ⟨same, hstay, h, ⟨.done _⟩⟩
      | true =>
          have hentry := h.entry
          generalize c.entry key = e, c'.entry key = e' at hentry ⊢
          cases hentry with
          | none =>
              obtain ⟨same', hnew, hextends, hmirrors⟩ := h.opens
              simp only [if_true]
              exact ⟨same', hextends, hmirrors, ⟨.owning hnew⟩⟩
          | some hu =>
              simp only [if_true]
              exact ⟨same, hstay, h, ⟨.waiting hu⟩⟩
  | owning ht | fetching ht => exact ⟨same, hstay, h, ⟨.fetching ht⟩⟩
  | storing s ht =>
      exact ⟨same, .of_tickets_eq rfl, h.setFetch ht (.ready s), ⟨.waiting ht⟩⟩
  | evicting ht =>
      exact ⟨same, .of_tickets_eq (tickets_evict ..), h.evict ht, ⟨.failing ht⟩⟩
  | failing ht =>
      exact ⟨same, .of_tickets_eq rfl, h.setFetch ht .failed, ⟨.waiting ht⟩⟩
  | @waiting t t' ht =>
      simp only [SettingsRead.step, h.fetch t t' ht]
      cases c.fetch t with
      | pending => exact ⟨same, hstay, h, ⟨.waiting ht⟩⟩
      | ready s => exact ⟨same, hstay, h, ⟨.done s⟩⟩
      | failed => exact ⟨same, hstay, h, ⟨.fallback⟩⟩
  | fallback =>
      simp only [SettingsRead.step, h.global]
      exact ⟨same, hstay, h, ⟨.done _⟩⟩
  | done s => exact ⟨same, hstay, h, ⟨.done s⟩⟩
  | broken fault ht => exact ⟨same, hstay, h, ⟨.broken fault ht⟩⟩

/-! ## What happens to other keys -/

theorem setFetch_foreign (h : Mirrors key same c c') (ht : c.Foreign same t) (f : Fetch) :
    Mirrors key same (c.setFetch t f) c' := by
  refine { h with fetch := fun u u' hu => ?_, unstarted := fun u hu => ?_ }
  · have hne : u ≠ t := by
      rintro rfl
      exact ht.2 u' hu
    exact (h.fetch u u' hu).trans (if_neg hne).symm
  · have hlt := ht.1
    have hle : c.tickets ≤ u := hu
    exact (if_neg (by omega)).trans (h.unstarted u hle)

theorem remove_other (h : Mirrors key same c c') {k : String} (hk : k ≠ key) :
    Mirrors key same (c.remove k) c' := by
  refine { h with entry := ?_, others := fun k' u hk' hu => ?_ }
  · simpa [SettingsCache.remove, setEntry, Ne.symm hk] using h.entry
  · simp only [SettingsCache.remove, setEntry] at hu
    split at hu
    · cases hu
    · exact h.others k' u hk' hu

theorem evict_other (h : Mirrors key same c c') {k : String} (hk : k ≠ key) (u : Nat) :
    Mirrors key same (c.evict k u) c' := by
  rw [SettingsCache.evict]
  split
  · exact h.remove_other hk
  · exact h

theorem opens_other (h : Mirrors key same c c') {k : String} (hk : k ≠ key) :
    Extends same c same (c.open' k) ∧ Mirrors key same (c.open' k) c' ∧
      (c.open' k).Foreign same c.tickets := by
  have hforeign : ∀ {u}, c.Foreign same u → (c.open' k).Foreign same u :=
    fun hu => ⟨Nat.lt_succ_of_lt hu.1, hu.2⟩
  have hnew : (c.open' k).Foreign same c.tickets :=
    ⟨Nat.lt_succ_self _, fun t' ht' => Nat.lt_irrefl _ (h.started _ t' ht').1⟩
  refine ⟨⟨id, hforeign⟩, ?_, hnew⟩
  refine { h with entry := ?_, others := fun k' u hk' hu => ?_, started := fun u u' hu => ?_,
                  unstarted := fun u hu => h.unstarted u (Nat.le_of_succ_le hu) }
  · simpa [open', setEntry, Ne.symm hk] using h.entry
  · simp only [open', setEntry] at hu
    split at hu
    · obtain rfl := Option.some.inj hu
      exact hnew
    · exact hforeign (h.others k' u hk' hu)
  · exact (h.started u u' hu).imp_left Nat.lt_succ_of_lt

/-- A step of a reader of another key is not seen. -/
theorem step_other (h : Mirrors key same c c') {r : SettingsRead} (hr : c.Apart key same r) :
    let next := SettingsRead.step c r
    Extends same c same next.1 ∧ Mirrors key same next.1 c' ∧ next.1.Apart key same next.2 := by
  obtain ⟨k, q⟩ := r
  obtain ⟨hk, hticket⟩ := hr
  have hstay : Extends same c same c := .of_tickets_eq rfl
  have hdone : ∀ s, c.Apart key same ⟨k, .done s⟩ := fun s => ⟨hk, fun _ hu => by cases hu⟩
  cases q with
  | start =>
      simp only [SettingsRead.step]
      split
      · split
        next u hu =>
          exact ⟨hstay, h, hk, fun t ht => Option.some.inj ht ▸ h.others k u hk hu⟩
        next =>
          obtain ⟨hextends, hmirrors, hnew⟩ := h.opens_other hk
          exact ⟨hextends, hmirrors, hk, fun t ht => Option.some.inj ht ▸ hnew⟩
      · exact ⟨hstay, h, hdone _⟩
  | owning u | fetching u | broken u => exact ⟨hstay, h, hk, hticket⟩
  | storing u s => exact ⟨.of_tickets_eq rfl, h.setFetch_foreign (hticket u rfl) _, hk, hticket⟩
  | evicting u =>
      have hextends : Extends same c same (c.evict k u) := .of_tickets_eq (tickets_evict ..)
      exact ⟨hextends, h.evict_other hk u, hextends.apart ⟨hk, hticket⟩⟩
  | failing u => exact ⟨.of_tickets_eq rfl, h.setFetch_foreign (hticket u rfl) _, hk, hticket⟩
  | waiting u =>
      simp only [SettingsRead.step]
      split
      · exact ⟨hstay, h, hk, hticket⟩
      · exact ⟨hstay, h, hdone _⟩
      · exact ⟨hstay, h, hk, fun _ hu => by cases hu⟩
  | fallback => exact ⟨hstay, h, hdone _⟩
  | done s => exact ⟨hstay, h, hk, hticket⟩

end Mirrors

end SettingsCache

end LintRelay
