import LintRelay.Proofs.Settings.Effects

/-!
# Fetches and entries in a run

What the events of a key tell is what the cache knows: its entry is the one that was made
last, unless that was dropped since, and a fetch has brought nothing but what it ended
with.
-/

namespace LintRelay

namespace FetchEvent

/-- The ticket of a key's entry after an event. -/
def after (entry : Option Nat) : FetchEvent → Option Nat
  | made ticket => some ticket
  | started _ | ended _ _ => entry
  | dropped => none

/-- The ticket of a key's entry after several events. -/
def entryAfter (entry : Option Nat) (events : List FetchEvent) : Option Nat :=
  events.foldl after entry

def make? : FetchEvent → Option Nat
  | made ticket => some ticket
  | _ => none

def isOfFetch : FetchEvent → Bool
  | started _ | ended _ _ => true
  | made _ | dropped => false

/-- Entries are made only where there is none. -/
def Alternates (entry : Option Nat) : List FetchEvent → Prop
  | [] => True
  | e :: events => (e.isMade → entry = none) ∧ Alternates (e.after entry) events

variable {entry : Option Nat} {events events' : List FetchEvent}

theorem entryAfter_append :
    entryAfter entry (events ++ events') = entryAfter (entryAfter entry events) events' :=
  List.foldl_append

theorem alternates_append :
    Alternates entry (events ++ events') ↔
      Alternates entry events ∧ Alternates (entryAfter entry events) events' := by
  induction events generalizing entry with
  | nil => simp [Alternates, entryAfter]
  | cons e events ih =>
      rw [List.cons_append, Alternates, Alternates, ih, and_assoc]
      rfl

/-- An entry that stands after some events was there before, or one of them made it. -/
theorem made_of_entryAfter {ticket : Nat} (h : entryAfter entry events = some ticket) :
    entry = some ticket ∨ .made ticket ∈ events := by
  induction events generalizing entry with
  | nil => exact .inl h
  | cons e events ih =>
      rcases ih h with hentry | hmem
      · cases e with
        | made t =>
            obtain rfl := Option.some.inj hentry
            exact .inr List.mem_cons_self
        | started | ended => exact .inl hentry
        | dropped => cases hentry
      · exact .inr (List.mem_cons_of_mem e hmem)

theorem of_isOfFetch (h : events.all isOfFetch) :
    entryAfter entry events = entry ∧ Alternates entry events ∧ events.filterMap make? = [] := by
  induction events with
  | nil => exact ⟨rfl, trivial, rfl⟩
  | cons e events ih =>
      rw [List.all_cons, Bool.and_eq_true] at h
      obtain ⟨he, hevents⟩ := h
      obtain ⟨hafter, halternates, hmake⟩ := ih hevents
      cases e with
      | started | ended => exact ⟨hafter, ⟨nofun, halternates⟩, hmake⟩
      | made | dropped => cases he

theorem mem_filterMap_make? {ticket : Nat} :
    ticket ∈ events.filterMap make? ↔ .made ticket ∈ events := by
  rw [List.mem_filterMap]
  constructor
  · rintro ⟨e, he, hmake⟩
    cases e with
    | made t =>
        obtain rfl := Option.some.inj hmake
        exact he
    | started | ended | dropped => cases hmake
  · intro h
    exact ⟨_, h, rfl⟩

end FetchEvent

namespace SettingsCache

open FetchEvent

/-- The entries of a cache are those that were made. -/
structure Enters (c : SettingsCache) (trace : String → List FetchEvent) : Prop where
  entry : ∀ key, entryAfter none (trace key) = c.entry key
  alternates : ∀ key, Alternates none (trace key)
  made_lt : ∀ key ticket, .made ticket ∈ trace key → ticket < c.tickets
  ofKey : ∀ key key' ticket, .made ticket ∈ trace key → .made ticket ∈ trace key' → key = key'
  once : ∀ key, ((trace key).filterMap make?).Nodup

/-- Fetches start for entries that were made, end after they have started, and have brought
nothing but what they ended with. -/
structure Fetches (c : SettingsCache) (trace : String → List FetchEvent) : Prop where
  made : ∀ key ticket, .started ticket ∈ trace key → .made ticket ∈ trace key
  started : ∀ key ticket answer, .ended ticket answer ∈ trace key → .started ticket ∈ trace key
  ended : ∀ key ticket s, .made ticket ∈ trace key → c.fetch ticket = .ready s →
    .ended ticket (.ok s) ∈ trace key
  unmade : ∀ ticket, c.tickets ≤ ticket → c.fetch ticket = .pending

variable {c c' : SettingsCache} {trace : String → List FetchEvent}

/-! ## Entries -/

theorem enters_start (hasProvider : Bool) (global : DocumentSettings) :
    ({ hasProvider, global } : SettingsCache).Enters fun _ => [] :=
  ⟨fun _ => rfl, fun _ => trivial, by simp, by simp, by simp⟩

theorem Enters.made_of_entry (h : c.Enters trace) {key : String} {ticket : Nat}
    (hentry : c.entry key = some ticket) : .made ticket ∈ trace key := by
  rw [← h.entry] at hentry
  exact (made_of_entryAfter hentry).resolve_left nofun

/-- More events, of which only one at most makes an entry, that of the next ticket. -/
theorem Enters.append (h : c.Enters trace) {new : String → List FetchEvent}
    (hentry : ∀ key, entryAfter (c.entry key) (new key) = c'.entry key)
    (halternates : ∀ key, Alternates (c.entry key) (new key)) (htickets : c.tickets ≤ c'.tickets)
    (hmakes : ∀ key ticket, .made ticket ∈ new key → ticket = c.tickets ∧
      ticket < c'.tickets ∧ ∀ key', .made ticket ∈ new key' → key = key')
    (honce : ∀ key, ((new key).filterMap make?).Nodup) :
    c'.Enters fun key => trace key ++ new key := by
  -- tickets are given out in order, so what is made now was not made before
  have hnew : ∀ key key' ticket, .made ticket ∈ trace key → .made ticket ∉ new key' := by
    intro key key' ticket hold hnew
    have hlt := h.made_lt key ticket hold
    have heq := (hmakes key' ticket hnew).1
    omega
  constructor
  case entry =>
    intro key
    rw [entryAfter_append, h.entry, hentry]
  case alternates =>
    intro key
    rw [alternates_append, h.entry]
    exact ⟨h.alternates key, halternates key⟩
  case made_lt =>
    intro key ticket hmem
    rcases List.mem_append.mp hmem with hmem | hmem
    · exact Nat.lt_of_lt_of_le (h.made_lt key ticket hmem) htickets
    · exact (hmakes key ticket hmem).2.1
  case ofKey =>
    intro key key' ticket hmem hmem'
    rcases List.mem_append.mp hmem with hmem | hmem <;>
      rcases List.mem_append.mp hmem' with hmem' | hmem'
    · exact h.ofKey key key' ticket hmem hmem'
    · exact absurd hmem' (hnew key key' ticket hmem)
    · exact absurd hmem (hnew key' key ticket hmem')
    · exact (hmakes key ticket hmem).2.2 key' hmem'
  case once =>
    intro key
    rw [List.filterMap_append, List.nodup_append]
    refine ⟨h.once key, honce key, fun t ht t' ht' heq => ?_⟩
    subst heq
    exact hnew key key t (mem_filterMap_make?.mp ht) (mem_filterMap_make?.mp ht')

/-- Where nothing is made and nothing is dropped, the entries stay. -/
theorem Enters.stays (h : c.Enters trace) {new : String → List FetchEvent}
    (hnew : ∀ key, (new key).all isOfFetch) (hentry : c'.entry = c.entry)
    (htickets : c'.tickets = c.tickets) : c'.Enters fun key => trace key ++ new key := by
  refine h.append (fun key => ?_) (fun key => (of_isOfFetch (hnew key)).2.1)
    (Nat.le_of_eq htickets.symm) (fun key ticket hmem => ?_) fun key => ?_
  · rw [(of_isOfFetch (hnew key)).1, hentry]
  · exact absurd (List.all_eq_true.mp (hnew key) _ hmem) nofun
  · have hmade : (new key).filterMap make? = [] :=
      (of_isOfFetch (hnew key) : entryAfter none _ = none ∧ _).2.2
    rw [hmade]
    exact .nil

theorem Enters.opens (h : c.Enters trace) {key : String} (hentry : c.entry key = none) :
    (c.open' key).Enters fun k =>
      trace k ++ if key = k then [.made c.tickets] else [] := by
  refine h.append (fun k => ?_) (fun k => ?_) (Nat.le_succ _) (fun k ticket hmem => ?_)
    fun k => ?_
  · by_cases hk : key = k
    · simp [hk, entryAfter, after, open', setEntry]
    · simp [hk, Ne.symm hk, entryAfter, open', setEntry]
  · by_cases hk : key = k
    · subst hk
      simp [Alternates, hentry]
    · simp [hk, Alternates]
  · by_cases hk : key = k
    · subst hk
      simp only [if_pos, List.mem_singleton, made.injEq] at hmem
      subst hmem
      refine ⟨rfl, Nat.lt_succ_self _, fun key' hmem' => ?_⟩
      by_cases hk' : key = key'
      · exact hk'
      · simp [hk'] at hmem'
    · simp [hk] at hmem
  · by_cases hk : key = k <;> simp [hk, make?]

theorem Enters.drops (h : c.Enters trace) (which : String → Bool) {new : String → List FetchEvent}
    (hnew : ∀ key, new key = if which key ∧ (c.entry key).isSome then [.dropped] else [])
    (hentry : ∀ key, c'.entry key = if which key then none else c.entry key)
    (htickets : c'.tickets = c.tickets) : c'.Enters fun key => trace key ++ new key := by
  refine h.append (fun key => ?_) (fun key => ?_) (Nat.le_of_eq htickets.symm)
    (fun key ticket hmem => ?_) fun key => ?_
  · rw [hnew, hentry]
    cases hwhich : which key with
    | false => simp [entryAfter]
    | true => cases c.entry key <;> simp [entryAfter, after]
  · rw [hnew]
    split <;> simp [Alternates, isMade]
  · rw [hnew] at hmem
    split at hmem <;> simp at hmem
  · rw [hnew]
    split <;> exact .nil

/-! ## Fetches -/

theorem fetches_start (hasProvider : Bool) (global : DocumentSettings) :
    ({ hasProvider, global } : SettingsCache).Fetches fun _ => [] :=
  ⟨by simp, by simp, by simp, fun _ _ => rfl⟩

/-- Where nobody is told of a fetch, what the fetches have brought stays. -/
theorem Fetches.stays (h : c.Fetches trace) {new : String → List FetchEvent}
    (hmakes : ∀ key ticket, .made ticket ∈ new key → c.tickets ≤ ticket)
    (hstarts : ∀ key ticket, .started ticket ∈ new key → .made ticket ∈ trace key)
    (hends : ∀ key ticket answer, .ended ticket answer ∈ new key → .started ticket ∈ trace key)
    (hfetch : c'.fetch = c.fetch) (htickets : c.tickets ≤ c'.tickets) :
    c'.Fetches fun key => trace key ++ new key := by
  constructor
  case made =>
    intro key ticket hmem
    rcases List.mem_append.mp hmem with hmem | hmem
    · exact List.mem_append_left _ (h.made key ticket hmem)
    · exact List.mem_append_left _ (hstarts key ticket hmem)
  case started =>
    intro key ticket answer hmem
    rcases List.mem_append.mp hmem with hmem | hmem
    · exact List.mem_append_left _ (h.started key ticket answer hmem)
    · exact List.mem_append_left _ (hends key ticket answer hmem)
  case ended =>
    intro key ticket s hmem hready
    rw [hfetch] at hready
    rcases List.mem_append.mp hmem with hmem | hmem
    · exact List.mem_append_left _ (h.ended key ticket s hmem hready)
    · rw [h.unmade ticket (hmakes key ticket hmem)] at hready
      cases hready
  case unmade =>
    intro ticket hle
    rw [hfetch]
    exact h.unmade ticket (Nat.le_trans htickets hle)

/-- Where entries are dropped at most, what the fetches have brought stays. -/
theorem Fetches.drops (h : c.Fetches trace) {new : String → List FetchEvent}
    (hnew : ∀ key, ∀ e ∈ new key, e = .dropped) (hfetch : c'.fetch = c.fetch)
    (htickets : c'.tickets = c.tickets) : c'.Fetches fun key => trace key ++ new key := by
  refine h.stays (fun key ticket hmem => ?_) (fun key ticket hmem => ?_)
    (fun key ticket answer hmem => ?_) hfetch (Nat.le_of_eq htickets.symm) <;>
  cases hnew key _ hmem

/-- Those who wait are told of a fetch, if of settings, then of those that it ended with. -/
theorem Fetches.tells (h : c.Fetches trace) (henters : c.Enters trace) {key : String}
    {ticket : Nat} (hmade : .made ticket ∈ trace key) {f : Fetch}
    (hf : ∀ s, f = .ready s → .ended ticket (.ok s) ∈ trace key) :
    (c.setFetch ticket f).Fetches trace := by
  refine ⟨h.made, h.started, fun k t s hmem hready => ?_, fun t hle => ?_⟩
  · by_cases ht : t = ticket
    · subst ht
      obtain rfl := henters.ofKey k key t hmem hmade
      exact hf s ((if_pos rfl).symm.trans hready)
    · exact h.ended k t s hmem ((if_neg ht).symm.trans hready)
  · have hlt := henters.made_lt key ticket hmade
    have hle : c.tickets ≤ t := hle
    exact (if_neg (by omega)).trans (h.unmade t hle)

end SettingsCache

end LintRelay
