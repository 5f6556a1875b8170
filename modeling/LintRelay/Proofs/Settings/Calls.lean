import LintRelay.Proofs.Settings.Fetches

/-!
# Calls stand by their fetches

A call deals with one fetch only, that of the entry which it found or made. While a fetch
is pending for a call that has to end it, no other call ends it, so whatever the fetch
ends with is what all calls that stand by it get.
-/

namespace LintRelay

/-- The fetch that a reader has to end: that of the entry which it has made. -/
def SettingsRead.Point.owned? : SettingsRead.Point → Option Nat
  | owning ticket | fetching ticket | storing ticket _ | evicting ticket | failing ticket
  | broken ticket _ => some ticket
  | start | waiting _ | fallback | done _ => none

/-- What has happened to its fetch when a reader stands somewhere. -/
def SettingsRead.Point.Reached (events : List FetchEvent) : SettingsRead.Point → Prop
  | fetching ticket => .started ticket ∈ events
  | storing ticket s => .ended ticket (.ok s) ∈ events
  | _ => True

theorem SettingsRead.Point.Reached.mono {events events' : List FetchEvent}
    {q : SettingsRead.Point} (h : q.Reached events) (hevents : events ⊆ events') :
    q.Reached events' := by
  cases q with
  | fetching | storing => exact hevents h
  | _ => trivial

namespace SettingsCache

variable (c : SettingsCache) (key : String) (ticket : Nat)

theorem entry_evict (k : String) : (c.evict key ticket).entry k =
    if key = k ∧ c.entry key = some ticket then none else c.entry k := by
  rw [evict]
  by_cases h : c.entry key = some ticket
  · rw [if_pos h]
    show (if k = key then none else c.entry k) = _
    by_cases hk : key = k
    · rw [if_pos hk.symm, if_pos ⟨hk, h⟩]
    · rw [if_neg (Ne.symm hk), if_neg fun hboth => hk hboth.1]
  · rw [if_neg h, if_neg fun hboth => h hboth.2]

@[simp] theorem fetch_evict : (c.evict key ticket).fetch = c.fetch := by
  rw [evict]
  split <;> rfl

@[simp] theorem tickets_evict : (c.evict key ticket).tickets = c.tickets := by
  rw [evict]
  split <;> rfl

@[simp] theorem hasProvider_evict : (c.evict key ticket).hasProvider = c.hasProvider := by
  rw [evict]
  split <;> rfl

end SettingsCache

namespace SettingsCall

/-- Where a call stands goes with the ticket of its entry, with what the cache knows of
that fetch, and with the events of its key. -/
inductive Stands (c : SettingsCache) (events : List FetchEvent) :
    Option Nat → SettingsRead.Point → Prop where
  | start : Stands c events none .start
  | unprovided (s : DocumentSettings) (hprovider : c.hasProvider = false) :
      Stands c events none (.done s)
  | owning {ticket : Nat} {q : SettingsRead.Point} (howned : q.owned? = some ticket)
      (hmade : .made ticket ∈ events) (hreached : q.Reached events)
      (hpending : c.fetch ticket = .pending) : Stands c events (some ticket) q
  | waiting {ticket : Nat} (hmade : .made ticket ∈ events) :
      Stands c events (some ticket) (.waiting ticket)
  | fallback {ticket : Nat} (hmade : .made ticket ∈ events)
      (hfailed : c.fetch ticket = .failed) : Stands c events (some ticket) .fallback
  | fellBack {ticket : Nat} (s : DocumentSettings) (hmade : .made ticket ∈ events)
      (hfailed : c.fetch ticket = .failed) : Stands c events (some ticket) (.done s)
  | returned {ticket : Nat} (s : DocumentSettings) (hmade : .made ticket ∈ events)
      (hready : c.fetch ticket = .ready s) : Stands c events (some ticket) (.done s)

variable {c c' : SettingsCache} {events events' : List FetchEvent} {ticket : Option Nat}
  {q : SettingsRead.Point}

/-- A call stands as before when other fetches end, and more happens to its key. -/
theorem Stands.mono (h : Stands c events ticket q) (hprovider : c'.hasProvider = c.hasProvider)
    (hevents : events ⊆ events')
    (hfetch : ∀ t, c.fetch t ≠ .pending ∨ q.owned? = some t → c'.fetch t = c.fetch t) :
    Stands c' events' ticket q := by
  cases h with
  | start => exact .start
  | unprovided s hnone => exact .unprovided s (hprovider.trans hnone)
  | owning howned hmade hreached hpending =>
      exact .owning howned (hevents hmade) (hreached.mono hevents)
        ((hfetch _ (.inr howned)).trans hpending)
  | waiting hmade => exact .waiting (hevents hmade)
  | fallback hmade hfailed =>
      exact .fallback (hevents hmade) ((hfetch _ (.inl (by simp [hfailed]))).trans hfailed)
  | fellBack s hmade hfailed =>
      exact .fellBack s (hevents hmade) ((hfetch _ (.inl (by simp [hfailed]))).trans hfailed)
  | returned s hmade hready =>
      exact .returned s (hevents hmade) ((hfetch _ (.inl (by simp [hready]))).trans hready)

/-- What a call has to end is pending, and it is the fetch of its entry. -/
theorem Stands.of_owned (h : Stands c events ticket q) {t : Nat} (howned : q.owned? = some t) :
    ticket = some t ∧ .made t ∈ events ∧ q.Reached events ∧ c.fetch t = .pending := by
  cases h with
  | owning howned' hmade hreached hpending =>
      obtain rfl := Option.some.inj (howned'.symm.trans howned)
      exact ⟨rfl, hmade, hreached, hpending⟩
  | _ => cases howned

theorem Stands.of_start (h : Stands c events ticket .start) : ticket = none := by
  cases h with
  | start => rfl
  | owning howned => cases howned

theorem Stands.of_waiting {t : Nat} (h : Stands c events ticket (.waiting t)) :
    ticket = some t := by
  cases h with
  | owning howned => cases howned
  | waiting => rfl

/-- A call that stands by an entry knows that it was made. -/
theorem Stands.made (h : Stands c events ticket q) {t : Nat} (hticket : ticket = some t) :
    .made t ∈ events := by
  cases h with
  | start | unprovided => cases hticket
  | owning _ hmade | waiting hmade | fallback hmade | fellBack _ hmade | returned _ hmade =>
      obtain rfl := Option.some.inj hticket
      exact hmade

namespace Effect

variable {call call' : SettingsCall} {new : List FetchEvent}

theorem hasProvider_eq (h : call.Effect c c' call' new) : c'.hasProvider = c.hasProvider := by
  cases h with
  | evicts ticket => exact SettingsCache.hasProvider_evict ..
  | _ => rfl

/-- A call ends only a fetch that it has to end. -/
theorem fetch_eq (h : call.Effect c c' call' new) {t : Nat}
    (howned : call.read.point.owned? ≠ some t) : c'.fetch t = c.fetch t := by
  cases h with
  | stores ticket s hpoint | tells ticket hpoint =>
      refine if_neg fun ht => howned ?_
      rw [hpoint, ht]
      rfl
  | evicts ticket => rw [SettingsCache.fetch_evict]
  | _ => rfl

/-- A call has to end what it had to end before, or the fetch of the entry that it makes. -/
theorem owned_cases (h : call.Effect c c' call' new) {t : Nat}
    (howned : call'.read.point.owned? = some t) :
    call.read.point.owned? = some t ∨ t = c.tickets := by
  cases h with
  | opens => exact .inr (Option.some.inj howned).symm
  | begins ticket hpoint | succeeds ticket s hpoint | fails ticket e hpoint
  | breaks ticket e fault hpoint | evicts ticket hpoint =>
      left
      rw [hpoint]
      exact howned
  | _ => cases howned

end Effect

end SettingsCall

namespace SettingsSession

/-- What holds in a session after what has happened to its keys. -/
structure Sound (s : SettingsSession) (trace : String → List FetchEvent) : Prop where
  enters : s.cache.Enters trace
  fetches : s.cache.Fetches trace
  stands : ∀ (i : Nat) (call : SettingsCall), s.calls[i]? = some call →
    SettingsCall.Stands s.cache (trace call.read.key) call.ticket call.read.point
  alone : ∀ (i j : Nat) (a b : SettingsCall) (t : Nat), s.calls[i]? = some a →
    s.calls[j]? = some b → a.read.point.owned? = some t → b.read.point.owned? = some t → i = j

theorem sound_start (hasProvider : Bool) (global : DocumentSettings) :
    (start hasProvider global).Sound fun _ => [] :=
  ⟨SettingsCache.enters_start .., SettingsCache.fetches_start .., by simp [start],
    by simp [start]⟩

variable {s : SettingsSession} {trace : String → List FetchEvent}

/-- A call that goes on leaves all others where they stand. -/
theorem Sound.goesOn (h : s.Sound trace) {i : Nat} {call : SettingsCall}
    (hget : s.calls[i]? = some call) {c : SettingsCache} {call' : SettingsCall}
    {new : List FetchEvent} (heffect : call.Effect s.cache c call' new)
    (henters : c.Enters fun key => trace key ++ if call.read.key = key then new else [])
    (hfetches : c.Fetches fun key => trace key ++ if call.read.key = key then new else [])
    (hstands : SettingsCall.Stands c (trace call.read.key ++ new) call'.ticket call'.read.point) :
    Sound ⟨c, s.calls.set i call'⟩ fun key =>
      trace key ++ if call.read.key = key then new else [] := by
  -- the fetch that the call may end is pending, and no other call has to end it
  have hother : ∀ (j : Nat) (b : SettingsCall), j ≠ i → s.calls[j]? = some b →
      ∀ t, s.cache.fetch t ≠ .pending ∨ b.read.point.owned? = some t →
        c.fetch t = s.cache.fetch t := by
    intro j b hj hb t ht
    refine heffect.fetch_eq fun howned => ?_
    rcases ht with hended | howned'
    · exact hended ((h.stands i call hget).of_owned howned).2.2.2
    · exact hj (h.alone j i b call t hb hget howned' howned)
  refine ⟨henters, hfetches, ?_, ?_⟩
  · intro j b hb
    rcases getElem?_set_cases hget hb with ⟨rfl, rfl⟩ | ⟨hj, hb⟩
    · rw [heffect.key_eq, if_pos rfl]
      exact hstands
    · exact (h.stands j b hb).mono heffect.hasProvider_eq (List.subset_append_left ..)
        (hother j b hj hb)
  · -- a call that makes an entry has to end a fetch that no other call knows
    have hnew : ∀ (j : Nat) (b : SettingsCall) (t : Nat), j ≠ i → s.calls[j]? = some b →
        call'.read.point.owned? = some t → b.read.point.owned? ≠ some t := by
      intro j b t hj hb howned howned'
      rcases heffect.owned_cases howned with hbefore | rfl
      · exact hj (h.alone j i b call t hb hget howned' hbefore)
      · have hmade := ((h.stands j b hb).of_owned howned').2.1
        exact Nat.lt_irrefl _ (h.enters.made_lt _ _ hmade)
    intro j k a b t ha hb howned howned'
    rcases getElem?_set_cases hget ha with ⟨rfl, rfl⟩ | ⟨hj, hold⟩ <;>
      rcases getElem?_set_cases hget hb with ⟨rfl, rfl⟩ | ⟨hk, hold'⟩
    · rfl
    · exact absurd howned' (hnew k b t hk hold' howned)
    · exact absurd howned (hnew j a t hj hold howned')
    · exact h.alone j k a b t hold hold' howned howned'

/-- A call that changes nothing in the cache. -/
theorem Sound.goesOn_quietly (h : s.Sound trace) {i : Nat} {call : SettingsCall}
    (hget : s.calls[i]? = some call) {call' : SettingsCall} {new : List FetchEvent}
    (heffect : call.Effect s.cache s.cache call' new) (hnew : new.all FetchEvent.isOfFetch)
    (hstarts : ∀ t, .started t ∈ new → .made t ∈ trace call.read.key)
    (hends : ∀ t answer, .ended t answer ∈ new → .started t ∈ trace call.read.key)
    (hstands : SettingsCall.Stands s.cache (trace call.read.key ++ new) call'.ticket
      call'.read.point) :
    Sound ⟨s.cache, s.calls.set i call'⟩ fun key =>
      trace key ++ if call.read.key = key then new else [] := by
  have hmem : ∀ {key : String} {e : FetchEvent}, e ∈ (if call.read.key = key then new else []) →
      call.read.key = key ∧ e ∈ new := by
    intro key e he
    split at he
    next hk => exact ⟨hk, he⟩
    next => cases he
  refine h.goesOn hget heffect (h.enters.stays (fun key => ?_) rfl rfl)
    (h.fetches.stays (fun key t ht => ?_) (fun key t ht => ?_) (fun key t answer ht => ?_) rfl
      (Nat.le_refl _)) hstands
  · split
    · exact hnew
    · rfl
  · exact absurd (List.all_eq_true.mp hnew _ (hmem ht).2) nofun
  · obtain ⟨rfl, hnow⟩ := hmem ht
    exact hstarts t hnow
  · obtain ⟨rfl, hnow⟩ := hmem ht
    exact hends t answer hnow

/-- A call that changes nothing, and of which nobody is told. -/
theorem Sound.goesOn_silently (h : s.Sound trace) {i : Nat} {call : SettingsCall}
    (hget : s.calls[i]? = some call) {call' : SettingsCall} {new : List FetchEvent}
    (heffect : call.Effect s.cache s.cache call' new) (hnew : new = [])
    (hstands : SettingsCall.Stands s.cache (trace call.read.key) call'.ticket
      call'.read.point) :
    Sound ⟨s.cache, s.calls.set i call'⟩ fun key =>
      trace key ++ if call.read.key = key then new else [] := by
  subst hnew
  exact h.goesOn_quietly hget heffect rfl nofun nofun (by rwa [List.append_nil])

/-- A call tells those who wait how the fetch that it has in hand has ended. -/
theorem Sound.goesOn_telling (h : s.Sound trace) {i : Nat} {call : SettingsCall}
    (hget : s.calls[i]? = some call) {ticket : Nat} {f : Fetch}
    (howned : call.read.point.owned? = some ticket)
    (heffect : call.Effect s.cache (s.cache.setFetch ticket f)
      ⟨⟨call.read.key, .waiting ticket⟩, call.ticket⟩ [])
    (hf : ∀ v, f = .ready v → .ended ticket (.ok v) ∈ trace call.read.key) :
    Sound ⟨s.cache.setFetch ticket f,
      s.calls.set i ⟨⟨call.read.key, .waiting ticket⟩, call.ticket⟩⟩ fun key =>
        trace key ++ if call.read.key = key then [] else [] := by
  obtain ⟨hticket, hmade, -, -⟩ := (h.stands i call hget).of_owned howned
  have htold := h.fetches.tells h.enters hmade hf
  refine h.goesOn hget heffect (h.enters.stays (fun key => by rw [ite_self]; rfl) rfl rfl) ?_ ?_
  · simpa only [ite_self, List.append_nil] using htold
  · rw [hticket, List.append_nil]
    exact .waiting hmade

/-- A call drops the entry of its failed fetch, if that still is the key's. -/
theorem Sound.goesOn_evicting (h : s.Sound trace) {i : Nat} {call : SettingsCall}
    (hget : s.calls[i]? = some call) {ticket : Nat} (hpoint : call.read.point = .evicting ticket) :
    Sound ⟨s.cache.evict call.read.key ticket,
      s.calls.set i ⟨⟨call.read.key, .failing ticket⟩, call.ticket⟩⟩ fun key =>
        trace key ++ if call.read.key = key then
          if s.cache.entry call.read.key = some ticket then [.dropped] else [] else [] := by
  have howned : call.read.point.owned? = some ticket := by rw [hpoint]; rfl
  obtain ⟨hticket, hmade, -, hpending⟩ := (h.stands i call hget).of_owned howned
  refine h.goesOn hget (.evicts ticket hpoint) ?_ ?_ ?_
  · refine h.enters.drops
      (fun key => call.read.key = key ∧ s.cache.entry call.read.key = some ticket)
      (fun key => ?_) (fun key => ?_) (s.cache.tickets_evict ..)
    · by_cases hk : call.read.key = key
      · subst hk
        by_cases hentry : s.cache.entry call.read.key = some ticket <;> simp [hentry]
      · simp [hk]
    · rw [SettingsCache.entry_evict]
      simp
  · refine h.fetches.drops (fun key e he => ?_) (s.cache.fetch_evict ..) (s.cache.tickets_evict ..)
    split at he
    · split at he
      · exact List.mem_singleton.mp he
      · cases he
    · cases he
  · rw [hticket]
    refine .owning rfl (List.mem_append_left _ hmade) trivial ?_
    rw [SettingsCache.fetch_evict, hpending]

/-- **A call that goes on keeps a session sound.** -/
theorem Sound.call (h : s.Sound trace) {i : Nat} {call : SettingsCall}
    (hget : s.calls[i]? = some call) {c : SettingsCache} {call' : SettingsCall}
    {new : List FetchEvent} (heffect : call.Effect s.cache c call' new) :
    Sound ⟨c, s.calls.set i call'⟩ fun key =>
      trace key ++ if call.read.key = key then new else [] := by
  have hstands := h.stands i call hget
  cases heffect with
  | unprovided hpoint hprovider =>
      refine h.goesOn_silently hget (.unprovided hpoint hprovider) rfl ?_
      rw [hpoint] at hstands
      rw [hstands.of_start]
      exact .unprovided _ hprovider
  | finds ticket hpoint hentry =>
      exact h.goesOn_silently hget (.finds ticket hpoint hentry) rfl
        (.waiting (h.enters.made_of_entry hentry))
  | opens hpoint hentry =>
      refine h.goesOn hget (.opens hpoint hentry) (h.enters.opens hentry)
        (h.fetches.stays (fun key t hmem => ?_) (fun key t hmem => ?_)
          (fun key t answer hmem => ?_) rfl (Nat.le_succ _))
        (.owning rfl (by simp) trivial (h.fetches.unmade _ (Nat.le_refl _)))
      · split at hmem
        · obtain rfl : t = s.cache.tickets := by simpa using hmem
          exact Nat.le_refl _
        · cases hmem
      · split at hmem <;> simp at hmem
      · split at hmem <;> simp at hmem
  | begins ticket hpoint =>
      obtain ⟨hticket, hmade, -, hpending⟩ := hstands.of_owned (t := ticket) (by rw [hpoint]; rfl)
      refine h.goesOn_quietly hget (.begins ticket hpoint) rfl (fun t ht => ?_) (by simp) ?_
      · obtain rfl : t = ticket := by simpa using ht
        exact hmade
      · rw [hticket]
        exact .owning rfl (List.mem_append_left _ hmade)
          (List.mem_append_right _ List.mem_cons_self) hpending
  | succeeds ticket v hpoint =>
      obtain ⟨hticket, hmade, hreached, hpending⟩ :=
        hstands.of_owned (t := ticket) (by rw [hpoint]; rfl)
      rw [hpoint] at hreached
      refine h.goesOn_quietly hget (.succeeds ticket v hpoint) rfl (by simp)
        (fun t answer ht => ?_) ?_
      · obtain ⟨rfl, -⟩ : t = ticket ∧ _ := by simpa using ht
        exact hreached
      · rw [hticket]
        exact .owning rfl (List.mem_append_left _ hmade)
          (List.mem_append_right _ List.mem_cons_self) hpending
  | fails ticket e hpoint | breaks ticket e _ hpoint =>
      obtain ⟨hticket, hmade, hreached, hpending⟩ :=
        hstands.of_owned (t := ticket) (by rw [hpoint]; rfl)
      rw [hpoint] at hreached
      refine h.goesOn_quietly hget (by constructor <;> assumption) rfl (by simp)
        (fun t answer ht => ?_) ?_
      · obtain ⟨rfl, -⟩ : t = ticket ∧ _ := by simpa using ht
        exact hreached
      · rw [hticket]
        exact .owning rfl (List.mem_append_left _ hmade) trivial hpending
  | stores ticket v hpoint =>
      have howned : call.read.point.owned? = some ticket := by rw [hpoint]; rfl
      have hreached := (hstands.of_owned howned).2.2.1
      rw [hpoint] at hreached
      refine h.goesOn_telling hget howned (.stores ticket v hpoint) fun v' hv => ?_
      obtain rfl := Fetch.ready.inj hv
      exact hreached
  | evicts ticket hpoint => exact h.goesOn_evicting hget hpoint
  | tells ticket hpoint =>
      have howned : call.read.point.owned? = some ticket := by rw [hpoint]; rfl
      exact h.goesOn_telling hget howned (.tells ticket hpoint) nofun
  | returns ticket v hpoint hready =>
      refine h.goesOn_silently hget (.returns ticket v hpoint hready) rfl ?_
      rw [hpoint] at hstands
      have hticket := hstands.of_waiting
      rw [hticket]
      exact .returned v (hstands.made hticket) hready
  | fallsBack ticket hpoint hfailed =>
      refine h.goesOn_silently hget (.fallsBack ticket hpoint hfailed) rfl ?_
      rw [hpoint] at hstands
      have hticket := hstands.of_waiting
      rw [hticket]
      exact .fallback (hstands.made hticket) hfailed
  | returnsGlobal hpoint =>
      refine h.goesOn_silently hget (.returnsGlobal hpoint) rfl ?_
      rw [hpoint] at hstands
      show SettingsCall.Stands s.cache _ call.ticket _
      generalize call.ticket = ticket at hstands
      cases hstands with
      | owning howned => cases howned
      | fallback hmade hfailed => exact .fellBack _ hmade hfailed

theorem Sound.step (h : s.Sound trace) {m : Move} {s' : SettingsSession}
    {new : String → List FetchEvent} (heffect : Effect m s s' new) :
    s'.Sound fun key => trace key ++ new key := by
  cases heffect with
  | rests => simpa only [List.append_nil] using h
  | joins key =>
      simp only [List.append_nil]
      refine ⟨h.enters, h.fetches, fun i call hget => ?_, fun i j a b t ha hb howned howned' => ?_⟩
      · rcases getElem?_concat_cases hget with hget | rfl
        · exact h.stands i call hget
        · exact .start
      · rcases getElem?_concat_cases ha with ha | rfl
        · rcases getElem?_concat_cases hb with hb | rfl
          · exact h.alone i j a b t ha hb howned howned'
          · cases howned'
        · cases howned
  | forgets which hmove =>
      refine ⟨h.enters.drops which (fun _ => rfl) (fun _ => rfl) rfl,
        h.fetches.drops (fun key e he => ?_) rfl rfl, fun i call hget => ?_, h.alone⟩
      · split at he
        · exact List.mem_singleton.mp he
        · cases he
      · exact (h.stands i call hget).mono rfl (List.subset_append_left ..) fun _ _ => rfl
  | updates global =>
      simp only [List.append_nil]
      refine ⟨⟨h.enters.entry, h.enters.alternates, h.enters.made_lt, h.enters.ofKey,
        h.enters.once⟩, ⟨h.fetches.made, h.fetches.started, h.fetches.ended,
        h.fetches.unmade⟩, fun i call hget => ?_, h.alone⟩
      exact (h.stands i call hget).mono rfl (List.Subset.refl _) fun _ _ => rfl
  | goesOn i call hmove hget heffect => exact h.call hget heffect

/-- **Every run is sound.** -/
theorem sound_run (hasProvider : Bool) (global : DocumentSettings) (moves : List Move) :
    ((start hasProvider global).run moves).Sound fun key =>
      (start hasProvider global).trace key moves := by
  -- from any sound session, since a run goes on from where its first move has led
  have hrun : ∀ (s : SettingsSession) (trace : String → List FetchEvent), s.Sound trace →
      (s.run moves).Sound fun key => trace key ++ s.trace key moves := by
    induction moves with
    | nil =>
        intro s trace h
        simpa only [SettingsSession.trace, List.append_nil, run_nil] using h
    | cons m moves ih =>
        intro s trace h
        have hstep := h.step (s.effect_move m)
        simpa only [SettingsSession.trace, List.append_assoc, run_cons] using ih _ _ hstep
  exact hrun _ _ (sound_start hasProvider global)

end SettingsSession

end LintRelay
