import Mathlib.Data.List.Induction
import LintRelay.Proofs.Settings.Calls

/-!
# Nothing stale after an invalidation

Once the entry of a key is forgotten, the fetches of the entries that were made before reach
nobody who asks later: no call finds them, and when they end, late, neither the entries nor
what the cache holds change.
-/

namespace LintRelay

namespace SettingsSession

/-- A move that forgets the entry of a key. -/
def Move.Forgets (m : Move) (key : String) : Prop :=
  m = .remove key ∨ m = .invalidateAll

theorem Sound.fetch_eq {s s' : SettingsSession} {trace new : String → List FetchEvent} {m : Move}
    (h : s.Sound trace) (heffect : Effect m s s' new) {t : Nat}
    (hended : s.cache.fetch t ≠ .pending) : s'.cache.fetch t = s.cache.fetch t := by
  cases heffect with
  | rests | joins | forgets | updates => rfl
  | goesOn i call _ hget heffect =>
      refine heffect.fetch_eq fun howned => hended ?_
      exact ((h.stands i call hget).of_owned howned).2.2.2

/-- A call whose fetch is not that of its key's entry any more changes no entry, and nothing
that the cache holds, when its fetch ends and when it goes on. -/
theorem Sound.goesOn_of_late {s : SettingsSession} {trace : String → List FetchEvent} {m : Move}
    (h : s.Sound trace) {i : Nat} {call : SettingsCall} {t : Nat}
    (hget : s.calls[i]? = some call) (hticket : call.ticket = some t)
    (hlate : s.cache.entry call.read.key ≠ some t)
    (hmove : m = .step i ∨ ∃ answer, m = .answer i answer) :
    (s.step m).cache.entry = s.cache.entry ∧
      ∀ k, (s.step m).cache.held? k = s.cache.held? k := by
  have hstands := h.stands i call hget
  -- the fetch is not that of any key's entry
  have hentries : ∀ k, s.cache.entry k ≠ some t := by
    intro k hentry
    have hk := h.enters.ofKey k call.read.key t (h.enters.made_of_entry hentry)
      (hstands.made hticket)
    exact hlate (hk ▸ hentry)
  -- what the cache holds depends on other fetches only
  have hheld : ∀ c : SettingsCache, c.entry = s.cache.entry →
      (∀ t', t' ≠ t → c.fetch t' = s.cache.fetch t') →
      c.entry = s.cache.entry ∧ ∀ k, c.held? k = s.cache.held? k := by
    intro c hentry hfetch
    refine ⟨hentry, fun k => ?_⟩
    rw [SettingsCache.held?, SettingsCache.held?, hentry]
    cases hk : s.cache.entry k with
    | none => rfl
    | some t' => exact congrArg some (hfetch t' fun ht => hentries k (ht ▸ hk))
  have heffect := s.effect_move m
  generalize s.step m = s', (fun key => s.events key m) = new at heffect ⊢
  cases heffect with
  | rests | joins | updates => exact hheld _ rfl fun _ _ => rfl
  | forgets which hwhich =>
      refine hheld _ (funext fun key => if_neg fun hkey => ?_) fun _ _ => rfl
      rcases hmove with rfl | ⟨answer, rfl⟩ <;> rcases (hwhich key).mp hkey with h | h <;> cases h
  | goesOn j call' hmove' hget' heffect =>
      obtain rfl : j = i := by
        rcases hmove with rfl | ⟨_, rfl⟩ <;> rcases hmove' with h | ⟨_, h⟩ <;> cases h <;> rfl
      obtain rfl := Option.some.inj (hget'.symm.trans hget)
      have howned : ∀ t', call'.read.point.owned? = some t' → t' = t := fun t' howned =>
        Option.some.inj ((hstands.of_owned howned).1.symm.trans hticket)
      refine hheld _ ?_ fun t' ht' => heffect.fetch_eq fun h => ht' (howned t' h)
      cases heffect with
      | opens hpoint =>
          rw [hpoint] at hstands
          rw [hstands.of_start] at hticket
          cases hticket
      | evicts ticket hpoint =>
          obtain rfl : ticket = t := howned ticket (by rw [hpoint]; rfl)
          rw [SettingsCache.evict, if_neg hlate]
      | _ => rfl

end SettingsSession

/-- What a call draws on: the fetch that it stands by, and where what it has returned comes
from, that fetch or global settings. -/
structure SettingsCall.DrawsOn (call : SettingsCall) (c : SettingsCache) (fetches : Nat → Prop)
    (globals : DocumentSettings → Prop) : Prop where
  ticket : ∀ t, call.ticket = some t → fetches t
  result : ∀ v, call.read.result? = some v →
    (∃ t, call.ticket = some t ∧ c.fetch t = .ready v) ∨ globals v

/-- A call that has not looked for an entry draws on nothing. -/
theorem SettingsCall.drawsOn_of_start {call : SettingsCall} {c : SettingsCache}
    {fetches : Nat → Prop} {globals : DocumentSettings → Prop} (hticket : call.ticket = none)
    (hstart : call.read.point = .start) : call.DrawsOn c fetches globals := by
  constructor
  case ticket =>
    intro t ht
    rw [hticket] at ht
    cases ht
  case result =>
    intro v hv
    rw [SettingsRead.result?, hstart] at hv
    cases hv

namespace SettingsSession

/-- A move lets a call draw on the entry that its key then has and on the global settings
of the moment, besides what it drew on. -/
theorem Sound.drawsOn {s s' : SettingsSession} {trace new : String → List FetchEvent} {m : Move}
    (h : s.Sound trace) (heffect : Effect m s s' new) {i : Nat} {call : SettingsCall}
    (hget : s'.calls[i]? = some call) {fetches : Nat → Prop} {globals : DocumentSettings → Prop}
    (hbefore : ∀ old, s.calls[i]? = some old → old.read.key = call.read.key →
      old.DrawsOn s.cache fetches globals)
    (hentry : ∀ t, s'.cache.entry call.read.key = some t → fetches t)
    (hglobal : globals s.cache.global) : call.DrawsOn s'.cache fetches globals := by
  have hready : ∀ t v, s.cache.fetch t = .ready v → s'.cache.fetch t = .ready v := by
    intro t v hready
    rw [h.fetch_eq heffect (by simp [hready]), hready]
  rcases heffect.call_cases hget with ⟨hnone, hstart⟩ | ⟨old, hold, rfl | ⟨now, hgoesOn⟩⟩
  · exact SettingsCall.drawsOn_of_start hnone hstart
  · obtain ⟨htickets, hresults⟩ := hbefore call hold rfl
    refine ⟨htickets, fun v hv => ?_⟩
    rcases hresults v hv with ⟨t, ht, hbrought⟩ | hv
    · exact .inl ⟨t, ht, hready t v hbrought⟩
    · exact .inr hv
  · obtain ⟨htickets, -⟩ := hbefore old hold hgoesOn.key_eq.symm
    constructor
    case ticket =>
      intro t ht
      rcases hgoesOn.ticket_cases ht with hdrawn | hnow
      · exact htickets t hdrawn
      · rw [← hgoesOn.key_eq] at hnow
        exact hentry t hnow
    case result =>
      intro v hv
      rcases hgoesOn.result_cases hv with rfl | ⟨t, hwaiting, hbrought, hsame⟩
      · exact .inr hglobal
      · have hstands := h.stands i old hold
        rw [hwaiting] at hstands
        exact .inl ⟨t, hsame.trans hstands.of_waiting, hready t v hbrought⟩

section

variable (hasProvider : Bool) (global : DocumentSettings) (before : List Move) {m : Move}
  {key : String} (hforgets : m.Forgets key) (after : List Move)

/-- A cache after its entries for some keys were forgotten. -/
abbrev forgotten (m : Move) : SettingsSession :=
  (start hasProvider global).run (before ++ [m])

theorem sound_forgotten : (forgotten hasProvider global before m).Sound fun key =>
    (start hasProvider global).trace key (before ++ [m]) :=
  sound_run ..

theorem sound_after : ((forgotten hasProvider global before m).run after).Sound fun key =>
    (start hasProvider global).trace key (before ++ [m]) ++
      (forgotten hasProvider global before m).trace key after := by
  have h := sound_run hasProvider global (before ++ [m] ++ after)
  simpa only [run_append, trace_append] using h

/-- What was made after the entry was forgotten was not made before, and its fetch did not
start before. -/
theorem not_before {t : Nat} {key : String}
    (hnew : .made t ∈ (forgotten hasProvider global before m).trace key after) :
    .made t ∉ (start hasProvider global).trace key (before ++ [m]) ∧
      .started t ∉ (start hasProvider global).trace key (before ++ [m]) := by
  have hmade : .made t ∉ (start hasProvider global).trace key (before ++ [m]) := by
    intro hold
    have honce := (sound_after hasProvider global before after (m := m)).enters.once key
    rw [List.filterMap_append, List.nodup_append] at honce
    exact honce.2.2 t (FetchEvent.mem_filterMap_make?.mpr hold) t
      (FetchEvent.mem_filterMap_make?.mpr hnew) rfl
  refine ⟨hmade, fun hstarted => hmade ?_⟩
  exact (sound_forgotten hasProvider global before).fetches.made key t hstarted

include hforgets

/-- The entry that a key has after it was forgotten was made later. -/
theorem made_of_entry {t : Nat}
    (hentry : ((forgotten hasProvider global before m).run after).cache.entry key = some t) :
    .made t ∈ (forgotten hasProvider global before m).trace key after := by
  have hnone : (forgotten hasProvider global before m).cache.entry key = none := by
    rw [forgotten, run_append]
    rcases hforgets with rfl | rfl
    · exact if_pos rfl
    · rfl
  -- there was no entry then, so the one that stands was made since
  rw [← (sound_forgotten hasProvider global before).enters.entry] at hnone
  rw [← (sound_after hasProvider global before after).enters.entry,
    FetchEvent.entryAfter_append, hnone] at hentry
  exact (FetchEvent.made_of_entryAfter hentry).resolve_left (by simp)

/-- A call of the key that has not looked for its entry when it is forgotten draws on the
fetch of a later entry and on the global settings of later moments. -/
theorem fresh_call {i : Nat} {call : SettingsCall}
    (hget : ((forgotten hasProvider global before m).run after).calls[i]? = some call)
    (hkey : call.read.key = key)
    (hfresh : ∀ first, (forgotten hasProvider global before m).calls[i]? = some first →
      first.read.point = .start) :
    call.DrawsOn ((forgotten hasProvider global before m).run after).cache
      (fun t => .made t ∈ (forgotten hasProvider global before m).trace key after)
      fun v => ∃ mid rest, after = mid ++ rest ∧
        v = ((forgotten hasProvider global before m).run mid).cache.global := by
  induction after using List.reverseRecOn generalizing call with
  | nil =>
      have hstart := hfresh call hget
      have hstands := (sound_forgotten hasProvider global before (m := m)).stands i call hget
      rw [hstart] at hstands
      exact SettingsCall.drawsOn_of_start hstands.of_start hstart
  | append_singleton after m' ih =>
      have hentry := @made_of_entry hasProvider global before m key hforgets (after ++ [m'])
      rw [run_append] at hget hentry ⊢
      refine (sound_after hasProvider global before after).drawsOn (effect_move _ m') hget
        (fun old hold hsame => ?_) (fun t ht => hentry (hkey ▸ ht)) ⟨after, [m'], rfl, rfl⟩
      -- what the call drew on before, it may still draw on
      obtain ⟨htickets, hresults⟩ := ih hold (hsame.trans hkey)
      refine ⟨fun t ht => ?_, fun v hv => (hresults v hv).imp_right ?_⟩
      · rw [trace_append]
        exact List.mem_append_left _ (htickets t ht)
      · rintro ⟨mid, rest, rfl, hv⟩
        exact ⟨mid, rest ++ [m'], List.append_assoc .., hv⟩

end

/-- **Nothing stale after an invalidation.** Once the entry of a key is forgotten, a call
that has not looked for it returns what a fetch brings which starts later, or the global
settings of a later moment. The entry that the key then has was made later, and its fetch had
not started before. And when a fetch ends whose entry was made before, with settings or
without, and when its calls go on, no entry changes, and nothing that the cache holds for any
key. -/
theorem nothing_stale_after_invalidation (hasProvider : Bool) (global : DocumentSettings)
    (before : List Move) {m : Move} {key : String} (hforgets : m.Forgets key)
    (after : List Move) :
    let forgotten := (start hasProvider global).run (before ++ [m])
    let old := (start hasProvider global).trace key (before ++ [m])
    let new := forgotten.trace key after
    let s := forgotten.run after
    (∀ (i : Nat) (call : SettingsCall) (v : DocumentSettings), s.calls[i]? = some call →
      call.read.key = key →
      (∀ first, forgotten.calls[i]? = some first → first.read.point = .start) →
      call.read.result? = some v →
      (∃ t, call.ticket = some t ∧ .made t ∉ old ∧ .made t ∈ new ∧ .started t ∉ old ∧
        .started t ∈ new ∧ .ended t (.ok v) ∈ new) ∨
      ∃ mid rest, after = mid ++ rest ∧ v = (forgotten.run mid).cache.global) ∧
    (∀ t, s.cache.entry key = some t → .made t ∉ old ∧ .started t ∉ old ∧ .made t ∈ new) ∧
    ∀ (i : Nat) (call : SettingsCall) (t : Nat), s.calls[i]? = some call →
      call.read.key = key → call.ticket = some t → .made t ∈ old ∨ .started t ∈ old →
      ∀ m', (m' = .step i ∨ ∃ answer, m' = .answer i answer) →
        (s.step m').cache.entry = s.cache.entry ∧
          ∀ k, (s.step m').cache.held? k = s.cache.held? k := by
  intro forgotten old new s
  have hsound := sound_after hasProvider global before after (m := m)
  have hforgotten := sound_forgotten hasProvider global before (m := m)
  refine ⟨?_, ?_, ?_⟩
  · rintro i call v hget rfl hfresh hv
    obtain ⟨htickets, hresults⟩ :=
      fresh_call hasProvider global before hforgets after hget rfl hfresh
    rcases hresults v hv with ⟨t, hticket, hready⟩ | hglobal
    · left
      have hmade := htickets t hticket
      obtain ⟨hnotMade, hnotStarted⟩ := not_before hasProvider global before after hmade
      have hended := hsound.fetches.ended call.read.key t v (List.mem_append_right _ hmade) hready
      have hstarted := hsound.fetches.started call.read.key t _ hended
      -- what has not started before has not ended before either
      refine ⟨t, hticket, hnotMade, hmade, hnotStarted,
        (List.mem_append.mp hstarted).resolve_left hnotStarted,
        (List.mem_append.mp hended).resolve_left fun hended => hnotStarted ?_⟩
      exact hforgotten.fetches.started _ t _ hended
    · exact .inr hglobal
  · intro t hentry
    have hmade := made_of_entry hasProvider global before hforgets after hentry
    obtain ⟨hnotMade, hnotStarted⟩ := not_before hasProvider global before after hmade
    exact ⟨hnotMade, hnotStarted, hmade⟩
  · rintro i call t hget rfl hticket hold m' hmove
    refine hsound.goesOn_of_late hget hticket (fun hentry => ?_) hmove
    have hmade := made_of_entry hasProvider global before hforgets after hentry
    obtain ⟨hnotMade, hnotStarted⟩ := not_before hasProvider global before after hmade
    exact hold.elim hnotMade hnotStarted

/-- A call whose fetch goes on while its key is forgotten. -/
def slowFetch : List Move := [.call "k", .step 0, .step 0]

/-- Another call that then fetches the key anew. -/
def refetch : List Move :=
  [.call "k", .step 1, .step 1, .answer 1 (.ok ⟨7⟩), .step 1, .step 1]

theorem nothing_stale_after_invalidation_overlap :
    (((start true {}).run (slowFetch ++ [.remove "k"])).run refetch).calls =
        [⟨⟨"k", .fetching 0⟩, some 0⟩, ⟨⟨"k", .done ⟨7⟩⟩, some 1⟩] ∧
      .started 1 ∉ (start true {}).trace "k" (slowFetch ++ [.remove "k"]) ∧
      ∀ k, ((((start true {}).run (slowFetch ++ [.remove "k"])).run refetch).step
          (.answer 0 (.ok ⟨3⟩))).cache.held? k =
        (((start true {}).run (slowFetch ++ [.remove "k"])).run refetch).cache.held? k := by
  have hforgets : (Move.remove "k").Forgets "k" := .inl rfl
  obtain ⟨-, hentry, hlate⟩ :=
    nothing_stale_after_invalidation true {} slowFetch hforgets refetch
  have hmade : .made 0 ∈ (start true {}).trace "k" (slowFetch ++ [.remove "k"]) :=
    List.mem_cons_self
  refine ⟨rfl, (hentry 1 rfl).2.1, ?_⟩
  exact (hlate 0 _ 0 rfl rfl rfl (.inl hmade) (.answer 0 (.ok ⟨3⟩)) (.inr ⟨_, rfl⟩)).2

end SettingsSession

end LintRelay
