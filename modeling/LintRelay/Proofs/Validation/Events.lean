import Mathlib.Data.List.Induction
import LintRelay.Proofs.Validation.Scheduling

/-!
# Events of the editor

What the orchestrator keeps of an editor is a fold over its events: the open documents
are those that the last event of theirs did not close, each as that event has it, in the
order in which they were opened. An event first changes the documents and the settings
and then schedules the passes that it asks for, one for each snapshot.
-/

namespace LintRelay

namespace EditorEvent

/-- What an event tells of a document: a snapshot of it, or that it was closed. -/
def tells? (uri : String) : EditorEvent → Option (Option Document)
  | .opened d | .changed d | .saved d => if d.uri = uri then some (some d) else none
  | .closed u => if u = uri then some none else none
  | .configurationChanged _ => none

/-- The snapshots that an event asks passes for, when these documents are open after it. -/
def asks (validateOnChange : Bool) (documents : List Document) : EditorEvent → List Document
  | .opened d | .saved d => [d]
  | .changed d => if validateOnChange then [d] else []
  | .closed _ => []
  | .configurationChanged _ => documents

end EditorEvent

/-- What the last event of a document tells, if it gives a snapshot. -/
def lastSnapshot (history : List EditorEvent) (uri : String) : Option Document :=
  (history.filterMap (·.tells? uri)).getLast?.join

/-- A document is open since the event at a place: the event gives a snapshot of it where
it was not open, and no later one closes it. -/
structure OpenSince (history : List EditorEvent) (uri : String) (i : Nat) : Prop where
  opens : ∃ e, history[i]? = some e ∧ ∃ d, e.tells? uri = some (some d)
  before : lastSnapshot (history.take i) uri = none
  after : ∀ j e, i < j → history[j]? = some e → e.tells? uri ≠ some none

/-! ## What a history tells -/

section

variable {history : List EditorEvent} {e : EditorEvent} {uri : String} {i : Nat}

theorem lastSnapshot_concat (history : List EditorEvent) (e : EditorEvent) (uri : String) :
    lastSnapshot (history ++ [e]) uri = (e.tells? uri).getD (lastSnapshot history uri) := by
  rw [lastSnapshot, lastSnapshot, List.filterMap_append]
  cases h : e.tells? uri <;> simp [h]

theorem OpenSince.lt_length (h : OpenSince history uri i) : i < history.length := by
  obtain ⟨e, hget, -⟩ := h.opens
  exact (List.getElem?_eq_some_iff.mp hget).1

/-- A document is open since an event that came before the last one, or the last one
opened it. -/
theorem OpenSince.concat_cases (h : OpenSince (history ++ [e]) uri i) :
    OpenSince history uri i ∨ (i = history.length ∧ lastSnapshot history uri = none) := by
  have hle := h.lt_length
  rw [List.length_append, List.length_singleton] at hle
  obtain ⟨opens, before, after⟩ := h
  rcases Nat.lt_or_eq_of_le (Nat.le_of_lt_succ hle) with hi | rfl
  · rw [List.getElem?_append_left hi] at opens
    rw [List.take_append_of_le_length (Nat.le_of_lt hi)] at before
    refine .inl ⟨opens, before, fun j e' hj hget => after j e' hj ?_⟩
    rwa [List.getElem?_append_left (List.getElem?_eq_some_iff.mp hget).1]
  · rw [List.take_left] at before
    exact .inr ⟨rfl, before⟩

theorem OpenSince.concat (h : OpenSince history uri i) (hstays : e.tells? uri ≠ some none) :
    OpenSince (history ++ [e]) uri i := by
  have hi := h.lt_length
  obtain ⟨opens, before, after⟩ := h
  refine ⟨?_, ?_, fun j e' hj hget => ?_⟩
  · rwa [List.getElem?_append_left hi]
  · rwa [List.take_append_of_le_length (Nat.le_of_lt hi)]
  · rcases getElem?_concat_cases hget with hget | rfl
    · exact after j e' hj hget
    · exact hstays

/-- A snapshot of a document that is not open opens it. -/
theorem openSince_length (hclosed : lastSnapshot history uri = none) {d : Document}
    (hopens : e.tells? uri = some (some d)) :
    OpenSince (history ++ [e]) uri history.length := by
  refine ⟨⟨e, List.getElem?_concat_length, d, hopens⟩, ?_, fun j e' hj hget => ?_⟩
  · rwa [List.take_left]
  · have hend : (history ++ [e]).length ≤ j := by
      rw [List.length_append]
      exact hj
    rw [List.getElem?_eq_none hend] at hget
    cases hget

theorem OpenSince.isSome_lastSnapshot (h : OpenSince history uri i) :
    (lastSnapshot history uri).isSome := by
  induction history using List.reverseRecOn with
  | nil => exact absurd h.lt_length (Nat.not_lt_zero i)
  | append_singleton history e ih =>
      rw [lastSnapshot_concat]
      rcases h.concat_cases with hold | ⟨rfl, -⟩
      · -- the last event comes after the one that opened the document, so it does not close it
        have hstays := h.after _ e hold.lt_length List.getElem?_concat_length
        rcases htells : e.tells? uri with - | - | d
        · exact ih hold
        · exact absurd htells hstays
        · rfl
      · obtain ⟨e', hget, d, hopens⟩ := h.opens
        rw [List.getElem?_concat_length] at hget
        obtain rfl := Option.some.inj hget
        rw [hopens]
        rfl

theorem exists_openSince (h : (lastSnapshot history uri).isSome) :
    ∃ i, OpenSince history uri i := by
  induction history using List.reverseRecOn with
  | nil => cases h
  | append_singleton history e ih =>
      rw [lastSnapshot_concat] at h
      -- the last event tells nothing, closes the document or gives a snapshot
      rcases htells : e.tells? uri with - | - | d
      · rw [htells] at h
        obtain ⟨i, hi⟩ := ih h
        exact ⟨i, hi.concat (by simp [htells])⟩
      · rw [htells] at h
        cases h
      · cases hold : lastSnapshot history uri with
        | none => exact ⟨_, openSince_length hold htells⟩
        | some d' =>
            obtain ⟨i, hi⟩ := ih (Option.isSome_of_eq_some hold)
            exact ⟨i, hi.concat (by simp [htells])⟩

theorem uri_of_tells {d : Document} (h : e.tells? uri = some (some d)) : d.uri = uri := by
  cases e with
  | opened d' | changed d' | saved d' =>
      rw [EditorEvent.tells?] at h
      split at h
      next huri =>
        obtain rfl := Option.some.inj (Option.some.inj h)
        exact huri
      next => cases h
  | closed u =>
      rw [EditorEvent.tells?] at h
      split at h <;> cases h
  | configurationChanged settings => cases h

theorem uri_of_lastSnapshot {d : Document} (h : lastSnapshot history uri = some d) :
    d.uri = uri := by
  have hlast := List.mem_of_getLast? (Option.join_eq_some_iff.mp h)
  obtain ⟨e, -, htells⟩ := List.mem_filterMap.mp hlast
  exact uri_of_tells htells

end

/-! ## The documents that are open -/

namespace DocumentStore

/-- What an event makes of the open documents. -/
def follow (s : DocumentStore) : EditorEvent → DocumentStore
  | .opened d | .changed d | .saved d => s.put d
  | .closed uri => s.close uri
  | .configurationChanged _ => s

/-- A newer snapshot of a document has the place of the older one. -/
theorem uris_place_of_mem {d : Document} {ds : List Document} (h : d.uri ∈ ds.map (·.uri)) :
    (place d ds).map (·.uri) = ds.map (·.uri) := by
  induction ds with
  | nil => cases h
  | cons e ds ih =>
      rw [place]
      by_cases huri : e.uri = d.uri
      · rw [if_pos huri, List.map_cons, List.map_cons, huri]
      · rw [if_neg huri, List.map_cons, List.map_cons,
          ih ((List.mem_cons.mp h).resolve_left (Ne.symm huri))]

/-- A document that was not open comes last. -/
theorem place_of_not_mem {d : Document} {ds : List Document} (h : d.uri ∉ ds.map (·.uri)) :
    place d ds = ds ++ [d] := by
  induction ds with
  | nil => rfl
  | cons e ds ih =>
      obtain ⟨huri, hrest⟩ := not_or.mp (List.mem_cons.not.mp h)
      rw [place, if_neg (Ne.symm huri), ih hrest, List.cons_append]

theorem mem_place {d e : Document} {ds : List Document} (hnodup : (ds.map (·.uri)).Nodup) :
    e ∈ place d ds ↔ e = d ∨ (e ∈ ds ∧ e.uri ≠ d.uri) := by
  induction ds with
  | nil => simp [place]
  | cons f ds ih =>
      obtain ⟨hfresh, hnodup⟩ := List.nodup_cons.mp hnodup
      rw [place]
      by_cases huri : f.uri = d.uri
      · -- no other snapshot of the rest has this URI
        have hrest : e ∈ ds → e.uri ≠ d.uri := fun he heq =>
          hfresh (List.mem_map.mpr ⟨e, he, heq.trans huri.symm⟩)
        rw [if_pos huri, List.mem_cons, List.mem_cons]
        constructor
        · rintro (rfl | he)
          · exact .inl rfl
          · exact .inr ⟨.inr he, hrest he⟩
        · rintro (rfl | ⟨rfl | he, hne⟩)
          · exact .inl rfl
          · exact absurd huri hne
          · exact .inr he
      · rw [if_neg huri, List.mem_cons, List.mem_cons, ih hnodup]
        constructor
        · rintro (rfl | rfl | ⟨he, hne⟩)
          · exact .inr ⟨.inl rfl, huri⟩
          · exact .inl rfl
          · exact .inr ⟨.inr he, hne⟩
        · rintro (rfl | ⟨rfl | he, hne⟩)
          · exact .inr (.inl rfl)
          · exact .inl rfl
          · exact .inr (.inr ⟨he, hne⟩)

end DocumentStore

/-- One document was opened before another, of those that are still open. -/
def OpensBefore (history : List EditorEvent) (uri uri' : String) : Prop :=
  ∀ i j, OpenSince history uri i → OpenSince history uri' j → i < j

/-- The documents are those that stand after some events. -/
structure Stands (history : List EditorEvent) (documents : List Document) : Prop where
  mem : ∀ d, d ∈ documents ↔ lastSnapshot history d.uri = some d
  nodup : (documents.map (·.uri)).Nodup
  ordered : (documents.map (·.uri)).Pairwise (OpensBefore history)

namespace Stands

variable {history : List EditorEvent} {documents : List Document}

theorem mem_uris (h : Stands history documents) (uri : String) :
    uri ∈ documents.map (·.uri) ↔ (lastSnapshot history uri).isSome := by
  rw [List.mem_map, Option.isSome_iff_exists]
  constructor
  · rintro ⟨d, hd, rfl⟩
    exact ⟨d, (h.mem d).mp hd⟩
  · rintro ⟨d, hd⟩
    obtain rfl := uri_of_lastSnapshot hd
    exact ⟨d, (h.mem d).mpr hd, rfl⟩

/-- Documents that were open are open since the same events. -/
theorem openSince_of_concat (h : Stands history documents) {e : EditorEvent} {uri : String}
    {i : Nat} (hopen : uri ∈ documents.map (·.uri)) (hi : OpenSince (history ++ [e]) uri i) :
    OpenSince history uri i := by
  rcases hi.concat_cases with hi | ⟨-, hclosed⟩
  · exact hi
  · have hsome := (h.mem_uris uri).mp hopen
    rw [hclosed] at hsome
    cases hsome

theorem ordered_concat (h : Stands history documents) (e : EditorEvent) :
    (documents.map (·.uri)).Pairwise (OpensBefore (history ++ [e])) :=
  h.ordered.imp_of_mem fun hu hv hbefore i j hi hj =>
    hbefore i j (h.openSince_of_concat hu hi) (h.openSince_of_concat hv hj)

/-- A document that is opened comes after those that were open. -/
theorem ordered_concat_new (h : Stands history documents) (e : EditorEvent) {uri : String}
    (hnew : uri ∉ documents.map (·.uri)) :
    (documents.map (·.uri) ++ [uri]).Pairwise (OpensBefore (history ++ [e])) := by
  refine List.pairwise_append.mpr ⟨h.ordered_concat e, List.pairwise_singleton .., ?_⟩
  intro u hu v hv i j hi hj
  obtain rfl := List.mem_singleton.mp hv
  -- a document that is new was not open before the last event
  rcases hj.concat_cases with hj | ⟨rfl, -⟩
  · exact absurd ((h.mem_uris _).mpr hj.isSome_lastSnapshot) hnew
  · exact (h.openSince_of_concat hu hi).lt_length

theorem put (h : Stands history documents) {e : EditorEvent} {d : Document}
    (htells : ∀ uri, e.tells? uri = if d.uri = uri then some (some d) else none) :
    Stands (history ++ [e]) (DocumentStore.place d documents) := by
  have hmem : ∀ x, x ∈ DocumentStore.place d documents ↔
      lastSnapshot (history ++ [e]) x.uri = some x := by
    intro x
    rw [DocumentStore.mem_place h.nodup, h.mem, lastSnapshot_concat, htells]
    by_cases huri : d.uri = x.uri
    · rw [if_pos huri]
      simp [huri, eq_comm]
    · rw [if_neg huri]
      have hne : x ≠ d := fun heq => huri (congrArg Document.uri heq.symm)
      simp [hne, Ne.symm huri]
  by_cases hopen : d.uri ∈ documents.map (·.uri)
  · have huris := DocumentStore.uris_place_of_mem hopen
    exact ⟨hmem, huris ▸ h.nodup, huris ▸ h.ordered_concat e⟩
  · have huris : (DocumentStore.place d documents).map (·.uri) =
        documents.map (·.uri) ++ [d.uri] := by
      rw [DocumentStore.place_of_not_mem hopen, List.map_append, List.map_singleton]
    refine ⟨hmem, ?_, huris ▸ h.ordered_concat_new e hopen⟩
    rw [huris, List.nodup_append]
    refine ⟨h.nodup, List.pairwise_singleton .., fun u hu v hv huv => hopen ?_⟩
    rwa [← List.mem_singleton.mp hv, ← huv]

theorem close (h : Stands history documents) (uri : String) :
    Stands (history ++ [.closed uri]) (documents.filter (·.uri ≠ uri)) := by
  have hsub : List.Sublist ((documents.filter (·.uri ≠ uri)).map (·.uri))
      (documents.map (·.uri)) := List.filter_sublist.map _
  refine ⟨fun x => ?_, h.nodup.sublist hsub, (h.ordered_concat _).sublist hsub⟩
  rw [List.mem_filter, h.mem, lastSnapshot_concat, EditorEvent.tells?]
  by_cases huri : uri = x.uri
  · simp [huri]
  · simp [huri, Ne.symm huri]

/-- An event that tells of no document leaves the documents as they are. -/
theorem rest (h : Stands history documents) {e : EditorEvent}
    (htells : ∀ uri, e.tells? uri = none) : Stands (history ++ [e]) documents := by
  refine ⟨fun x => ?_, h.nodup, h.ordered_concat e⟩
  rw [lastSnapshot_concat, htells]
  exact h.mem x

/-- **An event makes of the documents that stand those that stand after it.** -/
theorem follow {s : DocumentStore} (h : Stands history s.documents) (e : EditorEvent) :
    Stands (history ++ [e]) (s.follow e).documents := by
  cases e with
  | opened d | changed d | saved d => exact h.put fun _ => rfl
  | closed uri => exact h.close uri
  | configurationChanged settings => exact h.rest fun _ => rfl

end Stands

/-- The open documents are those that stand after all events. -/
theorem stands_foldl (history : List EditorEvent) :
    Stands history (history.foldl DocumentStore.follow {}).documents := by
  induction history using List.reverseRecOn with
  | nil => exact ⟨fun d => by simp [lastSnapshot], List.nodup_nil, .nil⟩
  | append_singleton history e ih =>
      rw [List.foldl_append]
      exact ih.follow e

/-- A document that is opened again comes last; a newer snapshot keeps its place. -/
example :
    [.opened ⟨"a", "", 1⟩, .opened ⟨"b", "", 1⟩, .closed "a", .changed ⟨"a", "", 2⟩,
      .saved ⟨"b", "", 2⟩].foldl DocumentStore.follow {} =
      ⟨[⟨"b", "", 2⟩, ⟨"a", "", 2⟩]⟩ := by
  decide

/-! ## What an event changes and what it schedules -/

namespace SharedDocuments

theorem current_change (s : SharedDocuments) (f : DocumentStore → DocumentStore) :
    (s.change f).current = f s.current := by
  obtain ⟨host, own⟩ := s
  cases own <;> rfl

theorem current_adopt (host : DocumentStore) : (adopt host).current = host := by
  obtain ⟨documents⟩ := host
  cases documents <;> rfl

end SharedDocuments

/-- What an event makes of the settings: an entry goes with its document; a host that
configures documents makes every entry go, and another one may give new global settings. -/
def SettingsCache.follow (c : SettingsCache) (documentConfiguration : Bool) :
    EditorEvent → SettingsCache
  | .closed uri => { c with entry := fun key => if key = uri then none else c.entry key }
  | .configurationChanged settings =>
    if documentConfiguration then { c with entry := fun _ => none }
    else { c with global := settings.getD c.global }
  | _ => c

namespace Orchestrator

/-- What an event changes before passes are scheduled for it. -/
def follow (o : Orchestrator) : EditorEvent → Orchestrator
  | .opened d | .changed d | .saved d => o.changeDocuments (·.put d)
  | .closed uri =>
    ((o.supersede uri).changeDocuments (·.close uri)).changeSettings (·.remove uri)
  | .configurationChanged settings =>
    if o.capabilities.documentConfiguration then o.changeSettings (·.invalidateAll)
    else
      match settings with
      | some s => o.changeSettings (·.updateGlobal s)
      | none => o

variable (o : Orchestrator)

theorem triggerAll_singleton (d : Document) : o.triggerAll [d] = o.trigger d := by
  rw [triggerAll]
  cases h : o.trigger d with
  | mk o' result => cases result <;> rfl

/-- While there are workers, a pass is scheduled over each snapshot. -/
theorem triggerAll_of_open (ds : List Document) (hopen : o.isShutDown = false) :
    o.triggerAll ds =
      ({ o with queue := o.queue ++ ds.map fun d => { document := d } }, .ok ds.length) := by
  induction ds generalizing o with
  | nil => rw [triggerAll, List.map_nil, List.append_nil, List.length_nil]
  | cons d ds ih =>
      have hfirst : o.trigger d = ({ o with queue := o.queue ++ [{ document := d }] }, .ok 1) := by
        rw [trigger, hopen]
        rfl
      have hrest := ih { o with queue := o.queue ++ [{ document := d }] } hopen
      rw [triggerAll, hfirst]
      simp only [hrest, List.append_assoc, List.singleton_append, List.map_cons,
        List.length_cons, Nat.add_comm 1]

theorem triggerAll_frame (ds : List Document) :
    ∃ queue, (o.triggerAll ds).1 = { o with queue } := by
  by_cases hgone : o.isShutDown = true
  · refine ⟨o.queue, ?_⟩
    cases ds with
    | nil => rfl
    | cons d ds => rw [triggerAll, trigger, if_pos hgone]
  · exact ⟨_, congrArg Prod.fst (o.triggerAll_of_open ds (Bool.eq_false_iff.mpr hgone))⟩

/-- **An event changes what is kept and then schedules the passes that it asks for.** -/
theorem handle_eq (e : EditorEvent) :
    o.handle e = (o.follow e).triggerAll
      (e.asks o.policy.validateOnChange (o.follow e).documents.current.documents) := by
  cases e with
  | opened d | saved d => exact (triggerAll_singleton _ d).symm
  | changed d =>
      have hhandle : o.handle (.changed d) =
          if o.policy.validateOnChange then (o.changeDocuments (·.put d)).trigger d
          else (o.changeDocuments (·.put d), .ok 0) := rfl
      rw [hhandle, EditorEvent.asks]
      split
      · exact (triggerAll_singleton _ d).symm
      · rfl
  | closed uri => rfl
  | configurationChanged settings => rfl

/-- What an event changes: the documents, the settings and what makes passes worthless. -/
theorem follow_eq (e : EditorEvent) :
    (o.follow e).documents.current = o.documents.current.follow e ∧
      (o.follow e).shared.settings =
        o.shared.settings.follow o.capabilities.documentConfiguration e ∧
      (o.follow e).queue = o.queue ∧ (o.follow e).isShutDown = o.isShutDown ∧
      (o.follow e).policy = o.policy ∧ (o.follow e).capabilities = o.capabilities := by
  cases e with
  | opened d | changed d | saved d =>
      exact ⟨o.documents.current_change _, rfl, rfl, rfl, rfl, rfl⟩
  | closed uri => exact ⟨o.documents.current_change _, rfl, rfl, rfl, rfl, rfl⟩
  | configurationChanged settings =>
      simp only [follow, SettingsCache.follow]
      split
      · exact ⟨rfl, rfl, rfl, rfl, rfl, rfl⟩
      · cases settings <;> exact ⟨rfl, rfl, rfl, rfl, rfl, rfl⟩

end Orchestrator

/-! ## Runs -/

namespace Session

/-- The event that the orchestrator handles in a move. A step that changes the documents
stands for an event that changes them like this. -/
def Move.event? : Move → Option EditorEvent
  | .handle e => some e
  | .part (.put d) => some (.changed d)
  | .part (.close uri) => some (.closed uri)
  | _ => none

/-- What moves make of an orchestrator, as far as events go: the documents follow them. -/
structure Follows (moves : List Move) (o o' : Orchestrator) : Prop where
  policy : o'.policy = o.policy
  capabilities : o'.capabilities = o.capabilities
  isShutDown : .shutDown ∉ moves → o'.isShutDown = o.isShutDown
  documents : o'.documents.current =
    (moves.filterMap Move.event?).foldl DocumentStore.follow o.documents.current

theorem Follows.refl (o : Orchestrator) : Follows [] o o :=
  ⟨rfl, rfl, fun _ => rfl, rfl⟩

theorem Follows.trans {moves moves' : List Move} {o o' o'' : Orchestrator}
    (h : Follows moves o o') (h' : Follows moves' o' o'') : Follows (moves ++ moves') o o'' := by
  refine ⟨h'.policy.trans h.policy, h'.capabilities.trans h.capabilities, fun hopen => ?_, ?_⟩
  · rw [List.mem_append, not_or] at hopen
    exact (h'.isShutDown hopen.2).trans (h.isShutDown hopen.1)
  · rw [List.filterMap_append, List.foldl_append, ← h.documents]
    exact h'.documents

theorem follows_triggerAll (o : Orchestrator) (ds : List Document) :
    Follows [] o (o.triggerAll ds).1 := by
  obtain ⟨queue, hframe⟩ := o.triggerAll_frame ds
  rw [hframe]
  exact ⟨rfl, rfl, fun _ => rfl, rfl⟩

theorem follows_handle (o : Orchestrator) (e : EditorEvent) :
    Follows [.handle e] o (o.handle e).1 := by
  obtain ⟨hdocuments, -, -, hopen, hpolicy, hcapabilities⟩ := o.follow_eq e
  have hfollow : Follows [.handle e] o (o.follow e) :=
    ⟨hpolicy, hcapabilities, fun _ => hopen, hdocuments⟩
  rw [o.handle_eq]
  exact hfollow.trans (follows_triggerAll ..)

theorem follows_step (s : Session) (m : Move) :
    Follows [m] s.orchestrator (s.step m).orchestrator := by
  have hsame : ∀ {o' : Orchestrator}, m.event? = none → Follows [] s.orchestrator o' →
      Follows [m] s.orchestrator o' := fun hm h =>
    ⟨h.policy, h.capabilities, fun _ => h.isShutDown List.not_mem_nil,
      h.documents.trans (by simp [hm])⟩
  cases m with
  | trigger d =>
      have h := follows_triggerAll s.orchestrator [d]
      rw [s.orchestrator.triggerAll_singleton] at h
      exact hsame rfl h
  | revalidateAll => exact hsame rfl (follows_triggerAll ..)
  | handle e => exact follows_handle ..
  | part h =>
      cases h with
      | put d | close uri =>
          exact ⟨rfl, rfl, fun _ => rfl, s.orchestrator.documents.current_change _⟩
      | forget | forgetAll | setGlobal => exact ⟨rfl, rfl, fun _ => rfl, rfl⟩
  | shutDown => exact ⟨rfl, rfl, fun hopen => absurd List.mem_cons_self hopen, rfl⟩
  | call d | supersede uri => exact ⟨rfl, rfl, fun _ => rfl, rfl⟩
  | take =>
      simp only [step, take]
      split
      next => exact hsame rfl (.refl _)
      next => split <;> exact ⟨rfl, rfl, fun _ => rfl, rfl⟩
  | act i sink a =>
      simp only [step, act]
      split <;> exact ⟨rfl, rfl, fun _ => rfl, rfl⟩

/-- **In a run, the open documents are a fold over the events.** -/
theorem follows_run (s : Session) (moves : List Move) :
    Follows moves s.orchestrator (s.run moves).orchestrator := by
  induction moves generalizing s with
  | nil => exact .refl _
  | cons m moves ih => exact (s.follows_step m).trans (ih (s.step m))

/-- The documents that events ask passes for, one event after another. -/
def asked (validateOnChange : Bool) (documents : DocumentStore) : List EditorEvent → List Document
  | [] => []
  | e :: events =>
    e.asks validateOnChange (documents.follow e).documents ++
      asked validateOnChange (documents.follow e) events

/-- The host lets nothing but events schedule passes, and each is handled in one go. -/
def Move.OnlyEvents (m : Move) : Prop :=
  m ≠ .shutDown ∧ m ≠ .revalidateAll ∧ (∀ d, m ≠ .trigger d) ∧ ∀ h, m ≠ .part h

/-- A move adds to the queue what its event asks for. -/
theorem drop_queue_step {s : Session} {m : Move} (hopen : s.orchestrator.isShutDown = false)
    (hm : m.OnlyEvents) :
    ((s.step m).orchestrator.queue.drop s.orchestrator.queue.length).map Pass.document =
      asked s.orchestrator.policy.validateOnChange s.orchestrator.documents.current
        m.event?.toList := by
  obtain ⟨hopens, hnotAll, hnotOne, hnotPart⟩ := hm
  have hsame : (s.orchestrator.queue.drop s.orchestrator.queue.length).map Pass.document = [] := by
    rw [List.drop_length, List.map_nil]
  cases m with
  | handle e =>
      obtain ⟨hdocuments, -, hqueue, hshutDown, -⟩ := s.orchestrator.follow_eq e
      simp only [step, host]
      rw [s.orchestrator.handle_eq,
        (s.orchestrator.follow e).triggerAll_of_open _ (hshutDown.trans hopen), hdocuments]
      simp [hqueue, Move.event?, asked, Function.comp_def]
  | shutDown => exact absurd rfl hopens
  | revalidateAll => exact absurd rfl hnotAll
  | trigger d => exact absurd rfl (hnotOne d)
  | part h => exact absurd rfl (hnotPart h)
  | call d | supersede uri => exact hsame
  | take =>
      simp only [step, take]
      split
      next => exact hsame
      next p queue hqueue =>
        split
        · simp [hqueue, Move.event?, asked]
        · exact hsame
  | act i sink a =>
      simp only [step, act]
      split <;> exact hsame

/-- **In a run, what is scheduled is what the events ask for.** -/
theorem triggered_eq_asked {s : Session} (hopen : s.orchestrator.isShutDown = false)
    {moves : List Move} (hmoves : ∀ m ∈ moves, m.OnlyEvents) :
    s.triggered moves =
      asked s.orchestrator.policy.validateOnChange s.orchestrator.documents.current
        (moves.filterMap Move.event?) := by
  induction moves generalizing s with
  | nil => rfl
  | cons m moves ih =>
      have hm := hmoves m List.mem_cons_self
      have hstep := s.follows_step m
      have hstays : .shutDown ∉ [m] := fun hmem => hm.1 (List.mem_singleton.mp hmem).symm
      rw [triggered, drop_queue_step hopen hm, ih ((hstep.isShutDown hstays).trans hopen)
        fun m' hm' => hmoves m' (List.mem_cons_of_mem m hm'), hstep.policy, hstep.documents]
      cases hevent : m.event? with
      | none => simp [hevent, asked]
      | some e => simp [hevent, asked]

/-- **Event handling is a fold.** Whatever a session does, the documents are those whose last
event did not close them, each as that event has it, ordered by the events that they are
open since; what a store held that was taken over counts as opened. An event first
changes the documents, the settings and what makes passes worthless, and then schedules a
pass over each snapshot that it asks for: over its own when a document was opened or saved,
and when it was changed if changes are validated; over none when it was closed, which drops
the entry of the settings; and over every open document in order when the configuration
changed, which empties the cache of the settings or replaces the global ones. So in a
session in which only events schedule passes, these are what the events ask for. -/
theorem documents_follow_events (o : Orchestrator) (held : List Document) (workers : Nat)
    (moves : List Move) :
    let s := (start { o with documents := .adopt (held.foldl .put {}) } workers).run moves
    let events := moves.filterMap Move.event?
    let history := held.map .opened ++ events
    let documents := s.orchestrator.documents.current.documents
    (∀ d, d ∈ documents ↔ lastSnapshot history d.uri = some d) ∧
    (documents.map (·.uri)).Nodup ∧
    (∀ d ∈ documents, ∃ i, OpenSince history d.uri i) ∧
    (documents.map (·.uri)).Pairwise (OpensBefore history) ∧
    (∀ e,
      let ready := s.orchestrator.follow e
      let snapshots := e.asks o.policy.validateOnChange ready.documents.current.documents
      s.orchestrator.handle e = ready.triggerAll snapshots ∧
      ready.documents.current = s.orchestrator.documents.current.follow e ∧
      ready.shared.settings =
        s.orchestrator.shared.settings.follow o.capabilities.documentConfiguration e ∧
      ready.queue = s.orchestrator.queue ∧
      (.shutDown ∉ moves → ready.triggerAll snapshots =
        ({ ready with queue := ready.queue ++ snapshots.map fun d => { document := d } },
          .ok snapshots.length))) ∧
    ((∀ m ∈ moves, m.OnlyEvents) →
      s.scheduled = asked o.policy.validateOnChange (held.foldl .put {}) events) := by
  intro s events history documents
  let first := start { o with documents := .adopt (held.foldl .put {}) } workers
  have hrun : Follows moves first.orchestrator s.orchestrator := first.follows_run moves
  have hfirst : first.orchestrator.documents.current = held.foldl .put {} :=
    SharedDocuments.current_adopt _
  have hhistory : s.orchestrator.documents.current = history.foldl DocumentStore.follow {} := by
    rw [hrun.documents, hfirst, List.foldl_append, List.foldl_map]
    rfl
  have hstands : Stands history documents := by
    have h := stands_foldl history
    rwa [← hhistory] at h
  refine ⟨hstands.mem, hstands.nodup, fun d hd => ?_, hstands.ordered, fun e => ?_,
    fun hmoves => ?_⟩
  · exact exists_openSince (Option.isSome_of_eq_some ((hstands.mem d).mp hd))
  · obtain ⟨hdocuments, hsettings, hqueue, hshutDown, -⟩ := s.orchestrator.follow_eq e
    refine ⟨?_, hdocuments, ?_, hqueue, fun hopen => ?_⟩
    · exact hrun.policy ▸ s.orchestrator.handle_eq e
    · rw [hsettings, hrun.capabilities]
      rfl
    · exact Orchestrator.triggerAll_of_open _ _ (hshutDown.trans (hrun.isShutDown hopen))
  · rw [show s.scheduled = first.triggered moves from first.scheduled_run moves,
      triggered_eq_asked rfl hmoves, hfirst]
    rfl

end Session

end LintRelay
