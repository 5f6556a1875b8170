import LintRelay.Settings.Cache

/-!
# Readers side by side

A settings cache in use. Threads call for settings, of any keys and at any moment, while
the host forgets entries and replaces the global settings. What a call does between two
of its steps is its own affair, so a run is any list of moves.

Beyond what the cache knows, a call remembers the entry that it found or made, and the
events of a key tell when entries are made for it and dropped, and when their fetches
start and end.
-/

namespace LintRelay

/-- The fetch that a reader deals with where it stands. -/
def SettingsRead.Point.ticket? : SettingsRead.Point → Option Nat
  | owning ticket | fetching ticket | storing ticket _ | evicting ticket | failing ticket
  | waiting ticket | broken ticket _ => some ticket
  | start | fallback | done _ => none

def SettingsCache.held? (c : SettingsCache) (key : String) : Option Fetch :=
  (c.entry key).map c.fetch

structure SettingsCall where
  read : SettingsRead
  /-- The ticket of the entry that the call found or made. -/
  ticket : Option Nat := none
  deriving Inhabited

/-- The call when its reader has gone on. The first step finds or makes an entry. -/
def SettingsCall.goesOn (call : SettingsCall) (read : SettingsRead) : SettingsCall :=
  { read
    ticket :=
      match call.read.point with
      | .start => read.point.ticket?.or call.ticket
      | _ => call.ticket }

structure SettingsSession where
  cache : SettingsCache
  /-- The calls, in the order in which they began. -/
  calls : List SettingsCall := []

instance : Inhabited SettingsSession := ⟨⟨{}, []⟩⟩

/-- What can happen to a cache in use. -/
inductive SettingsSession.Move where
  /-- A thread begins a call. -/
  | call (key : String)
  /-- A call takes its next step. -/
  | step (call : Nat)
  /-- The provider answers a call that fetches. -/
  | answer (call : Nat) (answer : Except SettingsError DocumentSettings)
  /-- The host forgets the entry of a key. -/
  | remove (key : String)
  /-- The host forgets all entries. -/
  | invalidateAll
  /-- The host replaces the global settings. -/
  | updateGlobal (s : DocumentSettings)

/-- What happens to the fetches and to the entry of a key. -/
inductive FetchEvent where
  | made (ticket : Nat)
  | started (ticket : Nat)
  | ended (ticket : Nat) (answer : Except SettingsError DocumentSettings)
  | dropped

namespace FetchEvent

def isMade : FetchEvent → Bool
  | made _ => true
  | started _ | ended _ _ | dropped => false

end FetchEvent

namespace SettingsRead

/-- What the next step of a reader does to its key: it makes an entry, starts the fetch
of that, and drops the entry of a failed fetch if it still is there. -/
def eventsOfStep (c : SettingsCache) (r : SettingsRead) : List FetchEvent :=
  match r.point, (r.step c).2.point with
  | .start, .owning ticket => [.made ticket]
  | .owning ticket, _ => [.started ticket]
  | .evicting ticket, _ => if c.entry r.key = some ticket then [.dropped] else []
  | _, _ => []

/-- What an answer of the provider does to the key of a reader. -/
def eventsOfAnswer (r : SettingsRead) (answer : Except SettingsError DocumentSettings) :
    List FetchEvent :=
  match r.point with
  | .fetching ticket => [.ended ticket answer]
  | _ => []

end SettingsRead

namespace SettingsSession

/-- A cache before its first use. -/
def start (hasProvider : Bool) (global : DocumentSettings) : SettingsSession :=
  ⟨{ hasProvider, global }, []⟩

def step (s : SettingsSession) : Move → SettingsSession
  | .call key => { s with calls := s.calls ++ [{ read := { key } }] }
  | .step i =>
    match s.calls[i]? with
    | none => s
    | some call =>
      let (cache, read) := call.read.step s.cache
      { cache, calls := s.calls.set i (call.goesOn read) }
  | .answer i answer =>
    match s.calls[i]? with
    | none => s
    | some call =>
      { s with calls := s.calls.set i (call.goesOn (call.read.fetched answer).1) }
  | .remove key => { s with cache := s.cache.remove key }
  | .invalidateAll => { s with cache := s.cache.invalidateAll }
  | .updateGlobal settings => { s with cache := s.cache.updateGlobal settings }

def run (s : SettingsSession) (moves : List Move) : SettingsSession :=
  moves.foldl step s

/-- What a move does to the fetches and to the entry of a key. -/
def events (s : SettingsSession) (key : String) : Move → List FetchEvent
  | .step i =>
    match s.calls[i]? with
    | none => []
    | some call => if call.read.key = key then call.read.eventsOfStep s.cache else []
  | .answer i answer =>
    match s.calls[i]? with
    | none => []
    | some call => if call.read.key = key then call.read.eventsOfAnswer answer else []
  | .remove k => if k = key ∧ s.cache.contains key then [.dropped] else []
  | .invalidateAll => if s.cache.contains key then [.dropped] else []
  | .call _ | .updateGlobal _ => []

/-- What a run does to the fetches and to the entry of a key, the latest event last. -/
def trace (s : SettingsSession) (key : String) : List Move → List FetchEvent
  | [] => []
  | m :: moves => s.events key m ++ (s.step m).trace key moves

@[simp] theorem run_nil (s : SettingsSession) : s.run [] = s := rfl

@[simp] theorem run_cons (s : SettingsSession) (m : Move) (moves : List Move) :
    s.run (m :: moves) = (s.step m).run moves := rfl

theorem run_append (s : SettingsSession) (moves moves' : List Move) :
    s.run (moves ++ moves') = (s.run moves).run moves' := by
  rw [run, List.foldl_append]
  rfl

theorem trace_append (s : SettingsSession) (key : String) (moves moves' : List Move) :
    s.trace key (moves ++ moves') = s.trace key moves ++ (s.run moves).trace key moves' := by
  induction moves generalizing s with
  | nil => rfl
  | cons m moves ih => rw [List.cons_append, trace, trace, ih, run_cons, List.append_assoc]

end SettingsSession

end LintRelay
