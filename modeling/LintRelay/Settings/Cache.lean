import LintRelay.Config.Basic
import LintRelay.Fault
import LintRelay.Log

/-!
# The settings cache

Settings are fetched for a key and shared by all who read them. Readers take small
steps, so that several of them can be interleaved: a reader that finds no entry for
its key makes one, starts its fetch, and ends it when the provider has answered; one
that finds an entry waits for its fetch. A fetch that fails takes its entry with it,
and its readers get the global settings. A failure is kept with its words, so a reader
breaks off at an unexpected one that cannot be told.
-/

namespace LintRelay

/-- How far a fetch has come. -/
inductive Fetch where
  | pending
  | ready (settings : DocumentSettings)
  | failed
  deriving DecidableEq, Repr, Inhabited

/-- Why there are no settings for a key. -/
inductive SettingsError where
  | unavailable (fault : Fault)
  | unexpected (fault : Fault)
  deriving Inhabited

namespace SettingsError

/-- A fault of a provider; one that says that there are no settings is told. -/
def ofFault (f : Fault) : SettingsError :=
  if f.family = .settings then unavailable f else unexpected f

/-- What comes up where a failure is to be kept, if it cannot be. -/
def raised? : SettingsError → Option Fault
  | unavailable _ => none
  | unexpected fault => fault.raised?

/-- The log records of a fetch that failed; none if there are no words for it. -/
def log (key : String) : SettingsError → List LogRecord
  | unavailable fault =>
    match fault.message with
    | .ok text =>
      [⟨.warning, "settings for " ++ key ++ " unavailable, using global defaults: " ++ text⟩]
    | .error _ => []
  | unexpected _ =>
    [⟨.warning, "settings provider failed for " ++ key ++ ", using global defaults"⟩]

end SettingsError

/-- The cache. Every fetch has a ticket; an entry names the fetch that it waits
for or that it was filled by. -/
structure SettingsCache where
  hasProvider : Bool := false
  global : DocumentSettings := {}
  /-- The ticket of the entry for a key. -/
  entry : String → Option Nat := fun _ => none
  /-- The fetches by their tickets. -/
  fetch : Nat → Fetch := fun _ => .pending
  /-- The number of tickets that were given out. -/
  tickets : Nat := 0

instance : Inhabited SettingsCache := ⟨{}⟩

namespace SettingsCache

def setEntry (c : SettingsCache) (key : String) (ticket : Option Nat) : SettingsCache :=
  { c with entry := fun k => if k = key then ticket else c.entry k }

def setFetch (c : SettingsCache) (ticket : Nat) (f : Fetch) : SettingsCache :=
  { c with fetch := fun t => if t = ticket then f else c.fetch t }

/-- Make an entry with a fetch of its own. -/
def open' (c : SettingsCache) (key : String) : SettingsCache :=
  { c.setEntry key (some c.tickets) with tickets := c.tickets + 1 }

def contains (c : SettingsCache) (key : String) : Bool :=
  (c.entry key).isSome

def remove (c : SettingsCache) (key : String) : SettingsCache :=
  c.setEntry key none

def invalidateAll (c : SettingsCache) : SettingsCache :=
  { c with entry := fun _ => none }

def updateGlobal (c : SettingsCache) (s : DocumentSettings) : SettingsCache :=
  { c with global := s }

/-- Forget the entry for a key, if it still is the one of this fetch. -/
def evict (c : SettingsCache) (key : String) (ticket : Nat) : SettingsCache :=
  if c.entry key = some ticket then c.remove key else c

end SettingsCache

inductive SettingsRead.Point where
  | start
  /-- The reader has made an entry, and its fetch has not started. -/
  | owning (ticket : Nat)
  | fetching (ticket : Nat)
  /-- The provider has answered with settings, and those who wait do not know it yet. -/
  | storing (ticket : Nat) (settings : DocumentSettings)
  | evicting (ticket : Nat)
  | failing (ticket : Nat)
  | waiting (ticket : Nat)
  | fallback
  | done (settings : DocumentSettings)
  /-- The reader has broken off, and leaves its fetch as it is. -/
  | broken (ticket : Nat) (fault : Fault)
  deriving Inhabited

structure SettingsRead where
  key : String
  point : SettingsRead.Point := .start
  deriving Inhabited

namespace SettingsRead

def result? (r : SettingsRead) : Option DocumentSettings :=
  match r.point with
  | .done s => some s
  | _ => none

/-- The next step of a reader, unless it waits for a fetch or has ended. -/
def step (c : SettingsCache) (r : SettingsRead) : SettingsCache × SettingsRead :=
  match r.point with
  | .start =>
    if c.hasProvider then
      match c.entry r.key with
      | some ticket => (c, { r with point := .waiting ticket })
      | none => (c.open' r.key, { r with point := .owning c.tickets })
    else
      (c, { r with point := .done c.global })
  | .owning ticket => (c, { r with point := .fetching ticket })
  | .storing ticket s => (c.setFetch ticket (.ready s), { r with point := .waiting ticket })
  | .evicting ticket => (c.evict r.key ticket, { r with point := .failing ticket })
  | .failing ticket => (c.setFetch ticket .failed, { r with point := .waiting ticket })
  | .waiting ticket =>
    match c.fetch ticket with
    | .pending => (c, r)
    | .ready s => (c, { r with point := .done s })
    | .failed => (c, { r with point := .fallback })
  | .fallback => (c, { r with point := .done c.global })
  | .fetching _ | .done _ | .broken _ _ => (c, r)

def fetched (r : SettingsRead) (answer : Except SettingsError DocumentSettings) :
    SettingsRead × List LogRecord :=
  match r.point, answer with
  | .fetching ticket, .ok s => ({ r with point := .storing ticket s }, [])
  | .fetching ticket, .error e =>
    match e.raised? with
    | none => ({ r with point := .evicting ticket }, e.log r.key)
    | some fault => ({ r with point := .broken ticket fault }, e.log r.key)
  | _, _ => (r, [])

end SettingsRead

end LintRelay
