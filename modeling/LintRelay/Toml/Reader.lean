import LintRelay.Toml.Values

/-!
# Reading TOML

A document is a sequence of statements: assignments, and headers that say where
the assignments after them go. The statements are read first and then put
together; a text that is malformed at some place still has the statements before
that place, and the first fault of either kind decides.
-/

namespace LintRelay.Toml

open LintRelay

/-- A statement. -/
inductive Statement where
  | assign (key : Key) (v : Value)
  | table (key : Key)
  | listItem (key : Key)
  deriving Inhabited

/-- Drop characters from the start, which must be there. -/
def dropMark (mark : List Char) (cs : List Char) : Except ReadError (List Char) :=
  if mark.isPrefixOf cs then .ok (cs.drop mark.length) else malformed

def statement (fuel room : Nat) (cs : List Char) :
    Except ReadError (Option Statement × List Char) :=
  match cs with
  | '[' :: '[' :: rest => do
    let (k, rest) ← key fuel (skipSpace rest)
    return (some (.listItem k), ← dropMark [']', ']'] rest)
  | '[' :: rest => do
    let (k, rest) ← key fuel (skipSpace rest)
    return (some (.table k), ← dropMark [']'] rest)
  | c :: _ =>
    if isBareKeyChar c ∨ c = '"' ∨ c = '\'' then do
      let (k, v, rest) ← assignment fuel room cs
      return (some (.assign k v), rest)
    else if c = '#' ∨ c = '\n' then
      .ok (none, cs)
    else
      malformed
  | [] => .ok (none, [])

/-- The statement on one line and the lines after it; `none` at the end. -/
def line (fuel room : Nat) (cs : List Char) :
    Except ReadError (Option Statement × Option (List Char)) := do
  let (found, rest) ← statement fuel room (skipSpace cs)
  match ← skipComment (skipSpace rest) with
  | [] => return (found, none)
  | '\n' :: more => return (found, some more)
  | _ => malformed

/-- The statements of a text, up to a fault if there is one. -/
def statements (room : Nat) : (fuel : Nat) → List Char → List Statement × Option ReadError
  | 0, _ => ([], some .malformed)
  | fuel + 1, cs =>
    match line (2 * cs.length + 4) room cs with
    | .error e => ([], some e)
    | .ok (found, none) => (found.toList, none)
    | .ok (found, some more) =>
      let (later, fault) := statements room fuel more
      (found.toList ++ later, fault)

/-- A document that is being put together. -/
structure Assembly where
  data : Entries := []
  /-- The header in force. -/
  header : Key := []
  /-- Tables that cannot be declared again. -/
  declared : List Key := []
  /-- Tables that cannot be declared again once a new header has come. -/
  implied : List Key := []
  /-- Keys under which nothing can be added. -/
  closed : List Key := []
  deriving Inhabited

namespace Assembly

/-- The keys of the tables that a dotted key implies below a header. -/
def impliedBy (header k : Key) : List Key :=
  (List.range k.length).tail.map fun n => header ++ k.take n

/-- A header comes: what was implied counts as declared. -/
def settle (a : Assembly) : Assembly :=
  { a with declared := a.declared ++ a.implied, implied := [] }

/-- Assign below the header in force. -/
def assign (a : Assembly) (k : Key) (v : Value) : Option Assembly :=
  let onWay := impliedBy a.header k
  let parent := a.header ++ k.dropLast
  if onWay.any (· ∈ a.declared) || covered a.closed parent then
    none
  else do
    let data ← changeNest true (addEntry (k.getLastD "") v) parent a.data
    return {
      a with
      data
      implied := a.implied ++ onWay
      closed := if isGroup v then (a.header ++ k) :: a.closed else a.closed }

def table (a : Assembly) (k : Key) : Option Assembly :=
  let a := a.settle
  if k ∈ a.declared || covered a.closed k then
    none
  else do
    let data ← changeNest true some k a.data
    return { a with data, header := k, declared := k :: a.declared }

/-- Add a table to the list at a key. What was known of the keys below belongs
to the table before. -/
def listItem (a : Assembly) (k : Key) : Option Assembly :=
  let a := a.settle
  if covered a.closed k then
    none
  else do
    let data ← changeNest true (addToList (k.getLastD "")) k.dropLast a.data
    return {
      a with
      data
      header := k
      declared := k :: a.declared.filter (!k.isPrefixOf ·)
      closed := a.closed.filter (!k.isPrefixOf ·) }

def take (a : Assembly) : Statement → Option Assembly
  | .assign k v => a.assign k v
  | .table k => a.table k
  | .listItem k => a.listItem k

end Assembly

def uniformFeeds : List Char → List Char
  | '\r' :: '\n' :: rest => '\n' :: uniformFeeds rest
  | c :: rest => c :: uniformFeeds rest
  | [] => []

/-- The table that a text holds; `room` is the number of levels that values may go down. -/
def read (room : Nat) (text : List Char) : Except ReadError Entries :=
  let cs := uniformFeeds text
  let (found, fault) := statements room (cs.length + 1) cs
  match found.foldlM Assembly.take {} with
  | none => malformed
  | some a =>
    match fault with
    | some e => .error e
    | none => .ok a.data

end LintRelay.Toml
