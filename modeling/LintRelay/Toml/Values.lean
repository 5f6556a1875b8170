import LintRelay.Toml.Nest
import LintRelay.Toml.Scalar

/-!
# TOML: values

Strings, scalars, lists and tables on one line. A table on one line is complete:
nothing can be added to it, or to a list or table in it, later on. A reader goes
down two levels for a list and three for a table; how far it can go depends on the
room that its caller leaves.
-/

namespace LintRelay.Toml

open LintRelay

def isGroup : Value → Bool
  | .list _ | .table _ => true
  | _ => false

/-- Put a value at a key of a table on one line. -/
def addInline (closed : List Key) (entries : Entries) (k : Key) (v : Value) :
    Except ReadError Entries :=
  if covered closed k then malformed
  else
    match changeNest false (addEntry (k.getLastD "") v) k.dropLast entries with
    | some entries => .ok entries
    | none => malformed

mutual

/-- A value; `fuel` exceeds twice the length of the text, since a value takes
at most two steps for each of its characters, and `room` is the number of levels
that are left. -/
def value : (fuel room : Nat) → List Char → Except ReadError (Value × List Char)
  | 0, _, _ => malformed
  | fuel + 1, room, '[' :: rest =>
    if room < 2 then .error .tooDeep
    else do
      match ← skipFiller fuel rest with
      | ']' :: after => return (.list [], after)
      | inner =>
        let (items, after) ← items fuel (room - 2) inner
        return (.list items, after)
  | fuel + 1, room, '{' :: rest =>
    if room < 3 then .error .tooDeep
    else
      match skipSpace rest with
      | '}' :: after => .ok (.table [], after)
      | inner => do
        let (entries, after) ← inlineEntries fuel (room - 3) [] [] inner
        return (.table entries, after)
  | _ + 1, _, cs =>
    match cs with
    | '"' :: _ | '\'' :: _ => do
      let (s, after) ← string cs
      return (.text s, after)
    | _ => scalar cs

def items : (fuel room : Nat) → List Char → Except ReadError (List Value × List Char)
  | 0, _, _ => malformed
  | fuel + 1, room, cs => do
    let (v, rest) ← value fuel room cs
    match ← skipFiller fuel rest with
    | ']' :: after => return ([v], after)
    | ',' :: more =>
      match ← skipFiller fuel more with
      | ']' :: after => return ([v], after)
      | inner =>
        let (vs, after) ← items fuel room inner
        return (v :: vs, after)
    | _ => malformed

/-- The entries of a table on one line up to its closing brace, added to those
before; `closed` are the keys under which nothing can be added. -/
def inlineEntries : (fuel room : Nat) → List Key → Entries → List Char →
    Except ReadError (Entries × List Char)
  | 0, _, _, _, _ => malformed
  | fuel + 1, room, closed, before, cs => do
    let (k, v, rest) ← assignment fuel room cs
    let entries ← addInline closed before k v
    match skipSpace rest with
    | '}' :: after => return (entries, after)
    | ',' :: more =>
      inlineEntries fuel room (if isGroup v then k :: closed else closed) entries (skipSpace more)
    | _ => malformed

def assignment : (fuel room : Nat) → List Char → Except ReadError (Key × Value × List Char)
  | 0, _, _ => malformed
  | fuel + 1, room, cs => do
    let (k, rest) ← key fuel cs
    match rest with
    | '=' :: more =>
      let (v, after) ← value fuel room (skipSpace more)
      return (k, v, after)
    | _ => malformed

end

end LintRelay.Toml
