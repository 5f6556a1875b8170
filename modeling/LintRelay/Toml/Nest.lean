import LintRelay.Value

/-!
# TOML: tables inside tables

Reaching a table by a key with several parts. Tables on the way are made where
they are missing, and a list on the way means its last table.
-/

namespace LintRelay.Toml

open LintRelay

abbrev Entries := List (String × Value)

/-- The parts that a key begins with. -/
abbrev Key := List String

/-- Change the table at a key; `none` where something on the way is no table,
or the change is refused. -/
def changeNest (throughLists : Bool) (change : Entries → Option Entries) :
    Key → Entries → Option Entries
  | [], entries => change entries
  | k :: ks, entries =>
    match Value.lookup entries k with
    | none => do
      let inner ← changeNest throughLists change ks []
      return Value.insert k (.table inner) entries
    | some (.table inner) => do
      let inner ← changeNest throughLists change ks inner
      return Value.insert k (.table inner) entries
    | some (.list items) =>
      if throughLists then
        match items.getLast? with
        | some (.table inner) => do
          let inner ← changeNest throughLists change ks inner
          return Value.insert k (.list (items.dropLast ++ [.table inner])) entries
        | _ => none
      else
        none
    | some _ => none

/-- Add an entry; `none` if there is one with its key. -/
def addEntry (k : String) (v : Value) (entries : Entries) : Option Entries :=
  if (Value.lookup entries k).isSome then none else some (Value.insert k v entries)

/-- Add a table to the list at a key, or make the list. -/
def addToList (k : String) (entries : Entries) : Option Entries :=
  match Value.lookup entries k with
  | none => some (Value.insert k (.list [.table []]) entries)
  | some (.list items) => some (Value.insert k (.list (items ++ [.table []])) entries)
  | some _ => none

/-- Whether a key or one that it begins with is among `keys`. -/
def covered (keys : List Key) (k : Key) : Bool :=
  keys.any fun p => p ≠ [] && p.isPrefixOf k

end LintRelay.Toml
