import LintRelay.Text.WordChar
import LintRelay.Value

/-!
# Layers of settings

One table laid over another: tables in both are joined entry by entry, anything else in
the upper layer hides what is below.

A text in a layer may refer to a variable by a dollar and its name, with or without braces
around the name. A reference is replaced by the value of the variable; one to a
variable that is not set stays as it is. What was put in is not looked at again.
A walk through a value goes down two levels for every list or table, and further where
it looks a variable up; how far it can go depends on the room that its caller leaves.
-/

namespace LintRelay

open LintRelay.Text

/-! ## One table over another -/

namespace Value

mutual

def layOver (base : Value) : Value → Value
  | .table upper =>
    match base with
    | .table entries => .table (overlay entries upper)
    | _ => .table upper
  | v => v

/-- Lay the entries of a table over those of another. -/
def overlay (base : List (String × Value)) : List (String × Value) → List (String × Value)
  | [] => base
  | (k, v) :: rest =>
    match lookup base k with
    | none => overlay (insert k v base) rest
    | some below => overlay (insert k (layOver below v) base) rest

end

end Value

/-! ## References to the environment -/

/-- The variables that are set, with their values. -/
abbrev Environment := String → Option String

namespace Environment

/-- The variables in a block of settings: names and values with an equals sign
between them, and a null character after each. -/
def ofBlock (cs : List Char) : Environment := fun name =>
  let settings := cs.splitOn (Char.ofNat 0)
  (settings.find? fun s => s.takeWhile (· ≠ '=') = name.toList).map fun s =>
    String.ofList ((s.dropWhile (· ≠ '=')).drop 1)

/-- The reference after a dollar: the name and the rest of the text. -/
def reference? (cs : List Char) : Option (List Char × List Char) :=
  match cs.takeWhile isWordChar with
  | [] =>
    match cs with
    | '{' :: inner =>
      match inner.takeWhile (· ≠ '}'), inner.dropWhile (· ≠ '}') with
      | c :: name, '}' :: rest => some (c :: name, rest)
      | _, _ => none
    | _ => none
  | c :: name => some (c :: name, cs.dropWhile isWordChar)

theorem length_lt_of_dropWhile {p : Char → Bool} {cs rest : List Char} {c : Char}
    (h : cs.dropWhile p = c :: rest) : rest.length < cs.length := by
  have := (List.dropWhile_sublist p (l := cs)).length_le
  rw [h] at this
  exact this

theorem reference?_length {cs name rest : List Char} (h : reference? cs = some (name, rest)) :
    rest.length ≤ cs.length := by
  unfold reference? at h
  split at h
  · split at h
    · split at h
      · rename_i hrest
        have := length_lt_of_dropWhile hrest
        injection h with h
        injection h with _ h
        subst h
        simp only [List.length_cons]
        omega
      · cases h
    · cases h
  · injection h with h
    injection h with _ h
    subst h
    exact (List.dropWhile_sublist _).length_le

def expandText (env : Environment) : List Char → List Char
  | [] => []
  | c :: cs =>
    if c = '$' then
      match _found : reference? cs with
      | none => c :: expandText env cs
      | some (name, rest) =>
        match env (String.ofList name) with
        | some value => value.toList ++ expandText env rest
        | none => c :: cs.take (cs.length - rest.length) ++ expandText env rest
    else
      c :: expandText env cs
termination_by cs => cs.length
decreasing_by
  · simp
  · have := reference?_length _found
    simp only [List.length_cons]
    omega
  · have := reference?_length _found
    simp only [List.length_cons]
    omega
  · simp

def refers : List Char → Bool
  | [] => false
  | c :: cs => (c = '$' && (reference? cs).isSome) || refers cs

section

variable (lookup : Nat)

mutual

/-- The levels that a walk through a value goes down, if it takes `lookup` of them to look
a variable up. What is neither a text nor a list or table takes two to find that out. -/
def levels : Value → Nat
  | .text s => if refers s.toList then 1 + lookup else 0
  | .list items => 2 + levelsOfItems items
  | .table entries => 2 + levelsOfEntries entries
  | _ => 2

def levelsOfItems : List Value → Nat
  | [] => 0
  | v :: rest => max (levels v) (levelsOfItems rest)

def levelsOfEntries : List (String × Value) → Nat
  | [] => 0
  | (_, v) :: rest => max (levels v) (levelsOfEntries rest)

end

end

mutual

/-- Replace the references in all texts of a value; the keys of tables stay. -/
def expand (env : Environment) : Value → Value
  | .text s => .text (String.ofList (expandText env s.toList))
  | .list items => .list (expandItems env items)
  | .table entries => .table (expandEntries env entries)
  | v => v

def expandItems (env : Environment) : List Value → List Value
  | [] => []
  | v :: rest => expand env v :: expandItems env rest

def expandEntries (env : Environment) : List (String × Value) → List (String × Value)
  | [] => []
  | (k, v) :: rest => (k, expand env v) :: expandEntries env rest

end

end Environment

end LintRelay
