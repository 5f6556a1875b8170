import LintRelay.Schema.Issue

/-!
# Records

A record is described by its fields, each of which can be set from a value. The
same description reads a whole record, starting from its defaults, and assigns
to one field of a record that is there.
-/

namespace LintRelay.Schema

open LintRelay

/-- A field of records of type `α`. -/
structure Field (α : Type) where
  name : String
  required : Bool
  set : Value → α → Checked α

def Field.needed {α β : Type} (name : String) (decode : Value → Checked β) (put : β → α → α) :
    Field α :=
  ⟨name, true, fun v a => (put · a) <$> (decode v).within (.field name)⟩

/-- A field that may be left out. -/
def Field.given {α β : Type} (name : String) (decode : Value → Checked β) (put : β → α → α) :
    Field α :=
  ⟨name, false, fun v a => (put · a) <$> (decode v).within (.field name)⟩

/-- The description of records of type `α`. -/
structure Record (α : Type) where
  name : String
  initial : α
  fields : List (Field α)

namespace Record

variable {α : Type}

/-- Set a field from the entries of a table, and collect what is wrong. -/
def fill (entries : List (String × Value)) (state : α × List Issue) (f : Field α) :
    α × List Issue :=
  match Value.lookup entries f.name with
  | none =>
    if f.required then (state.1, state.2 ++ [⟨[.field f.name], .missing⟩]) else state
  | some v =>
    match f.set v state.1 with
    | .ok a => (a, state.2)
    | .error issues => (state.1, state.2 ++ issues)

/-- Read a record; entries that no field asks for are ignored. -/
def decode (r : Record α) : Value → Checked α
  | .table entries =>
    match r.fields.foldl (fill entries) (r.initial, []) with
    | (a, []) => .ok a
    | (_, issues) => .error issues
  | _ => reject (.notRecord r.name)

def assign (r : Record α) (name : String) (v : Value) (a : α) : Checked α :=
  match r.fields.find? (·.name = name) with
  | some f => f.set v a
  | none => .error [⟨[.field name], .noAttribute name⟩]

end Record

end LintRelay.Schema
