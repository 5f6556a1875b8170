import LintRelay.Schema.Attributes
import LintRelay.Schema.Record
import LintRelay.Value.Literal

/-!
# Assignments

Assigning to an attribute of a record, or of a record that it holds. The path to
the attribute is followed by names; at its end stands a field of a record, a
private attribute, whose name begins with an underscore and which is never
checked, or an attribute of a plain value, which refuses to be assigned. One
private attribute of a record are its fields themselves.
-/

namespace LintRelay.Schema

open LintRelay.Text

/-- Why an assignment is refused. -/
inductive AssignError where
  /-- The attribute or its new value is not accepted. -/
  | rejected (issues : List Issue)
  /-- What the path leads to has no such attribute. -/
  | noAttribute (owner name : String)
  /-- The attribute is an operation. -/
  | readOnly (owner name : String)
  /-- The attribute is derived from the value. -/
  | notWritable (owner name : String)
  /-- The attribute is worked out whenever it is read. -/
  | noSetter (owner name : String)
  /-- The attribute makes a member of an enumeration what it is. -/
  | memberName (name : String)
  /-- The attribute of an operation tells what it belongs to. -/
  | ownerOnly
  /-- A class of plain values takes no attributes. -/
  | fixedClass (owner name : String)
  /-- What is to be the class is none. -/
  | notClass (kind : String)
  /-- What is to be the fields is no table. -/
  | notFields (kind : String)
  /-- The path leads nowhere, since what it comes by has no such attribute. -/
  | strayed (owner name : String)
  deriving DecidableEq, Repr

def AssignError.kind : AssignError → String
  | rejected _ => "ValidationError"
  | notClass _ | notFields _ | fixedClass .. => "TypeError"
  | _ => "AttributeError"

def AssignError.message : AssignError → String
  | rejected _ => ""
  | noAttribute owner name | strayed owner name =>
    quoted owner ++ " object has no attribute " ++ quoted name
  | readOnly owner name => quoted owner ++ " object attribute " ++ quoted name ++ " is read-only"
  | notWritable owner name =>
    "attribute " ++ quoted name ++ " of " ++ quoted owner ++ " objects is not writable"
  | noSetter owner name =>
    "property " ++ quoted name ++ " of " ++ quoted owner ++ " object has no setter"
  | memberName name => "<enum 'Enum'> cannot set attribute " ++ quoted name
  | ownerOnly => "readonly attribute"
  | fixedClass owner name =>
    "cannot set " ++ quoted name ++ " attribute of immutable type " ++ quoted owner
  | notClass kind => "__class__ must be set to a class, not " ++ quoted kind ++ " object"
  | notFields kind => "__dict__ must be set to a dictionary, not a " ++ quoted kind

/-- What comes of an assignment that is accepted. -/
inductive Assigned (α : Type) where
  /-- The record, with what has been checked. -/
  | checked (a : α)
  /-- The record at a path has other fields, which nobody has checked. -/
  | replaced (path : List String) (fields : List (String × Value))
  /-- A private attribute has been set, of a record or of its class. The fields are as they
  were, but what later assignments do may be something else. -/
  | privately
  deriving Inhabited

/-- The kinds of what stands in records, by the fields that hold it; what stands
in other fields has the kind of its value. -/
def heldKinds : List (String × String) := [
  ("linter", "LinterConfig"), ("suggestions", "SuggestionConfig"),
  ("validation", "ValidationConfig"), ("defaults", "DocumentSettings"), ("finding", "Finding"),
  ("range", "Range"), ("start", "Position"), ("end", "Position"), ("findings", "tuple"),
  ("related", "tuple"), ("severity", "Severity"), ("on_linter_failure", "FailurePolicy")]

def kindHeld (field : String) (v : Value) : String :=
  ((heldKinds.find? (·.1 = field)).map (·.2)).getD v.kindName

def isPrivate (name : String) : Bool :=
  name.toList.head? = some '_'

/-- The kind of an attribute that is no field. -/
def besides? (owner : String) (v : Value) (name : String) : Option String :=
  match v with
  | .table _ => (ownAttributes owner ++ recordAttributes).lookup name
  | _ => attributeKind? owner name

/-- What stands at the end of a path, and its kind. What is no field has a kind
alone. -/
def reach (owner : String) (whole : Value) : List String → Except AssignError (String × Value)
  | [] => .ok (owner, whole)
  | name :: names =>
    match whole.field? name, besides? owner whole name with
    | some held, _ => reach (kindHeld name held) held names
    | none, some kind => reach kind .null names
    | none, none => .error (.strayed owner name)

/-- The kinds of the records that can be changed in place. -/
def changeable : List String :=
  ["AppConfig", "LinterConfig", "SuggestionConfig", "ValidationConfig"]

/-- Assign to an attribute of a plain value; what a path keeps changes nothing that
can be seen. -/
def assignPlain (kind name : String) : Except AssignError Unit :=
  let attributes := attributesOf kind
  if name ∈ ownerAttributes kind then .error .ownerOnly
  else if kind = "builtin_function_or_method" ∧ name = "__module__" then .ok ()
  else if kind ∈ enumerations then
    if name = "value" ∨ name = "name" then .error (.memberName name) else .ok ()
  else if kind = "PosixPath" ∧ name ∈ pathSlots then .ok ()
  else if attributes.derived.any (·.1 = name) then
    .error (if kind = "PosixPath" then .noSetter kind name
      else .notWritable (if kind = "bool" then "int" else kind) name)
  else if name ∈ attributes.operations then .error (.readOnly kind name)
  else .error (.noAttribute kind name)

/-- Assign to an attribute of the class of a value: the classes of records, of the
members of an enumeration and of paths take any. -/
def assignClass (kind : String) (held v : Value) (name : String) : Except AssignError Unit :=
  if held matches .table _ ∨ kind = "PosixPath" ∨ kind ∈ enumerations then
    if name = "__class__" then .error (.notClass v.kindName) else .ok ()
  else .error (.fixedClass kind name)

/-- Assign to an attribute of the record of a kind at a path; `assigned` is the outcome of
assigning to a field. -/
def assignRecord {α : Type} (kind : String) (path : List String) (name : String) (v : Value)
    (assigned : Checked α) : Except AssignError (Assigned α) :=
  if name = "__class__" then .error (.notClass v.kindName)
  else if name = "__dict__" then
    match v with
    | .table fields => .ok (.replaced path fields)
    | _ => .error (.notFields v.kindName)
  else if isPrivate name then .ok .privately
  else if name ∈ recordProperties ∧ kind ∈ changeable then .error (.noSetter kind name)
  else (assigned.mapError .rejected).map .checked

def assignAt {α : Type} (owner : String) (whole : Value) (path : List String) (v : Value)
    (unchanged : α) (assigned : Checked α) : Except AssignError (Assigned α) := do
  let name := path.getLastD ""
  if path.dropLast.getLast? = some "__class__" then
    let (kind, held) ← reach owner whole path.dropLast.dropLast
    return ← (assignClass kind held v name).map fun _ => .privately
  match ← reach owner whole path.dropLast with
  | (kind, .table _) => assignRecord kind path.dropLast name v assigned
  | (kind, _) =>
    if name = "__class__" then throw (.notClass v.kindName)
    else
      (assignPlain kind name).map fun _ => if isPrivate name then .privately else .checked unchanged

/-- Assign to an attribute of a record that cannot be changed in place. -/
def assignFrozen (owner : String) (whole : Value) (path : List String) (v : Value) :
    Except AssignError (Assigned Unit) :=
  assignAt owner whole path v () (.error [⟨[.field (path.getLastD "")], .frozen⟩])

def IsPublic (path : List String) : Prop :=
  ∀ name ∈ path, isPrivate name = false

end LintRelay.Schema
