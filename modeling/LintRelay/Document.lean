/-!
# Documents

Snapshots of the documents that an editor has open, and the store that keeps
the latest of each. The store lists documents in the order in which they were
first opened; a newer snapshot takes the place of the older one.
-/

namespace LintRelay

structure Document where
  uri : String
  text : String := ""
  version : Int := 0
  deriving DecidableEq, Repr, Inhabited

/-- The documents that are open, in the order in which they were opened. -/
structure DocumentStore where
  documents : List Document := []
  deriving DecidableEq, Repr, Inhabited

namespace DocumentStore

/-- Put a snapshot in the place of the one with its URI, or at the end. -/
def place (d : Document) : List Document → List Document
  | [] => [d]
  | e :: rest => if e.uri = d.uri then d :: rest else e :: place d rest

/-- Keep a snapshot, in the place of an older one if there is one. -/
def put (s : DocumentStore) (d : Document) : DocumentStore :=
  ⟨place d s.documents⟩

def get? (s : DocumentStore) (uri : String) : Option Document :=
  s.documents.find? (·.uri = uri)

def close (s : DocumentStore) (uri : String) : DocumentStore :=
  ⟨s.documents.filter (·.uri ≠ uri)⟩

def contains (s : DocumentStore) (uri : String) : Bool :=
  (s.get? uri).isSome

def size (s : DocumentStore) : Nat :=
  s.documents.length

end DocumentStore

end LintRelay
