import LintRelay.Path

/-!
# Files

The files that a run can see: what stands at each path, if anything does. A
listing of files is walked name by name, so a path that goes through a place
where no directory stands leads nowhere, even if it turns back there. A name or a
path that is too long for the system cannot be looked at.
-/

namespace LintRelay

inductive FileEntry where
  | directory
  | file (bytes : List UInt8)
  /-- What stands there cannot be told, since the way to it is too long. -/
  | tooLong
  deriving DecidableEq, Repr, Inhabited

/-- The files, by the paths that lead to them. -/
abbrev Files := Path → Option FileEntry

namespace Files

/-- Whether there is a file, and not a directory, at a path. -/
def isFile (files : Files) (path : Path) : Bool :=
  match files path with
  | some (.file _) => true
  | _ => false

/-- What a listing holds at a place: its last entry there, or a directory if an
entry or the place `cwd` stands below. -/
def entryAt (cwd : List String) (entries : List (List String × FileEntry))
    (place : List String) : Option FileEntry :=
  match (entries.filter (·.1 = place)).getLast? with
  | some (_, entry) => some entry
  | none =>
    if (cwd :: entries.map (·.1)).any place.isPrefixOf then some .directory else none

/-- The most bytes that a name can have. -/
def maxName : Nat := 255

/-- The most bytes that a path can have. -/
def maxPath : Nat := 4095

/-- What stands at the end of names that are followed from a place, where every
place on the way has to be a directory. -/
def walk (look : List String → Option FileEntry) (place : List String) :
    List String → Option FileEntry
  | [] => look place
  | name :: names =>
    if look place = some .directory then
      if maxName < name.utf8ByteSize then some .tooLong
      else walk look (Path.follow place name) names
    else
      none

/-- The files of a listing, for one who stands at the absolute path `cwd`. -/
def listing (cwd : Path) (entries : List (Path × FileEntry)) : Files := fun path =>
  let placed := entries.map fun (path, entry) => (cwd.place path, entry)
  if maxPath < path.render.utf8ByteSize then some .tooLong
  else walk (entryAt cwd.names placed) (if path.isAbsolute then [] else cwd.names) path.names

end Files

end LintRelay
