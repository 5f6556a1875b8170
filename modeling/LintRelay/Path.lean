import LintRelay.Text.Quoted

/-!
# Paths

File paths as a root and names. Repeated slashes and single dots carry no
meaning; exactly two slashes at the start are a root of their own. Resolving a
path against a directory removes double dots by their names alone.
-/

namespace LintRelay

/-- What a path is relative to. -/
inductive Root where
  | relative
  | slash
  | doubleSlash
  deriving DecidableEq, Repr, Inhabited

/-- A path: its root and its names, none of which is empty, a dot, or holds a
slash. -/
structure Path where
  root : Root := .relative
  names : List String := []
  deriving DecidableEq, Repr, Inhabited

/-- Why a path leads nowhere. -/
inductive PathError where
  /-- It holds the character that ends the texts of the system. -/
  | embeddedNull
  /-- It begins at the directory of a user who has none. -/
  | noHome
  deriving DecidableEq, Repr, Inhabited

def PathError.kind : PathError → String
  | .embeddedNull => "ValueError"
  | .noHome => "RuntimeError"

def PathError.message : PathError → String
  | .embeddedNull => "embedded null byte"
  | .noHome => "Could not determine home directory."

/-- Whether a text holds the character that ends the texts of the system. -/
def hasNull (s : String) : Bool :=
  s.toList.contains (Char.ofNat 0)

namespace Path

def rootOf : List Char → Root
  | '/' :: '/' :: '/' :: _ => .slash
  | '/' :: '/' :: _ => .doubleSlash
  | '/' :: _ => .slash
  | _ => .relative

/-- A name that carries meaning. -/
def isName (cs : List Char) : Bool :=
  cs ≠ [] && cs ≠ ['.']

def ofString (s : String) : Path :=
  ⟨rootOf s.toList, ((s.toList.splitOn '/').filter isName).map String.ofList⟩

def rootText : Root → String
  | .relative => ""
  | .slash => "/"
  | .doubleSlash => "//"

/-- The written form of a path; an empty relative path is a dot. -/
def render (p : Path) : String :=
  if p.root = .relative ∧ p.names = [] then "."
  else rootText p.root ++ "/".intercalate p.names

def tooLongMessage (p : Path) : String :=
  "[Errno 36] File name too long: " ++ Text.quoted p.render

/-- The root, if there is one, and the names. -/
def parts (p : Path) : List String :=
  if p.root = .relative then p.names else rootText p.root :: p.names

def isAbsolute (p : Path) : Bool :=
  p.root ≠ .relative

def follow (names : List String) (name : String) : List String :=
  if name = ".." then names.dropLast else names ++ [name]

/-- The names from the root on, starting from `cwd` if the path is relative, with
the double dots removed. -/
def place (cwd p : Path) : List String :=
  ((if p.isAbsolute then [] else cwd.names) ++ p.names).foldl follow []

/-- The path with its double dots removed, starting from `cwd` if it is
relative. No file system is asked, so symbolic links are not followed. -/
def resolve (cwd p : Path) : Except PathError Path :=
  if p.names.any hasNull then .error .embeddedNull else .ok ⟨.slash, cwd.place p⟩

/-- The path below `p` that `q` denotes there. -/
def join (p q : Path) : Path :=
  if q.isAbsolute then q else ⟨p.root, p.names ++ q.names⟩

/-- The directory of a user, from the text that says where it is. Slashes at its
end are dropped, and nothing is left of the root but them. A tilde leads back to
where the text comes from. -/
def homeOf (text : String) : Except PathError Path :=
  match (text.toList.reverse.dropWhile (· = '/')).reverse with
  | [] => .ok ⟨.slash, []⟩
  | '~' :: _ => .error .noHome
  | cs => .ok (ofString (String.ofList cs))

/-- The path with its first name, if that begins with a tilde, replaced by the
directory of a user. -/
def expandHome (home : String → Option String) (p : Path) : Except PathError Path :=
  match p.root, p.names.map String.toList with
  | .relative, ('~' :: user) :: _ =>
    let user := String.ofList user
    if hasNull user then
      .error .embeddedNull
    else
      match home user with
      | none => .error .noHome
      | some text => (homeOf text).map (·.join ⟨.relative, p.names.tail⟩)
  | _, _ => .ok p

end Path

end LintRelay
