import LintRelay.Path
import LintRelay.Uri.Percent
import LintRelay.Uri.Split

/-!
# URIs of files

The path that a document's URI addresses, and the URI of a path. A text without
a scheme is a path already.
-/

namespace LintRelay.Uri

inductive FileError where
  | malformed (e : SplitError)
  | foreign (scheme uri : String)
  deriving DecidableEq, Repr

def FileError.message : FileError → String
  | .malformed e => e.message
  | .foreign scheme uri => "cannot map '" ++ scheme ++ ":' URI to a file path: " ++ uri

/-- The path that a URI addresses. One letter before a colon is a drive, not a
scheme. -/
def toPath (uri : String) : Except FileError Path :=
  match split uri with
  | .error e => .error (.malformed e)
  | .ok parts =>
    if parts.scheme.length ≤ 1 then
      .ok (Path.ofString uri)
    else if parts.scheme ≠ "file" then
      .error (.foreign parts.scheme uri)
    else if parts.host = "" ∨ parts.host = "localhost" then
      .ok (Path.ofString (decode parts.path))
    else
      .ok (Path.ofString ("//" ++ parts.host ++ decode parts.path))

def ofPath (cwd p : Path) : Except PathError String :=
  (Path.resolve cwd p).map fun q => "file://" ++ encode q.render

end LintRelay.Uri
