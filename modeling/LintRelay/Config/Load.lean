import LintRelay.Config.Layers
import LintRelay.Config.Schema
import LintRelay.Files
import LintRelay.Text.Utf8
import LintRelay.Toml.Reader

/-!
# Loading a configuration

The settings come in layers: the defaults, a section of the project file, and a
file of their own. The upper layer wins. References to the environment are
replaced when the layers have been put together, by a walk through them. Neither the
readers of the files nor that walk can go down further than there is room for.
-/

namespace LintRelay

open LintRelay.Schema

inductive LoadError where
  | absent (path : Path)
  | directory (path : Path)
  | tooLong (path : Path)
  | notText
  | malformed (path : Path)
  | oversized (numeral : Decimal.Oversized)
  | tooDeep
  | tooNested
  | rejected (issues : List Issue)
  deriving DecidableEq, Repr

namespace LoadError

def kind : LoadError → String
  | absent _ | malformed _ | rejected _ => "ConfigError"
  | directory _ => "IsADirectoryError"
  | tooLong _ => "OSError"
  | notText => "UnicodeDecodeError"
  | oversized _ => "ValueError"
  | tooDeep | tooNested => "RecursionError"

def message : LoadError → String
  | absent path => "Configuration file " ++ path.render ++ " does not exist"
  | directory path => "[Errno 21] Is a directory: " ++ Text.quoted path.render
  | tooLong path => path.tooLongMessage
  | notText => "the file is not UTF-8 text"
  | malformed path => "Invalid TOML in " ++ path.render
  | oversized numeral => numeral.message
  | tooDeep => "maximum recursion depth exceeded"
  | tooNested => "maximum recursion depth exceeded in comparison"
  | rejected _ => "Invalid aiplint configuration"

/-- A failure that says what is wrong with the configuration; the others are
failures to read it. -/
def isConfigError : LoadError → Bool
  | absent _ | malformed _ | rejected _ => true
  | _ => false

end LoadError

/-- The room for loading: how many levels the reader of a file and the walk through the
layers can go down, and how many of those it takes to look a variable up. -/
structure Config.Room where
  toml : Nat
  walk : Nat
  lookup : Nat := 0
  deriving DecidableEq, Repr, Inhabited

/-- The table in a file; empty if there is no file. -/
def Files.readToml (files : Files) (room : Nat) (path : Path) :
    Except LoadError (List (String × Value)) :=
  match files path with
  | none => .ok []
  | some .directory => .error (.directory path)
  | some .tooLong => .error (.tooLong path)
  | some (.file bytes) =>
    match Text.Utf8.decode? bytes with
    | none => .error .notText
    | some cs =>
      match Toml.read room cs with
      | .ok entries => .ok entries
      | .error .malformed => .error (.malformed path)
      | .error (.oversized numeral) => .error (.oversized numeral)
      | .error .tooDeep => .error .tooDeep

def sectionKeys : String × String := ("tool", "aiplint")

/-- The section in a project file; empty if there is none. -/
def Files.readSection (files : Files) (room : Nat) (path : Path) :
    Except LoadError (List (String × Value)) := do
  let project := Value.table (← files.readToml room path)
  let found := project.field? sectionKeys.1 >>= (·.field? sectionKeys.2)
  return (found.map Value.entries).getD []

def projectFile (root : Path) : Path :=
  root.join ⟨.relative, ["pyproject.toml"]⟩

def settingsFile (root : Path) : Path :=
  root.join ⟨.relative, ["aiplint.toml"]⟩

def Config.ofValue (v : Value) : Except LoadError Config :=
  (Config.record.decode v).mapError .rejected

/-- Load the configuration of a directory. A settings file that is asked for
takes the place of the directory's own, and must be there. -/
def Config.load (room : Config.Room) (files : Files) (env : Environment) (root : Path)
    (asked : Option Path) : Except LoadError Config := do
  if let some path := asked then
    match files path with
    | none => throw (.absent path)
    | some .tooLong => throw (.tooLong path)
    | _ => pure ()
  let project ← files.readSection room.toml (projectFile root)
  let settings ← files.readToml room.toml (asked.getD (settingsFile root))
  let layers := Value.table
    (Value.overlay (Value.overlay (Config.toValue {}).entries project) settings)
  if room.walk < Environment.levels room.lookup layers then throw .tooNested
  Config.ofValue (env.expand layers)

end LintRelay
