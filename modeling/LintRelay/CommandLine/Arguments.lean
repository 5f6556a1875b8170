import LintRelay.Path

/-!
# Arguments

Cutting the words of a command line into options and operands. Options and
operands may come in any order; after two dashes there are operands only. Short
options can be written together, and the value of an option follows it or is
attached to it.
-/

namespace LintRelay.CommandLine

open LintRelay.Text

structure OptionSpec where
  names : List String
  hasValue : Bool := false
  deriving DecidableEq, Repr, Inhabited

structure Given where
  name : String
  value : String := ""
  deriving DecidableEq, Repr, Inhabited

inductive UsageError where
  | noSuchOption (name : String)
  | missingValue (name : String)
  | unexpectedValue (name : String)
  | badValue (name value : String)
  | noCommand
  | noSuchCommand (name : String)
  | missingOperand (name : String)
  | extraOperands (operands : List String)
  | notReadable (file : String)
  deriving DecidableEq, Repr, Inhabited

def UsageError.message : UsageError → String
  | noSuchOption name => "No such option: " ++ name
  | missingValue name => "Option '" ++ name ++ "' requires an argument."
  | unexpectedValue name => "Option '" ++ name ++ "' does not take a value."
  | badValue name value => "Invalid value for '" ++ name ++ "': '" ++ value ++ "'"
  | noCommand => "Missing command."
  | noSuchCommand name => "No such command '" ++ name ++ "'."
  | missingOperand name => "Missing argument '" ++ name ++ "'."
  | extraOperands operands => "Got unexpected extra arguments (" ++ " ".intercalate operands ++ ")"
  | notReadable file => "Invalid value for FILE: " ++ file ++ " is not a readable file"

structure Arguments where
  options : List Given := []
  operands : List String := []
  deriving DecidableEq, Repr, Inhabited

namespace Arguments

def addOptions (a : Arguments) (given : List Given) : Arguments :=
  { a with options := given ++ a.options }

def addOperand (a : Arguments) (operand : String) : Arguments :=
  { a with operands := operand :: a.operands }

def isOn (a : Arguments) (name : String) : Bool :=
  a.options.any (·.name = name)

def value? (a : Arguments) (name : String) : Option String :=
  (a.options.reverse.find? (·.name = name)).map (·.value)

end Arguments

def specOf? (specs : List OptionSpec) (name : String) : Option OptionSpec :=
  specs.find? (·.names.contains name)

def OptionSpec.name (s : OptionSpec) : String :=
  s.names.headD ""

def isOption (word : List Char) : Bool :=
  word.head? = some '-' && 1 < word.length

/-- The options in a word of short ones, and whether the last of them takes the
next word as its value. -/
def shortOptions (specs : List OptionSpec) (next : Option String) :
    List Char → Except UsageError (List Given × Bool)
  | [] => .ok ([], false)
  | c :: cs =>
    let name := String.ofList ['-', c]
    match specOf? specs name with
    | none => .error (.noSuchOption name)
    | some spec =>
      if spec.hasValue then
        if cs = [] then
          match next with
          | some value => .ok ([⟨spec.name, value⟩], true)
          | none => .error (.missingValue name)
        else
          .ok ([⟨spec.name, String.ofList cs⟩], false)
      else
        (shortOptions specs next cs).map fun (given, taken) => (⟨spec.name, ""⟩ :: given, taken)

/-- The option in a word that names it in full, perhaps with its value after an
equals sign. -/
def longOption (spec : OptionSpec) (name : String) (attached next : Option String) :
    Except UsageError (List Given × Bool) :=
  match spec.hasValue, attached with
  | true, some value => .ok ([⟨spec.name, value⟩], false)
  | true, none =>
    match next with
    | some value => .ok ([⟨spec.name, value⟩], true)
    | none => .error (.missingValue name)
  | false, some _ => .error (.unexpectedValue name)
  | false, none => .ok ([⟨spec.name, ""⟩], false)

/-- The text after an equals sign, if there is one. -/
def attachedValue (word : List Char) : Option String :=
  match word.dropWhile (· ≠ '=') with
  | [] => none
  | _ :: value => some (String.ofList value)

def optionsIn (specs : List OptionSpec) (next : Option String) (word : List Char) :
    Except UsageError (List Given × Bool) :=
  let name := String.ofList (word.takeWhile (· ≠ '='))
  match specOf? (specs.filter fun s => s.names.contains name && 2 < name.length) name with
  | some spec => longOption spec name (attachedValue word) next
  | none =>
    match word with
    | '-' :: '-' :: _ => .error (.noSuchOption name)
    | _ => shortOptions specs next word.tail

def arguments (specs : List OptionSpec) : List String → Except UsageError Arguments
  | [] => .ok {}
  | word :: rest =>
    if word = "--" then
      .ok { operands := rest }
    else if isOption word.toList then
      match optionsIn specs rest.head? word.toList with
      | .error e => .error e
      | .ok (given, false) => (arguments specs rest).map (·.addOptions given)
      | .ok (given, true) =>
        match rest with
        | [] => .ok { options := given }
        | _ :: rest => (arguments specs rest).map (·.addOptions given)
    else
      (arguments specs rest).map (·.addOperand word)

/-- The number that an option is given, which must not be negative. How a word is read as
a whole number is the affair of those who cut the command line. -/
def countOf (whole? : String → Option Int) (name value : String) : Except UsageError Nat :=
  match whole? value with
  | some (.ofNat n) => .ok n
  | _ => .error (.badValue name value)

/-- The path that an argument is given, which the system must be able to take. -/
def pathOf (name value : String) : Except UsageError String :=
  if hasNull value then .error (.badValue name value) else .ok value

end LintRelay.CommandLine
