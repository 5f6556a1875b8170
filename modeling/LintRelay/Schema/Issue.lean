import LintRelay.Value

/-!
# Issues

Why a value is not accepted, and where in it. All issues of a value are
collected, in the order of the fields that have them.
-/

namespace LintRelay.Schema

/-- A step into a value: the entry of a table or the item of a list. -/
inductive Step where
  | field (name : String)
  | item (index : Nat)
  deriving DecidableEq, Repr

/-- What is wrong with a value. -/
inductive Problem where
  | missing
  | notInt
  | intText
  | intFraction
  | intSize
  | notFinite
  | notFloat
  | floatText
  | notBool
  | boolText
  | notText
  | notList
  | notTuple
  | notRecord (name : String)
  | notChoice (choices : List String)
  | below (bound : Int)
  | above (bound : Int)
  | refused (reason : String)
  | frozen
  | noAttribute (name : String)
  deriving DecidableEq, Repr

def Problem.code : Problem → String
  | missing => "missing"
  | notInt => "int_type"
  | intText => "int_parsing"
  | intFraction => "int_from_float"
  | intSize => "int_parsing_size"
  | notFinite => "finite_number"
  | notFloat => "float_type"
  | floatText => "float_parsing"
  | notBool => "bool_type"
  | boolText => "bool_parsing"
  | notText => "string_type"
  | notList => "list_type"
  | notTuple => "tuple_type"
  | notRecord _ => "model_type"
  | notChoice _ => "enum"
  | below _ => "greater_than_equal"
  | above _ => "less_than_equal"
  | refused _ => "value_error"
  | frozen => "frozen_instance"
  | noAttribute _ => "no_such_attribute"

/-- Choices in quotes: commas between them, a word before the last. -/
def listChoices : List String → String
  | [] => ""
  | [c] => "'" ++ c ++ "'"
  | [c, d] => "'" ++ c ++ "' or '" ++ d ++ "'"
  | c :: rest => "'" ++ c ++ "', " ++ listChoices rest

def Problem.message : Problem → String
  | missing => "Field required"
  | notInt => "Input should be a valid integer"
  | intText => "Input should be a valid integer, unable to parse string as an integer"
  | intFraction => "Input should be a valid integer, got a number with a fractional part"
  | intSize => "Unable to parse input string as an integer, exceeded maximum size"
  | notFinite => "Input should be a finite number"
  | notFloat => "Input should be a valid number"
  | floatText => "Input should be a valid number, unable to parse string as a number"
  | notBool => "Input should be a valid boolean"
  | boolText => "Input should be a valid boolean, unable to interpret input"
  | notText => "Input should be a valid string"
  | notList => "Input should be a valid list"
  | notTuple => "Input should be a valid tuple"
  | notRecord name => "Input should be a valid dictionary or instance of " ++ name
  | notChoice choices => "Input should be " ++ listChoices choices
  | below bound => s!"Input should be greater than or equal to {bound}"
  | above bound => s!"Input should be less than or equal to {bound}"
  | refused reason => "Value error, " ++ reason
  | frozen => "Instance is frozen"
  | noAttribute name => "Object has no attribute '" ++ name ++ "'"

structure Issue where
  path : List Step
  problem : Problem
  deriving DecidableEq, Repr

def Step.toValue : Step → Value
  | field name => .text name
  | item index => .nat index

def Issue.toValue (i : Issue) : Value :=
  .table [
    ("loc", .list (i.path.map Step.toValue)),
    ("type", .text i.problem.code),
    ("msg", .text i.problem.message)]

/-- A value that was accepted, or everything that is wrong with it. -/
abbrev Checked (α : Type) := Except (List Issue) α

def reject {α : Type} (p : Problem) : Checked α :=
  .error [⟨[], p⟩]

/-- The outcome of checking a part, seen from the whole. -/
def Checked.within {α : Type} (c : Checked α) (s : Step) : Checked α :=
  c.mapError fun issues => issues.map fun i => { i with path := s :: i.path }

end LintRelay.Schema
