import LintRelay.Text.Quoted
import LintRelay.Value

/-!
# Literals

Values as messages show them: texts in quotes, the names of the three constants
with capital letters, lists in brackets and tables in braces.
-/

namespace LintRelay.Value

open LintRelay.Text

mutual

def literal : Value → String
  | .null => "None"
  | .bool b => if b then "True" else "False"
  | .int n => toString n
  | .float x => Decimal.renderFloat x
  | .text s => quoted s
  | .moment s => s
  | .list items => bracketed (itemLiterals items)
  | .table entries => "\x7b" ++ ", ".intercalate (entryLiterals entries) ++ "\x7d"

def itemLiterals : List Value → List String
  | [] => []
  | v :: rest => literal v :: itemLiterals rest

def entryLiterals : List (String × Value) → List String
  | [] => []
  | (k, v) :: rest => (quoted k ++ ": " ++ literal v) :: entryLiterals rest

end

/-- A value in running text: a text as it is, any other value as a literal. -/
def display : Value → String
  | .text s => s
  | v => v.literal

/-- The name of the kind of a value, as a message shows it. -/
def kindName : Value → String
  | .null => "NoneType"
  | .bool _ => "bool"
  | .int _ => "int"
  | .float _ => "float"
  | .text _ => "str"
  | .moment _ => "datetime"
  | .list _ => "list"
  | .table _ => "dict"

end LintRelay.Value
