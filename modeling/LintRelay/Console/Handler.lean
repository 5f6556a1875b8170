import LintRelay.Expression.Plain
import LintRelay.Text.Classes
import LintRelay.Text.WordChar

/-!
# Handlers

What a markup tag calls when it is chosen: a name with arguments in brackets, or
arguments alone. The arguments are plain values.
-/

namespace LintRelay.Console

open LintRelay.Expression LintRelay.Text

/-- Why a handler cannot be read: its arguments are no expression, or they stand
for no plain value. -/
inductive HandlerError where
  | malformed (arguments whole : List Char) (complaint : String)
  | valueless (whole : List Char) (complaint : String)
  deriving DecidableEq, Repr

def HandlerError.message : HandlerError → String
  | malformed arguments whole complaint =>
    "error parsing " ++ quoted (String.ofList arguments) ++ " in " ++
      quoted (String.ofList whole) ++ "; " ++ complaint
  | valueless whole complaint =>
    "error parsing " ++ quoted (String.ofList whole) ++ "; " ++ complaint

def isHandlerNameChar (c : Char) : Bool :=
  isWordChar c || c = '.'

/-- The arguments of a handler: those in brackets after a name, none after a name
alone, or else the whole text. -/
def argumentsOf (cs : List Char) : List Char :=
  match cs.dropWhile isHandlerNameChar with
  | [] => ['(', ')']
  | '(' :: rest =>
    if rest.getLast? = some ')' ∧ !rest.contains '\n' then '(' :: rest else cs
  | _ => cs

/-- What is wrong with a handler, if anything is. -/
def handlerError? (cs : List Char) : Option HandlerError :=
  let arguments := argumentsOf (trim cs)
  if cs = [] then none
  else
    match plainFault? arguments with
    | none => none
    | some (.malformed complaint) => some (.malformed arguments cs complaint)
    | some (.valueless complaint) => some (.valueless cs complaint)

end LintRelay.Console
