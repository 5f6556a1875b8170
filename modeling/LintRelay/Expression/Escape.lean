import LintRelay.Expression.Numeral
import LintRelay.Expression.Token
import LintRelay.Text.CharacterName

/-!
# Escapes in quotations

A backslash in a quotation that is not raw begins an escape. Most escapes that mean
nothing stand for themselves; those with digits or a name that is missing or wrong
are faults, told with the positions that they take. In a text, a character beyond
the basic ones takes as many positions as its longest escape.
-/

namespace LintRelay.Expression

open LintRelay.Text

/-- A text with all characters beyond the basic ones escaped, from which positions
are counted. A backslash before such a character or at the end is escaped too. -/
def spelled : List Char → List Char
  | [] => []
  | ['\\'] => '\\' :: "u005c".toList
  | '\\' :: c :: cs =>
    if c.toNat < 128 then '\\' :: c :: spelled cs
    else "\\u005c\\U0000000a".toList ++ spelled cs
  | c :: cs => (if c.toNat < 128 then [c] else "\\U0000000a".toList) ++ spelled cs

def hexValue (cs : List Char) : Nat :=
  cs.foldl (fun n c => 16 * n + digitValue c) 0

/-- What is wrong with the escape after a backslash in a text, and how many characters
the fault takes. -/
def escapeFault? : List Char → Option (Nat × String)
  | 'N' :: '{' :: cs =>
    let name := cs.takeWhile (· ≠ '}')
    if name.length = cs.length then some (name.length + 3, "malformed \\N character escape")
    else if name = [] then some (3, "malformed \\N character escape")
    else if isCharacterName name then none
    else some (name.length + 4, "unknown Unicode character name")
  | 'N' :: _ => some (2, "malformed \\N character escape")
  | c :: cs =>
    let digits (count : Nat) : Option (Nat × String) :=
      let found := (cs.take count).takeWhile isHexDigit
      if found.length < count then
        let form := String.ofList (c :: List.replicate count 'X')
        some (found.length + 2, "truncated \\" ++ form ++ " escape")
      else if 0x10FFFF < hexValue found then
        some (count + 2, "illegal Unicode character")
      else
        none
    if c = 'x' then digits 2 else if c = 'u' then digits 4 else if c = 'U' then digits 8 else none
  | [] => none

/-- The complaint about the first faulty escape of a text from a position on. -/
def textFaultFrom : (position : Nat) → List Char → Option String
  | _, [] => none
  | _, [_] => none
  | position, '\\' :: c :: cs =>
    match escapeFault? (c :: cs) with
    | some (length, message) =>
      some ("(unicode error) 'unicodeescape' codec can't decode bytes in position " ++
        toString position ++ "-" ++ toString (position + length - 1) ++ ": " ++ message)
    | none => textFaultFrom (position + 2) cs
  | position, _ :: cs => textFaultFrom (position + 1) cs

def textFault? (cs : List Char) : Option String :=
  textFaultFrom 0 (spelled cs)

/-- The complaint about the first faulty escape of bytes from a position on. -/
def bytesFaultFrom : (position : Nat) → List Char → Option String
  | _, [] => none
  | _, [_] => none
  | position, '\\' :: c :: cs =>
    if c = 'x' ∧ ((cs.take 2).takeWhile isHexDigit).length < 2 then
      some ("(value error) invalid \\x escape at position " ++ toString position)
    else
      bytesFaultFrom (position + 2) cs
  | position, _ :: cs => bytesFaultFrom (position + 1) cs

/-- The complaint about a quotation that holds no expressions. -/
def Quotation.fault? (q : Quotation) : Option String :=
  if q.isBytes then
    if q.inside.any (127 < ·.toNat) then some "bytes can only contain ASCII literal characters"
    else if q.isRaw then none
    else bytesFaultFrom 0 q.inside
  else if q.isRaw then none
  else textFault? q.inside

end LintRelay.Expression
