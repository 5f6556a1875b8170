import LintRelay.Text.Utf8
import LintRelay.Text.Quoted

/-!
# Percent-encoding

Bytes of a text written as a percent sign with two hexadecimal digits. Encoding
keeps letters, digits, four marks and the slash; decoding leaves a percent sign
without two digits as it is and replaces bytes that are not UTF-8.
-/

namespace LintRelay.Uri

open LintRelay.Text

/-- A character that is never encoded. -/
def isUnreserved (c : Char) : Bool :=
  c.isAlphanum || c == '_' || c == '.' || c == '-' || c == '~' || c == '/'

def encodeByte (b : UInt8) : List Char :=
  let c := Char.ofNat b.toNat
  if b.toNat < 0x80 ∧ isUnreserved c then [c]
  else '%' :: (hexDigits 2 b.toNat).map Char.toUpper

def encode (s : String) : String :=
  String.ofList ((Utf8.encode s.toList).flatMap encodeByte)

def hexValue? (c : Char) : Option Nat :=
  if c.isDigit then some (c.toNat - 48)
  else if 'a' ≤ c ∧ c ≤ 'f' then some (c.toNat - 87)
  else if 'A' ≤ c ∧ c ≤ 'F' then some (c.toNat - 55)
  else none

def byte? (high low : Char) : Option UInt8 := do
  let h ← hexValue? high
  let l ← hexValue? low
  return UInt8.ofNat (h * 16 + l)

/-- The bytes of an ASCII text in encoded form. -/
def decodeBytes : List Char → List UInt8
  | [] => []
  | '%' :: a :: b :: rest =>
    match byte? a b with
    | some byte => byte :: decodeBytes rest
    | none => 0x25 :: decodeBytes (a :: b :: rest)
  | c :: rest => UInt8.ofNat c.toNat :: decodeBytes rest

def isAscii (c : Char) : Bool :=
  c.toNat < 0x80

/-- The text that an encoded text stands for. Each run of ASCII characters is
decoded by itself; other characters stand for themselves. -/
def decodeChars (cs : List Char) : List Char :=
  match cs with
  | [] => []
  | c :: rest =>
    if isAscii c then
      Utf8.decodeReplacing (decodeBytes (c :: rest.takeWhile isAscii)) ++
        decodeChars (rest.dropWhile isAscii)
    else
      c :: decodeChars rest
termination_by cs.length
decreasing_by
  · have := (List.dropWhile_sublist isAscii (l := rest)).length_le
    simp only [List.length_cons]
    omega
  · simp

def decode (s : String) : String :=
  String.ofList (decodeChars s.toList)

end LintRelay.Uri
