import LintRelay.Text.Symbol
import LintRelay.Text.Utf8

/-!
# Text of unknown encoding

Bytes that hold a text in one of the Unicode encodings. A byte order mark names
the encoding; without one, the zero bytes among the first four do. A surrogate
without its partner stays as it is.
-/

namespace LintRelay.Text.Encoding

inductive Kind where
  | utf8
  | utf16 (bigEndian : Bool)
  | utf32 (bigEndian : Bool)
  deriving DecidableEq, Repr

/-- The encoding that the first bytes show, and the bytes after the mark. -/
def detect (bytes : List UInt8) : Kind × List UInt8 :=
  match bytes with
  | 0x00 :: 0x00 :: 0xFE :: 0xFF :: rest => (.utf32 true, rest)
  | 0xFF :: 0xFE :: 0x00 :: 0x00 :: rest => (.utf32 false, rest)
  | 0xFE :: 0xFF :: rest => (.utf16 true, rest)
  | 0xFF :: 0xFE :: rest => (.utf16 false, rest)
  | 0xEF :: 0xBB :: 0xBF :: rest => (.utf8, rest)
  | a :: b :: c :: d :: _ =>
    if a = 0 then (if b = 0 then .utf32 true else .utf16 true, bytes)
    else if b = 0 then (if c = 0 ∧ d = 0 then .utf32 false else .utf16 false, bytes)
    else (.utf8, bytes)
  | [a, b] =>
    if a = 0 then (.utf16 true, bytes)
    else if b = 0 then (.utf16 false, bytes)
    else (.utf8, bytes)
  | _ => (.utf8, bytes)

/-- UTF-8 in which surrogates may be encoded like other code points. -/
def decodeUtf8? : List UInt8 → Option (List Symbol)
  | [] => some []
  | 0xED :: b :: c :: rest =>
    if 0xA0 ≤ b ∧ b ≤ 0xBF ∧ 0x80 ≤ c ∧ c ≤ 0xBF then
      let unit := 0xD000 + (b.toNat - 0x80) * 64 + (c.toNat - 0x80)
      (decodeUtf8? rest).map (.half unit :: ·)
    else
      match _first : Utf8.decodeFirst 0xED (b :: c :: rest) with
      | (some ch, rest') => (decodeUtf8? rest').map (.char ch :: ·)
      | (none, _) => none
  | b :: bytes =>
    match _first : Utf8.decodeFirst b bytes with
    | (some ch, rest) => (decodeUtf8? rest).map (.char ch :: ·)
    | (none, _) => none
termination_by bytes => bytes.length
decreasing_by
  · simp only [List.length_cons]
    omega
  · have := Utf8.decodeFirst_length 0xED (b :: c :: rest)
    simp only [_first] at this
    simp only [List.length_cons] at this ⊢
    omega
  · have := Utf8.decodeFirst_length b bytes
    simp only [_first] at this
    simp only [List.length_cons]
    omega

/-- The 16-bit units of a byte sequence of even length. -/
def units16? (bigEndian : Bool) : List UInt8 → Option (List Nat)
  | [] => some []
  | a :: b :: rest =>
    let unit := if bigEndian then a.toNat * 256 + b.toNat else b.toNat * 256 + a.toNat
    (units16? bigEndian rest).map (unit :: ·)
  | [_] => none

def ofUnits16 : List Nat → List Symbol
  | [] => []
  | [u] => [.ofNat u]
  | u :: v :: rest =>
    if Symbol.isHighUnit u ∧ Symbol.isLowUnit v then .ofPair u v :: ofUnits16 rest
    else .ofNat u :: ofUnits16 (v :: rest)

def ofUnits32? (bigEndian : Bool) : List UInt8 → Option (List Symbol)
  | [] => some []
  | a :: b :: c :: d :: rest =>
    let number (a b c d : UInt8) := ((a.toNat * 256 + b.toNat) * 256 + c.toNat) * 256 + d.toNat
    let unit := if bigEndian then number a b c d else number d c b a
    if unit < 0x110000 then (ofUnits32? bigEndian rest).map (.ofNat unit :: ·) else none
  | _ => none

/-- The text that the bytes hold, in the encoding that they show. -/
def decode? (bytes : List UInt8) : Option (List Symbol) :=
  match detect bytes with
  | (.utf8, rest) => decodeUtf8? rest
  | (.utf16 bigEndian, rest) => (units16? bigEndian rest).map ofUnits16
  | (.utf32 bigEndian, rest) => ofUnits32? bigEndian rest

end LintRelay.Text.Encoding
