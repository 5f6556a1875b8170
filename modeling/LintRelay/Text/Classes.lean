/-!
# Classes of characters

The characters that count as white space throughout the library, and trimming with respect
to them; the digits from zero to nine in every script that has them; and a form for larger
classes.
-/

namespace LintRelay.Text

/-! ## Blanks -/

/-- White space: the tab group, the four separators `1C` to `1F`, the space,
and every space, line and paragraph separator of Unicode. -/
def isBlank (c : Char) : Bool :=
  let n := c.toNat
  (9 ≤ n && n ≤ 13) || (0x1C ≤ n && n ≤ 0x20) || n == 0x85 || n == 0xA0 || n == 0x1680 ||
    (0x2000 ≤ n && n ≤ 0x200A) || n == 0x2028 || n == 0x2029 || n == 0x202F || n == 0x205F ||
    n == 0x3000

def trimStart (cs : List Char) : List Char :=
  cs.dropWhile isBlank

def trimEnd (cs : List Char) : List Char :=
  (cs.reverse.dropWhile isBlank).reverse

def trim (cs : List Char) : List Char :=
  trimEnd (trimStart cs)

/-- Drop the blanks at both ends of a string. -/
def stripped (s : String) : String :=
  String.ofList (trim s.toList)

def strippedEnd (s : String) : String :=
  String.ofList (trimEnd s.toList)

/-! ## Digits -/

/-- The zero of each script; the other nine digits follow it. -/
def digitZeros : List Nat := [
  0x30, 0x660, 0x6F0, 0x7C0, 0x966, 0x9E6, 0xA66, 0xAE6, 0xB66, 0xBE6, 0xC66, 0xCE6, 0xD66, 0xDE6,
  0xE50, 0xED0, 0xF20, 0x1040, 0x1090, 0x17E0, 0x1810, 0x1946, 0x19D0, 0x1A80, 0x1A90, 0x1B50,
  0x1BB0, 0x1C40, 0x1C50, 0xA620, 0xA8D0, 0xA900, 0xA9D0, 0xA9F0, 0xAA50, 0xABF0, 0xFF10, 0x104A0,
  0x10D30, 0x11066, 0x110F0, 0x11136, 0x111D0, 0x112F0, 0x11450, 0x114D0, 0x11650, 0x116C0, 0x11730,
  0x118E0, 0x11950, 0x11C50, 0x11D50, 0x11DA0, 0x16A60, 0x16AC0, 0x16B50, 0x1D7CE, 0x1D7D8, 0x1D7E2,
  0x1D7EC, 0x1D7F6, 0x1E140, 0x1E2F0, 0x1E950, 0x1FBF0]

def digitValue? (c : Char) : Option Nat :=
  (digitZeros.find? fun low => low ≤ c.toNat && c.toNat < low + 10).map (c.toNat - ·)

/-! ## Classes as intervals -/

/-- Membership in a set of numbers that a rising list of bounds stands for: from the first
bound up to the second, from the third up to the fourth, and so on. The upper ones are
outside, so a number is in the set if it has reached an odd number of bounds. -/
def inIntervals : List Nat → Nat → Bool
  | [], _ => false
  | low :: bounds, n => if n < low then false else !inIntervals bounds n

end LintRelay.Text
