/-!
# Numerals

Decimal numerals with a limit on their length: a longer one is refused, since
reading or writing it would take time quadratic in its length.
-/

namespace LintRelay.Decimal

def maxDigits : Nat := 4300

structure Oversized where
  digits : Nat
  deriving DecidableEq, Repr, Inhabited

def Oversized.message (o : Oversized) : String :=
  "Exceeds the limit (4300 digits) for integer string conversion: value has " ++
    toString o.digits ++
    " digits; use sys.set_int_max_str_digits() to increase the limit"

/-- The number that a list of decimal digits denotes, if the list is not too long. -/
def readDigits (digits : List Char) : Except Oversized Nat :=
  if digits.length ≤ maxDigits then
    .ok (Nat.ofDigitChars 10 digits 0)
  else
    .error ⟨digits.length⟩

/-- A number with more digits than are written. -/
structure Unwritable where
  deriving DecidableEq, Repr, Inhabited

def Unwritable.message (_ : Unwritable) : String :=
  "Exceeds the limit (4300 digits) for integer string conversion; " ++
    "use sys.set_int_max_str_digits() to increase the limit"

/-- Whether a number has no more digits than are written. -/
@[irreducible]
def isWritable (n : Nat) : Bool :=
  n < Nat.pow 10 maxDigits

theorem isWritable_iff (n : Nat) : isWritable n = true ↔ n < Nat.pow 10 maxDigits := by
  unfold isWritable
  exact decide_eq_true_iff

/-- A list of one or more of the digits 0 to 9. -/
def isNumeral (cs : List Char) : Bool :=
  !cs.isEmpty && cs.all Char.isDigit

end LintRelay.Decimal
