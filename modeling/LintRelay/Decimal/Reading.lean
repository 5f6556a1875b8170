import LintRelay.Decimal.Numeral

/-!
# Reading decimals

The nearest floating-point number to a decimal. A decimal too large for any
finite number reads as infinity, one too small as zero.
-/

namespace LintRelay.Decimal

/-- The number nearest to `digits * 10 ^ exponent`. Far out the answer is known
without computing the power. -/
def nearest (negative : Bool) (digits : Nat) (exponent : Int) : Float :=
  let place : Int := (Nat.toDigits 10 digits).length + exponent
  let magnitude :=
    if digits = 0 ∨ place < -400 then 0.0
    else if place > 400 then 1.0 / 0.0
    else Float.ofScientific digits (exponent < 0) exponent.natAbs
  if negative then -magnitude else magnitude

/-- The number with these digits before and after the point and this power of
ten. -/
def ofNotation (negative : Bool) (whole fraction : List Char) (power : Int) : Float :=
  nearest negative (Nat.ofDigitChars 10 (whole ++ fraction) 0) (power - fraction.length)

/-- An exponent: an optional sign and digits. Beyond six digits the size no
longer matters. -/
def readPower (negative : Bool) (digits : List Char) : Int :=
  let significant := digits.dropWhile (· = '0')
  let size := if significant.length > 6 then 1000000 else Nat.ofDigitChars 10 significant 0
  if negative then -(size : Int) else size

end LintRelay.Decimal
