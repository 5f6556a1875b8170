/-!
# Floating-point numbers taken apart

A finite number is a signed whole number times a power of two; the other bit
patterns are the infinities and the one that is no number.
-/

namespace LintRelay.Decimal

/-- The parts of a floating-point number: `finite negative m e` is `m * 2 ^ e`
with its sign. -/
inductive Parts where
  | finite (negative : Bool) (m : Nat) (e : Int)
  | infinite (negative : Bool)
  | notANumber
  deriving DecidableEq, Repr

/-- The exponent of the numbers nearest to zero. -/
def leastExponent : Int := -1074

/-- The significand of a number with no smaller neighbour at its own distance. -/
def leastNormal : Nat := Nat.pow 2 52

def Parts.ofFloat (x : Float) : Parts :=
  let bits : Nat := x.toBits.toNat
  let negative := bits / Nat.pow 2 63 = 1
  let biased : Nat := bits / Nat.pow 2 52 % 2048
  let fraction : Nat := bits % Nat.pow 2 52
  if biased = 2047 then
    if fraction = 0 then .infinite negative else .notANumber
  else if biased = 0 then
    .finite negative fraction leastExponent
  else
    .finite negative (leastNormal + fraction) ((biased : Nat) - 1 + leastExponent)

/-- Neither infinite nor the one that is no number. -/
def isFinite (x : Float) : Bool :=
  match Parts.ofFloat x with
  | .finite .. => true
  | _ => false

end LintRelay.Decimal
