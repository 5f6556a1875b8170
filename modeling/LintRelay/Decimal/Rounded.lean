import LintRelay.Decimal.Binary

/-!
# Decimals with one place

A number rounded to one place after the point. The binary value is rounded
exactly, and a half goes to the even neighbour.
-/

namespace LintRelay.Decimal

/-- The quotient rounded to the nearest whole number, a half to the even one. -/
def roundDiv (num den : Nat) : Nat :=
  let q := num / den
  let twice := 2 * (num % den)
  if twice < den ∨ (twice = den ∧ q % 2 = 0) then q else q + 1

def renderTenths (tenths : Nat) : String :=
  s!"{tenths / 10}.{tenths % 10}"

def renderOnePlace (x : Float) : String :=
  match Parts.ofFloat x with
  | .notANumber => "nan"
  | .infinite negative => if negative then "-inf" else "inf"
  | .finite negative m e =>
    (if negative then "-" else "") ++
      renderTenths (roundDiv (10 * m * Nat.pow 2 e.toNat) (Nat.pow 2 (-e).toNat))

end LintRelay.Decimal
