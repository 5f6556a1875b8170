import LintRelay.Decimal.Binary

/-!
# The shortest decimal of a floating-point number

Of the decimals that read back as a number, the one with the fewest digits, and
of those the nearest. On the grid of decimals with a given number of digits only
the two neighbours of the number have to be tried, and the test is exact.
-/

namespace LintRelay.Decimal

/-- The decimal `digits * 10 ^ exponent`. -/
structure Digits where
  digits : Nat
  exponent : Int
  deriving DecidableEq, Repr

/-- How `m * 2 ^ e` looks on the grid of multiples of `10 ^ k`: four times it is
`4 * m * scale / unit`. -/
structure Grid where
  scale : Nat
  unit : Nat

/-- The grid of multiples of `10 ^ k` for numbers with the exponent `e`. -/
def Grid.at (e k : Int) : Grid :=
  { scale := Nat.pow 2 e.toNat * Nat.pow 10 (-k).toNat
    unit := 4 * Nat.pow 2 (-e).toNat * Nat.pow 10 k.toNat }

/-- Whether `c` on the grid reads back as `m * 2 ^ e`: it lies between the
midpoints to the two neighbours, or on one of them if `m` is even. -/
def Grid.readsBack (g : Grid) (m : Nat) (e : Int) (c : Nat) : Bool :=
  let low := (if m = leastNormal ∧ e > leastExponent then 4 * m - 1 else 4 * m - 2) * g.scale
  let high := (4 * m + 2) * g.scale
  let point := c * g.unit
  if m % 2 = 0 then low ≤ point && point ≤ high else low < point && point < high

/-- The nearest point of the grid that reads back as `m * 2 ^ e`, if any; the
even one of two that are equally near. -/
def Grid.nearest? (g : Grid) (m : Nat) (e : Int) : Option Nat :=
  let value := 4 * m * g.scale
  let c := value / g.unit
  match g.readsBack m e c, g.readsBack m e (c + 1) with
  | false, false => none
  | true, false => some c
  | false, true => some (c + 1)
  | true, true =>
    let below := value - c * g.unit
    let above := (c + 1) * g.unit - value
    if below < above ∨ (below = above ∧ c % 2 = 0) then some c else some (c + 1)

/-- The number of digits before the point of `m * 2 ^ e`, or minus the number
of zeros after it. The factor keeps enough digits of the least number. -/
def magnitude (m : Nat) (e : Int) : Int :=
  let enlarged := m * Nat.pow 2 e.toNat * Nat.pow 10 340 / Nat.pow 2 (-e).toNat
  ((Nat.toDigits 10 enlarged).length : Int) - 340

/-- Drop trailing zeros; `fuel` bounds their number. -/
def Digits.shorten (d : Digits) : (fuel : Nat) → Digits
  | 0 => d
  | fuel + 1 =>
    if d.digits ≠ 0 ∧ d.digits % 10 = 0 then
      Digits.shorten ⟨d.digits / 10, d.exponent + 1⟩ fuel
    else
      d

/-- The shortest decimal that reads back as `m * 2 ^ e`; seventeen digits
always suffice. -/
def shortest (m : Nat) (e : Int) : Digits :=
  let place := magnitude m e
  let found := (List.range 17).findSome? fun n =>
    let k := place - (n + 1 : Nat)
    ((Grid.at e k).nearest? m e).map fun c => (⟨c, k⟩ : Digits)
  (found.getD ⟨0, 0⟩).shorten 20

/-- Positional notation is used while the point falls at most this far to the
left of the first digit. -/
def positionalFrom : Int := -3

/-- Positional notation is used while the point falls at most this far to the
right of the first digit. -/
def positionalTo : Int := 16

/-- A decimal in positional notation, or with an exponent of at least two
digits if it is very large or small. -/
def Digits.render (d : Digits) : String :=
  let cs := Nat.toDigits 10 d.digits
  let point : Int := cs.length + d.exponent
  let zeros (n : Int) := List.replicate n.toNat '0'
  String.ofList <|
    if positionalFrom ≤ point ∧ point ≤ positionalTo then
      if point ≤ 0 then
        '0' :: '.' :: zeros (-point) ++ cs
      else if cs.length ≤ point then
        cs ++ zeros (point - cs.length) ++ ['.', '0']
      else
        cs.take point.toNat ++ '.' :: cs.drop point.toNat
    else
      let power := point - 1
      let written := Nat.toDigits 10 power.natAbs
      let fraction := if cs.length = 1 then [] else '.' :: cs.drop 1
      cs.take 1 ++ fraction ++ 'e' :: (if power < 0 then '-' else '+') ::
        zeros (2 - written.length) ++ written

/-- The shortest text that reads back as `x`. -/
def renderFloat (x : Float) : String :=
  match Parts.ofFloat x with
  | .notANumber => "nan"
  | .infinite negative => if negative then "-inf" else "inf"
  | .finite negative m e =>
    (if negative then "-" else "") ++ if m = 0 then "0.0" else (shortest m e).render

end LintRelay.Decimal
