import LintRelay.Decimal.Reading
import LintRelay.Schema.Issue
import LintRelay.Text.Classes

/-!
# Scalars

Lenient readings of scalar values: a number may be written as text, a whole
number as a float or the other way round, a truth value as a word or as 0 or 1.
-/

namespace LintRelay.Schema

open LintRelay Decimal

def int64Bound : Nat := Nat.pow 2 63

/-- The whole number that a finite number is, if it has no fraction. -/
def whole? (negative : Bool) (m : Nat) (e : Int) : Option Int :=
  let size :=
    if m % Nat.pow 2 (-e).toNat = 0 then some (m * Nat.pow 2 e.toNat / Nat.pow 2 (-e).toNat)
    else none
  size.map fun n => if negative then -(n : Int) else n

/-- A float as a whole number; only those strictly between the bounds of 64-bit
numbers are taken. -/
def intOfFloat (x : Float) : Checked Int :=
  match Parts.ofFloat x with
  | .finite negative m e =>
    match whole? negative m e with
    | none => reject .intFraction
    | some n => if n.natAbs < int64Bound then .ok n else reject .intSize
  | _ => reject .notFinite

/-- Blanks around a number that is written as text; the four separators are
none there. -/
def isNumberSpace (c : Char) : Bool :=
  Text.isBlank c && !(0x1C ≤ c.toNat && c.toNat ≤ 0x1F)

def trimNumber (cs : List Char) : List Char :=
  ((cs.dropWhile isNumberSpace).reverse.dropWhile isNumberSpace).reverse

/-- Drop a point with one or more zeros after it, if nothing else stands there. -/
def dropZeroFraction (cs : List Char) : List Char :=
  match cs.dropWhile (· ≠ '.') with
  | '.' :: '0' :: zeros => if zeros.all (· = '0') then cs.takeWhile (· ≠ '.') else cs
  | _ => cs

/-- Drop leading zeros, and underscores between them, but keep a last zero and
one before a point. A minus sign may stand behind the zeros. -/
def dropLeadingZeros : List Char → Option (List Char)
  | '0' :: rest =>
    match rest.dropWhile fun c => c = '0' || c = '_' with
    | [] => some [(('0' :: rest).getLastD '0')]
    | '.' :: _ =>
      let zeros := '0' :: rest.takeWhile fun c => c = '0' || c = '_'
      some (zeros.getLastD '0' :: rest.dropWhile fun c => c = '0' || c = '_')
    | c :: more => if c.isDigit || c = '-' then some (c :: more) else none
  | c :: rest => if c.isDigit || c = '-' then some (c :: rest) else none
  | [] => none

/-- Whether every underscore stands alone between two other characters. -/
def singleUnderscores : List Char → Bool
  | [] => true
  | ['_'] => false
  | '_' :: '_' :: _ => false
  | _ :: rest => singleUnderscores rest

/-- Drop underscores that group digits; `none` where they do not. -/
def dropUnderscores (cs : List Char) : Option (List Char) :=
  if cs.head? ≠ some '_' ∧ singleUnderscores cs then some (cs.filter (· ≠ '_')) else none

/-- The plain form of a whole number without its sign: no leading zeros, fraction
or grouping. -/
def unsignedForm? (cs : List Char) : Option (List Char) := do
  dropUnderscores (dropZeroFraction (← dropLeadingZeros cs))

/-- The plain form of a whole number. A minus sign stays, a plus sign does not. -/
def plainForm? : List Char → Option (List Char)
  | '+' :: rest => if rest.head? = some '-' then none else unsignedForm? rest
  | '-' :: rest => (unsignedForm? rest).map ('-' :: ·)
  | cs => unsignedForm? cs

/-- Digits that begin with a zero only if they are no more than that. -/
def isPlainNumeral (digits : List Char) : Bool :=
  Decimal.isNumeral digits && (digits.head? ≠ some '0' || digits.length = 1)

/-- A minus sign or none and digits, as many as are read. -/
def signedNumeral? (cs : List Char) : Option Int :=
  let digits := if cs.head? = some '-' then cs.tail else cs
  if isPlainNumeral digits then
    (readDigits digits).toOption.map fun n => if cs.head? = some '-' then -(n : Int) else n
  else
    none

/-- Whether a text begins with a numeral that is longer than what is read; one that
begins with a zero is looked at more closely first. -/
def startsTooLong (cs : List Char) : Bool :=
  let digits := if cs.head? = some '-' then cs.tail else cs
  digits.head? ≠ some '0' && maxDigits < (digits.takeWhile Char.isDigit).length

/-- The whole number that a text denotes, with blanks around it. -/
def wholeNumber? (s : String) : Option Int :=
  plainForm? (trimNumber s.toList) >>= signedNumeral?

def intOfText (s : String) : Checked Int :=
  if startsTooLong s.toList then
    reject .intSize
  else
    match wholeNumber? s with
    | some n => .ok n
    | none => reject .intText

def int : Value → Checked Int
  | .int n => .ok n
  | .bool b => .ok (if b then 1 else 0)
  | .float x => intOfFloat x
  | .text s => intOfText s
  | _ => reject .notInt

/-- Digits with an optional point and power of ten, without a sign. -/
def unsignedFloat? (negative : Bool) (cs : List Char) : Option Float :=
  let whole := cs.takeWhile Char.isDigit
  let (fraction, rest) :=
    match cs.dropWhile Char.isDigit with
    | '.' :: more => (more.takeWhile Char.isDigit, more.dropWhile Char.isDigit)
    | more => ([], more)
  if whole.isEmpty && fraction.isEmpty then
    none
  else
    match rest with
    | [] => some (ofNotation negative whole fraction 0)
    | c :: power =>
      if c = 'e' ∨ c = 'E' then
        let (below, digits) :=
          match power with
          | '-' :: ds => (true, ds)
          | '+' :: ds => (false, ds)
          | ds => (false, ds)
        if isNumeral digits then
          some (ofNotation negative whole fraction (readPower below digits))
        else
          none
      else
        none

/-- A float written as text, without blanks around it. -/
def plainFloat? (cs : List Char) : Option Float :=
  let (negative, rest) :=
    match cs with
    | '-' :: r => (true, r)
    | '+' :: r => (false, r)
    | r => (false, r)
  let word := String.ofList (rest.map Char.toLower)
  if word = "inf" ∨ word = "infinity" then
    some (if negative then -1.0 / 0.0 else 1.0 / 0.0)
  else if word = "nan" then
    some (0.0 / 0.0)
  else
    unsignedFloat? negative rest

/-- A float written as text; digits may be grouped by underscores. -/
def floatOfText (s : String) : Checked Float :=
  let grouped :=
    if s.toList.contains '_' then dropUnderscores s.toList >>= plainFloat? else none
  match plainFloat? (trimNumber s.toList) <|> grouped with
  | some x => .ok x
  | none => reject .floatText

def float : Value → Checked Float
  | .float x => .ok x
  | .int n =>
    let x := nearest (n < 0) n.natAbs 0
    if isFinite x then .ok x else reject .notFloat
  | .bool b => .ok (if b then 1.0 else 0.0)
  | .text s => floatOfText s
  | _ => reject .notFloat

/-- A truth value written as 0 or 1. -/
def boolOfInt (n : Int) : Checked Bool :=
  if n = 0 then .ok false
  else if n = 1 then .ok true
  else if -(int64Bound : Int) ≤ n ∧ n < int64Bound then reject .boolText
  else reject .notBool

def falseWords : List String := ["0", "f", "n", "no", "off", "false"]

def trueWords : List String := ["1", "t", "y", "on", "yes", "true"]

/-- A truth value written as a word, in either case. -/
def boolOfText (s : String) : Checked Bool :=
  let word := String.ofList (s.toList.map Char.toLower)
  if word ∈ trueWords then .ok true
  else if word ∈ falseWords then .ok false
  else reject .boolText

def bool : Value → Checked Bool
  | .bool b => .ok b
  | .int n => boolOfInt n
  | .float x =>
    match intOfFloat x with
    | .ok n => boolOfInt n
    | .error _ => reject .notBool
  | .text s => boolOfText s
  | _ => reject .notBool

def text : Value → Checked String
  | .text s => .ok s
  | _ => reject .notText

def optional {α : Type} (decode : Value → Checked α) : Value → Checked (Option α)
  | .null => .ok none
  | v => some <$> decode v

def choice {α : Type} (choices : List (String × α)) (v : Value) : Checked α :=
  let refused : Checked α := reject (.notChoice (choices.map Prod.fst))
  match v with
  | .text s =>
    match choices.find? fun c => c.1 = s with
    | some (_, a) => .ok a
    | none => refused
  | _ => refused

/-- A whole number of at least `low`. -/
def intFrom (low : Nat) (v : Value) : Checked Nat := do
  let n ← int v
  if (low : Int) ≤ n then return n.toNat else reject (.below low)

def nonNegative (v : Value) : Checked Float := do
  let x ← float v
  if 0.0 ≤ x then return x else reject (.below 0)

def fromZeroToTwo (v : Value) : Checked Float := do
  let x ← float v
  if !(x ≤ 2.0) then reject (.above 2)
  else if 0.0 ≤ x then return x
  else reject (.below 0)

/-- The items of a list, each checked; `index` is the index of the first. -/
def itemsFrom {α : Type} (decode : Value → Checked α) (index : Nat) : List Value → Checked (List α)
  | [] => .ok []
  | v :: rest =>
    match (decode v).within (.item index), itemsFrom decode (index + 1) rest with
    | .ok a, .ok as => .ok (a :: as)
    | .ok _, .error later => .error later
    | .error now, .ok _ => .error now
    | .error now, .error later => .error (now ++ later)

/-- A list whose items are all of one kind; `other` is the problem with a value
that is no list. -/
def listOf {α : Type} (other : Problem) (decode : Value → Checked α) : Value → Checked (List α)
  | .list items => itemsFrom decode 0 items
  | _ => reject other

end LintRelay.Schema
