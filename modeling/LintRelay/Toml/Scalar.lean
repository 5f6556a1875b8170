import LintRelay.Decimal.Reading
import LintRelay.Toml.Strings
import LintRelay.Value

/-!
# TOML: numbers, dates and times

Digits may be grouped by single underscores. Dates and times are brought to
their standard written form.
-/

namespace LintRelay.Toml

open LintRelay LintRelay.Decimal

/-- Digits with single underscores between them, without the underscores. -/
def groupedDigits (isDigit : Char → Bool) : List Char → Option (List Char × List Char)
  | c :: rest =>
    if isDigit c then
      match rest with
      | '_' :: more =>
        match groupedDigits isDigit more with
        | some (digits, after) => some (c :: digits, after)
        | none => some ([c], '_' :: more)
      | more =>
        match groupedDigits isDigit more with
        | some (digits, after) => some (c :: digits, after)
        | none => some ([c], more)
    else
      none
  | [] => none

/-- The bases that are written with a letter after a zero. -/
def base? : Char → Option Nat
  | 'x' => some 16
  | 'o' => some 8
  | 'b' => some 2
  | _ => none

def isDigitOf (base : Nat) (c : Char) : Bool :=
  (hexValue? c).any (· < base)

def ofDigits (base : Nat) (digits : List Char) : Nat :=
  digits.foldl (fun n c => n * base + (hexValue? c).getD 0) 0

def basedNumber? : List Char → Option (Int × List Char)
  | '0' :: letter :: rest => do
    let base ← base? letter
    let (digits, after) ← groupedDigits (isDigitOf base) rest
    return (ofDigits base digits, after)
  | _ => none

/-- An optional sign: whether it is negative, and the rest. -/
def sign : List Char → Bool × List Char
  | '-' :: rest => (true, rest)
  | '+' :: rest => (false, rest)
  | cs => (false, cs)

/-- The digits of a whole number, which do not begin with a zero. -/
def wholeDigits? : List Char → Option (List Char × List Char)
  | '0' :: rest => some (['0'], rest)
  | cs => groupedDigits Char.isDigit cs

def fraction? : List Char → Option (List Char × List Char)
  | '.' :: rest => groupedDigits Char.isDigit rest
  | _ => none

def power? : List Char → Option (Int × List Char)
  | c :: rest =>
    if c = 'e' ∨ c = 'E' then do
      let (negative, rest) := sign rest
      let (digits, after) ← groupedDigits Char.isDigit rest
      return (readPower negative digits, after)
    else
      none
  | [] => none

/-- A decimal number: a float if it has a fraction or a power of ten. -/
def decimalNumber? (cs : List Char) : Option (Except ReadError (Value × List Char)) := do
  let (negative, rest) := sign cs
  let (whole, rest) ← wholeDigits? rest
  let fraction := fraction? rest
  let afterFraction := (fraction.map (·.2)).getD rest
  let power := power? afterFraction
  if fraction.isNone && power.isNone then
    match readDigits whole with
    | .error e => return .error (.oversized e)
    | .ok n => return .ok (.int (if negative then -(n : Int) else n), rest)
  else
    let x := ofNotation negative whole ((fraction.map (·.1)).getD []) ((power.map (·.1)).getD 0)
    return .ok (.float x, (power.map (·.2)).getD afterFraction)

/-- The float names; each may have a sign. -/
def namedFloat? (cs : List Char) : Option (Value × List Char) :=
  let (negative, rest) := sign cs
  match rest with
  | 'i' :: 'n' :: 'f' :: after =>
    some (.float (if negative then -1.0 / 0.0 else 1.0 / 0.0), after)
  | 'n' :: 'a' :: 'n' :: after => some (.float (0.0 / 0.0), after)
  | _ => none

/-- A number of exactly `count` digits between two bounds. -/
def fixedNumber? (count low high : Nat) (cs : List Char) : Option (Nat × List Char) :=
  let digits := cs.take count
  let n := Nat.ofDigitChars 10 digits 0
  if digits.length = count ∧ digits.all Char.isDigit ∧ low ≤ n ∧ n ≤ high then
    some (n, cs.drop count)
  else
    none

def drop? (c : Char) : List Char → Option (List Char)
  | d :: rest => if d = c then some rest else none
  | [] => none

/-- A number with leading zeros. -/
def padded (width n : Nat) : String :=
  let digits := Nat.toDigits 10 n
  String.ofList (List.replicate (width - digits.length) '0' ++ digits)

/-- The six digits of a fraction of a second, unless all are zero. -/
def secondFraction (digits : List Char) : String :=
  let six := (digits ++ List.replicate 6 '0').take 6
  if six.all (· = '0') then "" else "." ++ String.ofList six

/-- A time of day in its standard form. -/
def time? (cs : List Char) : Option (String × List Char) := do
  let (hour, rest) ← fixedNumber? 2 0 23 cs
  let (minute, rest) ← fixedNumber? 2 0 59 (← drop? ':' rest)
  let (second, rest) ← fixedNumber? 2 0 59 (← drop? ':' rest)
  let (digits, rest) :=
    match rest with
    | '.' :: more =>
      if (more.head?.any Char.isDigit) then
        (more.takeWhile Char.isDigit, more.dropWhile Char.isDigit)
      else
        ([], rest)
    | _ => ([], rest)
  return (padded 2 hour ++ ":" ++ padded 2 minute ++ ":" ++ padded 2 second ++
    secondFraction digits, rest)

/-- The distance from universal time in its standard form. -/
def offset? (cs : List Char) : Option (String × List Char) := do
  match cs with
  | c :: rest =>
    if c = 'Z' ∨ c = 'z' then
      return ("+00:00", rest)
    else if c = '+' ∨ c = '-' then
      let (hour, rest) ← fixedNumber? 2 0 23 rest
      let (minute, rest) ← fixedNumber? 2 0 59 (← drop? ':' rest)
      let mark := if c = '-' ∧ (hour, minute) ≠ (0, 0) then "-" else "+"
      return (mark ++ padded 2 hour ++ ":" ++ padded 2 minute, rest)
    else
      none
  | [] => none

def daysIn (year month : Nat) : Nat :=
  if month = 2 then
    if year % 4 = 0 ∧ (year % 100 ≠ 0 ∨ year % 400 = 0) then 29 else 28
  else if month = 4 ∨ month = 6 ∨ month = 9 ∨ month = 11 then 30
  else 31

/-- A time of day after a date, with an optional distance from universal time. -/
def timeAfterDate? (cs : List Char) : Option (String × List Char) := do
  match cs with
  | c :: rest =>
    if c = 'T' ∨ c = 't' ∨ c = ' ' then
      let (time, rest) ← time? rest
      match offset? rest with
      | some (offset, rest) => return ("T" ++ time ++ offset, rest)
      | none => return ("T" ++ time, rest)
    else
      none
  | [] => none

/-- A date with an optional time in its standard form. A date that is not in
the calendar is malformed. -/
def dateTime? (cs : List Char) : Option (Except ReadError (Value × List Char)) := do
  let (year, rest) ← fixedNumber? 4 0 9999 cs
  let (month, rest) ← fixedNumber? 2 1 12 (← drop? '-' rest)
  let (day, rest) ← fixedNumber? 2 1 31 (← drop? '-' rest)
  if year = 0 ∨ day > daysIn year month then
    return malformed
  let date := padded 4 year ++ "-" ++ padded 2 month ++ "-" ++ padded 2 day
  match timeAfterDate? rest with
  | some (time, rest) => return .ok (.moment (date ++ time), rest)
  | none => return .ok (.moment date, rest)

/-- A value that is neither a string nor a list nor a table. -/
def scalar (cs : List Char) : Except ReadError (Value × List Char) :=
  match cs with
  | 't' :: 'r' :: 'u' :: 'e' :: rest => .ok (.bool true, rest)
  | 'f' :: 'a' :: 'l' :: 's' :: 'e' :: rest => .ok (.bool false, rest)
  | _ =>
    match dateTime? cs with
    | some reading => reading
    | none =>
      match time? cs with
      | some (time, rest) => .ok (.moment time, rest)
      | none =>
        match basedNumber? cs with
        | some (n, rest) => .ok (.int n, rest)
        | none =>
          match decimalNumber? cs with
          | some reading => reading
          | none =>
            match namedFloat? cs with
            | some found => .ok found
            | none => malformed

end LintRelay.Toml
