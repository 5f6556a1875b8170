import LintRelay.Decimal.Reading
import LintRelay.Text.Symbol
import LintRelay.Value

/-!
# Reading JSON

The standard grammar, with the three number names that are in common use beside
it. In a string only escaped control characters are allowed, and a half of a
surrogate pair without its partner stays as it is, escaped or not. Of two entries
with one key the later one counts. A reader goes one level down for each bracket,
so brackets can be open in each other as far as its caller leaves it room.
-/

namespace LintRelay.Json

open LintRelay Decimal
open LintRelay.Text (Symbol)

/-- What a text of JSON holds. Its texts are symbols, since they need not be characters. -/
inductive Document where
  /-- A word or a number. -/
  | plain (v : Value)
  | text (symbols : List Symbol)
  | list (items : List Document)
  | table (entries : List (List Symbol × Document))
  deriving Inhabited

namespace Document

/-- The entry of a table with that key; nothing for any other document. -/
def field? : Document → String → Option Document
  | table entries, key => (entries.find? (·.1 = Symbol.ofText key)).map (·.2)
  | _, _ => none

/-- Set the entry with that key: in place if there is one, else at the end. -/
def insert (key : List Symbol) (d : Document) :
    List (List Symbol × Document) → List (List Symbol × Document)
  | [] => [(key, d)]
  | (k, e) :: rest => if k = key then (k, d) :: rest else (k, e) :: insert key d rest

mutual

def toValue : Document → Value
  | plain v => v
  | text symbols => .text (Symbol.toText symbols)
  | list items => .list (itemValues items)
  | table entries => .table (entryValues entries)

def itemValues : List Document → List Value
  | [] => []
  | d :: rest => toValue d :: itemValues rest

def entryValues : List (List Symbol × Document) → List (String × Value)
  | [] => []
  | (k, d) :: rest => (Symbol.toText k, toValue d) :: entryValues rest

end

end Document

inductive ReadError where
  | malformed
  | oversized (numeral : Oversized)
  | tooDeep (kind : String)
  deriving DecidableEq, Repr

/-- The words for brackets that are too deep in each other. -/
def tooDeepText (kind : String) : String :=
  "maximum recursion depth exceeded while decoding a JSON " ++ kind ++ " from a unicode string"

def isSpace : Symbol → Bool
  | .char c => c = ' ' || c = '\t' || c = '\n' || c = '\r'
  | .half _ => false

def skipSpace (symbols : List Symbol) : List Symbol :=
  symbols.dropWhile isSpace

def hexValue? (c : Char) : Option Nat :=
  if c.isDigit then some (c.toNat - 48)
  else if 'a' ≤ c ∧ c ≤ 'f' then some (c.toNat - 87)
  else if 'A' ≤ c ∧ c ≤ 'F' then some (c.toNat - 55)
  else none

/-- Four hexadecimal digits at the start, and the rest. -/
def unit? : List Symbol → Option (Nat × List Symbol)
  | .char a :: .char b :: .char c :: .char d :: rest => do
    let a ← hexValue? a
    let b ← hexValue? b
    let c ← hexValue? c
    let d ← hexValue? d
    return (a * 4096 + b * 256 + c * 16 + d, rest)
  | _ => none

/-- The symbol of an escaped unit, with the unit after it if the two are a pair. -/
def unitSymbol? (symbols : List Symbol) : Option (Symbol × List Symbol) := do
  let (n, rest) ← unit? symbols
  if Symbol.isHighUnit n then
    match rest with
    | .char '\\' :: .char 'u' :: more =>
      match unit? more with
      | some (m, rest') =>
        if Symbol.isLowUnit m then return (.ofPair n m, rest') else return (.half n, rest)
      | none => return (.half n, rest)
    | _ => return (.half n, rest)
  else
    return (.ofNat n, rest)

/-- The character that a single letter stands for after a backslash. -/
def shortEscape? : Char → Option Char
  | '"' => some '"'
  | '\\' => some '\\'
  | '/' => some '/'
  | 'b' => some (Char.ofNat 8)
  | 'f' => some (Char.ofNat 12)
  | 'n' => some '\n'
  | 'r' => some '\r'
  | 't' => some '\t'
  | _ => none

/-- The symbols of a string up to its closing quote, and the rest. -/
def stringBody : (fuel : Nat) → List Symbol → Except ReadError (List Symbol × List Symbol)
  | 0, _ => .error .malformed
  | _ + 1, [] => .error .malformed
  | _ + 1, .char '"' :: rest => .ok ([], rest)
  | fuel + 1, .char '\\' :: .char 'u' :: rest =>
    match unitSymbol? rest with
    | none => .error .malformed
    | some (symbol, rest') => do
      let (body, after) ← stringBody fuel rest'
      return (symbol :: body, after)
  | fuel + 1, .char '\\' :: .char e :: rest =>
    match shortEscape? e with
    | none => .error .malformed
    | some c => do
      let (body, after) ← stringBody fuel rest
      return (.char c :: body, after)
  | fuel + 1, symbol :: rest =>
    if symbol.char?.any fun c => c.toNat < 0x20 || c = '\\' then
      .error .malformed
    else do
      let (body, after) ← stringBody fuel rest
      return (symbol :: body, after)

def fraction? : List Char → Option (List Char × List Char)
  | '.' :: rest =>
    let digits := rest.takeWhile Char.isDigit
    if digits.isEmpty then none else some (digits, rest.dropWhile Char.isDigit)
  | _ => none

/-- The power of ten, if there is an exponent. -/
def exponent? : List Char → Option (Int × List Char)
  | c :: rest =>
    if c = 'e' ∨ c = 'E' then
      let (negative, rest) :=
        match rest with
        | '-' :: r => (true, r)
        | '+' :: r => (false, r)
        | r => (false, r)
      let digits := rest.takeWhile Char.isDigit
      if digits.isEmpty then none
      else some (readPower negative digits, rest.dropWhile Char.isDigit)
    else
      none
  | [] => none

/-- The whole part of a number: one zero, or digits that begin with no zero. -/
def wholePart : List Char → Option (List Char × List Char)
  | '0' :: rest => some (['0'], rest)
  | cs =>
    let digits := cs.takeWhile Char.isDigit
    if digits.isEmpty then none else some (digits, cs.dropWhile Char.isDigit)

/-- A number at the start, after its sign. -/
def number (negative : Bool) (cs : List Char) : Except ReadError (Value × List Char) :=
  match wholePart cs with
  | none => .error .malformed
  | some (whole, rest) =>
    let fraction := fraction? rest
    let afterFraction := (fraction.map (·.2)).getD rest
    let exponent := exponent? afterFraction
    if fraction.isNone && exponent.isNone then
      match readDigits whole with
      | .error e => .error (.oversized e)
      | .ok n => .ok (.int (if negative then -(n : Int) else n), rest)
    else
      let x := ofNotation negative whole ((fraction.map (·.1)).getD [])
        ((exponent.map (·.1)).getD 0)
      .ok (.float x, (exponent.map (·.2)).getD afterFraction)

def dropWord? (word : String) (cs : List Char) : Option (List Char) :=
  if word.toList.isPrefixOf cs then some (cs.drop word.length) else none

def words : List (String × Value) :=
  [("null", .null), ("true", .bool true), ("false", .bool false), ("NaN", .float (0.0 / 0.0)),
    ("Infinity", .float (1.0 / 0.0)), ("-Infinity", .float (-1.0 / 0.0))]

/-- A word or a number at the start. -/
def plainValue (cs : List Char) : Except ReadError (Value × List Char) :=
  match words.findSome? fun (word, v) => (dropWord? word cs).map (v, ·) with
  | some found => .ok found
  | none =>
    match cs with
    | '-' :: rest => number true rest
    | _ => number false cs

/-- A word or a number at the start; halves are in neither. -/
def plainDocument (symbols : List Symbol) : Except ReadError (Document × List Symbol) := do
  let (v, rest) ← plainValue (Symbol.leading symbols).1
  return (.plain v, rest.map .char ++ (Symbol.leading symbols).2)

mutual

/-- A document at the start, and what follows it; `fuel` exceeds twice the length,
since a document takes at most two steps for each of its symbols, and `room` is
the number of brackets that may still be opened. -/
def document : (fuel room : Nat) → List Symbol → Except ReadError (Document × List Symbol)
  | 0, _, _ => .error .malformed
  | fuel + 1, _, .char '"' :: rest => do
    let (body, after) ← stringBody fuel rest
    return (.text body, after)
  | _ + 1, 0, .char '[' :: _ => .error (.tooDeep "array")
  | fuel + 1, room + 1, .char '[' :: rest =>
    match skipSpace rest with
    | .char ']' :: after => .ok (.list [], after)
    | inner => do
      let (items, after) ← items fuel room inner
      return (.list items, after)
  | _ + 1, 0, .char '{' :: _ => .error (.tooDeep "object")
  | fuel + 1, room + 1, .char '{' :: rest =>
    match skipSpace rest with
    | .char '}' :: after => .ok (.table [], after)
    | inner => do
      let (entries, after) ← entries fuel room [] inner
      return (.table entries, after)
  | _ + 1, _, symbols => plainDocument symbols

def items : (fuel room : Nat) → List Symbol → Except ReadError (List Document × List Symbol)
  | 0, _, _ => .error .malformed
  | fuel + 1, room, symbols => do
    let (d, rest) ← document fuel room symbols
    match skipSpace rest with
    | .char ']' :: after => return ([d], after)
    | .char ',' :: more =>
      let (ds, after) ← items fuel room (skipSpace more)
      return (d :: ds, after)
    | _ => .error .malformed

/-- The entries of a table up to its closing brace, added to those before. -/
def entries : (fuel room : Nat) → List (List Symbol × Document) → List Symbol →
    Except ReadError (List (List Symbol × Document) × List Symbol)
  | 0, _, _, _ => .error .malformed
  | fuel + 1, room, before, .char '"' :: symbols => do
    let (key, rest) ← stringBody fuel symbols
    match skipSpace rest with
    | .char ':' :: rest =>
      let (d, rest) ← document fuel room (skipSpace rest)
      let sofar := Document.insert key d before
      match skipSpace rest with
      | .char '}' :: after => return (sofar, after)
      | .char ',' :: more => entries fuel room sofar (skipSpace more)
      | _ => .error .malformed
    | _ => .error .malformed
  | _ + 1, _, _, _ => .error .malformed

end

/-- The document that a text holds, with nothing but blanks around it; `room` is the
number of brackets that may be open at once. -/
def read (room : Nat) (symbols : List Symbol) : Except ReadError Document := do
  let (d, rest) ← document (2 * symbols.length + 2) room (skipSpace symbols)
  if (skipSpace rest).isEmpty then return d else .error .malformed

end LintRelay.Json
