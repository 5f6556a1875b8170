import LintRelay.Decimal.Numeral
import LintRelay.Decimal.Shortest

/-!
# Values

What a configuration file or a message body can hold: scalars, lists, and tables
whose entries keep their order. Later entries with a key that is already there
replace its value in place.
-/

namespace LintRelay

/-- A value as it is read, before anything is known about its meaning. `moment`
is a date or a time in its standard written form. -/
inductive Value where
  | null
  | bool (b : Bool)
  | int (n : Int)
  | float (x : Float)
  | text (s : String)
  | moment (s : String)
  | list (items : List Value)
  | table (entries : List (String × Value))
  deriving Inhabited, BEq

/-- A whole or a floating-point number, kept as it was given. -/
inductive Number where
  | int (n : Int)
  | float (x : Float)
  deriving Inhabited, BEq

def Number.toValue : Number → Value
  | .int n => .int n
  | .float x => .float x

def Number.render : Number → String
  | .int n => toString n
  | .float x => Decimal.renderFloat x

/-- The written form of a number, if it is not too long. -/
def Number.write (n : Number) : Except Decimal.Unwritable String :=
  match n with
  | .int i => if Decimal.isWritable i.natAbs then .ok n.render else .error {}
  | .float _ => .ok n.render

def Number.isNegative : Number → Bool
  | .int n => n < 0
  | .float x => x < 0

def Number.isPositive : Number → Bool
  | .int n => 0 < n
  | .float x => 0 < x

namespace Value

def lookup (entries : List (String × Value)) (key : String) : Option Value :=
  (entries.find? (·.1 = key)).map (·.2)

/-- Set the entry with that key: in place if there is one, else at the end. -/
def insert (key : String) (v : Value) : List (String × Value) → List (String × Value)
  | [] => [(key, v)]
  | (k, w) :: rest => if k = key then (k, v) :: rest else (k, w) :: insert key v rest

/-- The entry of a table with that key; nothing for any other value. -/
def field? : Value → String → Option Value
  | table entries, key => lookup entries key
  | _, _ => none

/-- Put a value in the place of the one that stands in tables at a path. -/
def putAt (v : Value) : List String → Value → Value
  | [], w => w
  | key :: path, w =>
    match v.field? key, v with
    | some held, table entries => table (insert key (held.putAt path w) entries)
    | _, _ => v

def text? : Value → Option String
  | text s => some s
  | _ => none

def int? : Value → Option Int
  | int n => some n
  | _ => none

def number? : Value → Option Number
  | int n => some (.int n)
  | float x => some (.float x)
  | _ => none

/-- The items of a list; none for any other value. -/
def items : Value → List Value
  | list vs => vs
  | _ => []

/-- The entries of a table; none for any other value. -/
def entries : Value → List (String × Value)
  | table es => es
  | _ => []

/-- What may be missing, as a value. -/
def ofOption {α : Type} (f : α → Value) : Option α → Value
  | none => null
  | some a => f a

/-- A text, or null where there is none. -/
def ofText? : Option String → Value
  | none => null
  | some s => text s

def texts (items : List String) : Value :=
  list (items.map text)

def nat (n : Nat) : Value :=
  int n

mutual

/-- Whether no whole number in a value has more digits than are written. -/
def isWritable : Value → Bool
  | int n => Decimal.isWritable n.natAbs
  | list items => itemsWritable items
  | table entries => entriesWritable entries
  | null | bool _ | float _ | text _ | moment _ => true

def itemsWritable : List Value → Bool
  | [] => true
  | v :: rest => isWritable v && itemsWritable rest

def entriesWritable : List (String × Value) → Bool
  | [] => true
  | (_, v) :: rest => isWritable v && entriesWritable rest

end

end Value

end LintRelay
