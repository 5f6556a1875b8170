import LintRelay.Value

/-!
# Writing JSON

Two layouts: on one line, and indented by two spaces a level. All characters
beyond printable ASCII are escaped, those outside the basic plane as two units.
A value is not written when a number in it has too many digits.
-/

namespace LintRelay.Json

open LintRelay

def unitDigits (n : Nat) : List Char :=
  [n / 4096 % 16, n / 256 % 16, n / 16 % 16, n % 16].map Nat.digitChar

def unitEscape (n : Nat) : List Char :=
  '\\' :: 'u' :: unitDigits n

def escapedChar (c : Char) : List Char :=
  if c = '"' ∨ c = '\\' then ['\\', c]
  else if c = '\n' then ['\\', 'n']
  else if c = '\r' then ['\\', 'r']
  else if c = '\t' then ['\\', 't']
  else if c.toNat = 8 then ['\\', 'b']
  else if c.toNat = 12 then ['\\', 'f']
  else if 0x20 ≤ c.toNat ∧ c.toNat < 0x7F then [c]
  else if c.toNat < 0x10000 then unitEscape c.toNat
  else
    let n := c.toNat - 0x10000
    unitEscape (0xD800 + n / 1024) ++ unitEscape (0xDC00 + n % 1024)

def renderText (s : String) : String :=
  String.ofList ('"' :: s.toList.flatMap escapedChar ++ ['"'])

/-- A number in JSON; the values that JSON lacks get the usual names. -/
def renderFloat (x : Float) : String :=
  match Decimal.Parts.ofFloat x with
  | .notANumber => "NaN"
  | .infinite negative => if negative then "-Infinity" else "Infinity"
  | .finite .. => Decimal.renderFloat x

/-- How the parts of a list or table are laid out at a level of nesting. -/
structure Layout where
  /-- What follows the opening bracket of a non-empty group. -/
  opening : Nat → String
  /-- What stands between two parts. -/
  between : Nat → String
  /-- What precedes the closing bracket of a non-empty group. -/
  closing : Nat → String

def Layout.oneLine : Layout :=
  ⟨fun _ => "", fun _ => ", ", fun _ => ""⟩

def newLine (level : Nat) : String :=
  String.ofList ('\n' :: List.replicate (2 * level) ' ')

/-- Each part on a line of its own. -/
def Layout.indented : Layout :=
  ⟨fun level => newLine (level + 1), fun level => "," ++ newLine (level + 1), newLine⟩

def Layout.group (l : Layout) (level : Nat) (left right : String) (parts : List String) : String :=
  if parts.isEmpty then
    left ++ right
  else
    left ++ l.opening level ++ (l.between level).intercalate parts ++ l.closing level ++ right

mutual

def renderAt (l : Layout) (level : Nat) : Value → String
  | .null => "null"
  | .bool b => if b then "true" else "false"
  | .int n => toString n
  | .float x => renderFloat x
  | .text s | .moment s => renderText s
  | .list items => l.group level "[" "]" (renderItems l (level + 1) items)
  | .table entries => l.group level "\x7b" "\x7d" (renderEntries l (level + 1) entries)

def renderItems (l : Layout) (level : Nat) : List Value → List String
  | [] => []
  | v :: rest => renderAt l level v :: renderItems l level rest

def renderEntries (l : Layout) (level : Nat) : List (String × Value) → List String
  | [] => []
  | (k, v) :: rest => (renderText k ++ ": " ++ renderAt l level v) :: renderEntries l level rest

end

/-- The form of a value in a layout, if its numbers can be written. -/
def write (l : Layout) (v : Value) : Except Decimal.Unwritable String :=
  if v.isWritable then .ok (renderAt l 0 v) else .error {}

def render (v : Value) : Except Decimal.Unwritable String :=
  write .oneLine v

/-- A value over several lines. -/
def renderIndented (v : Value) : Except Decimal.Unwritable String :=
  write .indented v

theorem write_eq_ok_iff (l : Layout) (v : Value) (text : String) :
    write l v = .ok text ↔ v.isWritable = true ∧ text = renderAt l 0 v := by
  unfold write
  split
  · rename_i h
    simp [h, eq_comm]
  · rename_i h
    simp [h]

end LintRelay.Json
