import LintRelay.Text.Classes

/-!
# Symbols

The code points of a text from outside. Next to the characters there are the halves of
surrogate pairs, which JSON and the Unicode encodings can hold without their partners.
-/

namespace LintRelay.Text

/-- A code point: a character, or half of a surrogate pair that stands alone. -/
inductive Symbol where
  | char (c : Char)
  | half (unit : Nat)
  deriving DecidableEq, Repr, Inhabited

namespace Symbol

/-- A code point that is no character by itself. -/
def isSurrogate (n : Nat) : Bool :=
  0xD800 ≤ n && n < 0xE000

/-- A unit that begins a pair. -/
def isHighUnit (n : Nat) : Bool :=
  0xD800 ≤ n && n < 0xDC00

def isLowUnit (n : Nat) : Bool :=
  0xDC00 ≤ n && n < 0xE000

def ofNat (n : Nat) : Symbol :=
  if isSurrogate n then half n else char (Char.ofNat n)

def ofPair (high low : Nat) : Symbol :=
  char (Char.ofNat (0x10000 + (high - 0xD800) * 1024 + (low - 0xDC00)))

def char? : Symbol → Option Char
  | char c => some c
  | half _ => none

def ofText (s : String) : List Symbol :=
  s.toList.map char

/-- A text of symbols; the replacement character stands for a half. -/
def toText (symbols : List Symbol) : String :=
  String.ofList (symbols.map fun symbol => symbol.char?.getD '\uFFFD')

def isBlank (symbol : Symbol) : Bool :=
  symbol.char?.any Text.isBlank

def trim (symbols : List Symbol) : List Symbol :=
  ((symbols.dropWhile isBlank).reverse.dropWhile isBlank).reverse

def leading : List Symbol → List Char × List Symbol
  | char c :: rest => ((leading rest).1.cons c, (leading rest).2)
  | symbols => ([], symbols)

theorem leading_append (symbols : List Symbol) :
    (leading symbols).1.map char ++ (leading symbols).2 = symbols := by
  fun_induction leading symbols with
  | case1 c rest ih => simpa using ih
  | case2 => rfl

theorem leading_map_char (cs : List Char) (symbols : List Symbol)
    (hfirst : ∀ c rest, symbols ≠ char c :: rest) :
    leading (cs.map char ++ symbols) = (cs, symbols) := by
  induction cs with
  | nil =>
    cases symbols with
    | nil => rfl
    | cons symbol rest =>
      cases symbol with
      | char c => exact absurd rfl (hfirst c rest)
      | half => rfl
  | cons c cs ih => rw [List.map_cons, List.cons_append, leading, ih]

end Symbol

end LintRelay.Text
