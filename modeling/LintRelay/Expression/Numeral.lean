import LintRelay.Decimal.Numeral

/-!
# Numerals in expressions

Numbers in base ten, with a fraction, a power of ten, or an imaginary unit, and
whole numbers in base two, eight and sixteen. Single underscores stand between
digits. A number must not run into a word, except into one that can follow it.
-/

namespace LintRelay.Expression

/-- A character that a word can hold; which of the letters beyond the Latin ones
cannot stand there is found out later. -/
def isWordPart (c : Char) : Bool :=
  c.isAlphanum || c = '_' || 128 ≤ c.toNat

/-- Whether a text begins with a word and nothing that the word runs into. -/
def startsWord (word : String) (cs : List Char) : Bool :=
  word.toList.isPrefixOf cs && !((cs.drop word.length).head?.any isWordPart)

/-- Whether a text begins with a word that can follow a number without a blank. -/
def startsOperator (cs : List Char) : Bool :=
  ["and", "else", "for", "or", "not"].any (startsWord · cs) ||
    ["if", "in", "is"].any fun w => w.toList.isPrefixOf cs

/-- What follows a number, unless it runs into a word that begins with a Latin
letter. -/
def afterNumber (kind : String) (cs : List Char) : Except String (List Char) :=
  if !startsOperator cs && cs.head?.any fun c => isWordPart c && c.toNat < 128 then
    .error ("invalid " ++ kind ++ " literal")
  else
    .ok cs

def afterDigits : List Char → Except String (List Char)
  | [] => .ok []
  | ['_'] => .error "invalid decimal literal"
  | '_' :: c :: cs => if c.isDigit then afterDigits cs else .error "invalid decimal literal"
  | c :: cs => if c.isDigit then afterDigits cs else .ok (c :: cs)

def afterZeros : List Char → Except String (List Char)
  | [] => .ok []
  | ['_'] => .error "invalid decimal literal"
  | '_' :: c :: cs =>
    if c = '0' then afterZeros cs
    else if c.isDigit then .ok (c :: cs)
    else .error "invalid decimal literal"
  | '0' :: cs => afterZeros cs
  | cs => .ok cs

def afterBase (kind : String) (isDigit : Char → Bool) : (fuel : Nat) → List Char →
    Except String (List Char)
  | 0, cs => .ok cs
  | fuel + 1, cs =>
    match if cs.head? = some '_' then cs.tail else cs with
    | [] => .error ("invalid " ++ kind ++ " literal")
    | c :: rest =>
      if isDigit c then
        match rest.dropWhile isDigit with
        | '_' :: more => afterBase kind isDigit fuel ('_' :: more)
        | d :: more =>
          if d.isDigit then
            .error ("invalid digit '" ++ toString d ++ "' in " ++ kind ++ " literal")
          else
            afterNumber kind (d :: more)
        | [] => .ok []
      else if c.isDigit then
        .error ("invalid digit '" ++ toString c ++ "' in " ++ kind ++ " literal")
      else
        .error ("invalid " ++ kind ++ " literal")

/-- What follows a number from where its digits end. -/
def numeralEnd (cs : List Char) : Except String (List Char) :=
  match cs with
  | c :: rest =>
    if c = 'j' ∨ c = 'J' then afterNumber "imaginary" rest else afterNumber "decimal" cs
  | [] => .ok []

/-- The same from where a power of ten may begin. -/
def powerEnd (cs : List Char) : Except String (List Char) :=
  match cs with
  | e :: rest =>
    if e = 'e' ∨ e = 'E' then
      match rest with
      | s :: more =>
        if s.isDigit then
          afterDigits more >>= numeralEnd
        else if s = '+' ∨ s = '-' then
          match more with
          | d :: more =>
            if d.isDigit then afterDigits more >>= numeralEnd
            else .error "invalid decimal literal"
          | [] => .error "invalid decimal literal"
        else
          afterNumber "decimal" cs
      | [] => afterNumber "decimal" cs
    else
      numeralEnd cs
  | [] => .ok []

/-- The same from where the digits after a point may begin. -/
def fractionEnd (cs : List Char) : Except String (List Char) :=
  match cs with
  | c :: rest => if c.isDigit then afterDigits rest >>= powerEnd else powerEnd cs
  | [] => .ok []

/-- The same from where a point may stand. -/
def wholeEnd (cs : List Char) : Except String (List Char) :=
  match cs with
  | '.' :: rest => fractionEnd rest
  | _ => powerEnd cs

def leadingZeros : String :=
  "leading zeros in decimal integer literals are not permitted; " ++
    "use an 0o prefix for octal integers"

/-- The same after a zero at the beginning of a number in base ten. -/
def zeroEnd (cs : List Char) : Except String (List Char) := do
  match ← afterZeros cs with
  | d :: more =>
    if d.isDigit then do
      let after ← afterDigits more
      if after.head?.any fun c => ['.', 'e', 'E', 'j', 'J'].contains c then wholeEnd after
      else .error leadingZeros
    else
      wholeEnd (d :: more)
  | [] => return []

def isHexDigit (c : Char) : Bool :=
  c.isDigit || "abcdefABCDEF".toList.contains c

/-- What follows the number that a text begins with. -/
def numberEnd (cs : List Char) : Except String (List Char) :=
  match cs with
  | '0' :: c :: digits =>
    let base (kind : String) (isDigit : Char → Bool) :=
      afterBase kind isDigit (digits.length + 1) digits
    if c = 'x' ∨ c = 'X' then base "hexadecimal" isHexDigit
    else if c = 'o' ∨ c = 'O' then base "octal" fun d => '0' ≤ d && d ≤ '7'
    else if c = 'b' ∨ c = 'B' then base "binary" fun d => d = '0' || d = '1'
    else zeroEnd (c :: digits)
  | '.' :: rest => fractionEnd rest
  | _ :: rest => afterDigits rest >>= wholeEnd
  | [] => .ok []

/-- What a number is: whole, with a fraction or a power of ten, or imaginary. -/
inductive Numeral where
  | whole (n : Nat)
  | real
  | imaginary
  deriving DecidableEq, Repr, Inhabited

def digitValue (c : Char) : Nat :=
  if c.isDigit then c.toNat - '0'.toNat else c.toLower.toNat - 'a'.toNat + 10

/-- The value of digits in a base; underscores do not count. -/
def valueIn (base : Nat) (cs : List Char) : Nat :=
  (cs.filter (· ≠ '_')).foldl (fun n c => base * n + digitValue c) 0

/-- The number that is written in a certain way, if it has not too many digits. -/
def Numeral.ofText (cs : List Char) : Except Decimal.Oversized Numeral :=
  match cs with
  | '0' :: 'x' :: digits | '0' :: 'X' :: digits => .ok (.whole (valueIn 16 digits))
  | '0' :: 'o' :: digits | '0' :: 'O' :: digits => .ok (.whole (valueIn 8 digits))
  | '0' :: 'b' :: digits | '0' :: 'B' :: digits => .ok (.whole (valueIn 2 digits))
  | _ =>
    let digits := cs.filter (· ≠ '_')
    if digits.getLast?.any fun c => c = 'j' || c = 'J' then .ok .imaginary
    else if digits.any fun c => c = '.' || c = 'e' || c = 'E' then .ok .real
    else if digits.all (· = '0') then .ok (.whole 0)
    else (Decimal.readDigits digits).map .whole

/-- The least whole number that no binary fraction of double width comes near. -/
def tooLargeForReal : Nat := ((2 <<< 53) - 1) <<< 970

end LintRelay.Expression
