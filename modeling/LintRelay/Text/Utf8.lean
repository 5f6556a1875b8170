/-!
# UTF-8

Decoding bytes as a list of characters and flaws. A flaw is the longest start of
a well-formed sequence that is not continued, or a single byte that starts none.
-/

namespace LintRelay.Text.Utf8

def encode (cs : List Char) : List UInt8 :=
  cs.flatMap String.utf8EncodeChar

/-- The bytes that may follow a leading byte: how many, and the bounds of the
first of them; the others lie between `80` and `BF`. -/
def continuation? (lead : Nat) : Option (Nat × Nat × Nat) :=
  if 0xC2 ≤ lead ∧ lead ≤ 0xDF then some (1, 0x80, 0xBF)
  else if lead = 0xE0 then some (2, 0xA0, 0xBF)
  else if lead = 0xED then some (2, 0x80, 0x9F)
  else if 0xE1 ≤ lead ∧ lead ≤ 0xEF then some (2, 0x80, 0xBF)
  else if lead = 0xF0 then some (3, 0x90, 0xBF)
  else if 0xF1 ≤ lead ∧ lead ≤ 0xF3 then some (3, 0x80, 0xBF)
  else if lead = 0xF4 then some (3, 0x80, 0x8F)
  else none

/-- Read `count` more bytes of a sequence, the first between `low` and `high`;
`sofar` is what the bytes before denote. -/
def continued (sofar low high : Nat) : (count : Nat) → List UInt8 → Option Char × List UInt8
  | 0, bytes => (some (Char.ofNat sofar), bytes)
  | _ + 1, [] => (none, [])
  | count + 1, b :: bytes =>
    if low ≤ b.toNat ∧ b.toNat ≤ high then
      continued (sofar * 64 + b.toNat % 64) 0x80 0xBF count bytes
    else
      (none, b :: bytes)

/-- The bits of a leading byte that belong to the character. -/
def leadBits (lead count : Nat) : Nat :=
  lead % Nat.pow 2 (6 - count)

/-- The first character, or `none` for a flaw, and the bytes after it. -/
def decodeFirst (b : UInt8) (bytes : List UInt8) : Option Char × List UInt8 :=
  if b.toNat < 0x80 then
    (some (Char.ofNat b.toNat), bytes)
  else
    match continuation? b.toNat with
    | none => (none, bytes)
    | some (count, low, high) => continued (leadBits b.toNat count) low high count bytes

theorem continued_length (sofar low high count : Nat) (bytes : List UInt8) :
    (continued sofar low high count bytes).2.length ≤ bytes.length := by
  induction bytes generalizing sofar low high count with
  | nil => cases count <;> simp [continued]
  | cons b bytes ih =>
    cases count with
    | zero => simp [continued]
    | succ count =>
      simp only [continued]
      split
      · exact Nat.le_trans (ih _ _ _ _) (by simp)
      · simp

theorem decodeFirst_length (b : UInt8) (bytes : List UInt8) :
    (decodeFirst b bytes).2.length ≤ bytes.length := by
  unfold decodeFirst
  split
  · simp
  · split
    · simp
    · exact continued_length ..

def decode : List UInt8 → List (Option Char)
  | [] => []
  | b :: bytes =>
    match _first : decodeFirst b bytes with
    | (c, rest) => c :: decode rest
termination_by bytes => bytes.length
decreasing_by
  have := decodeFirst_length b bytes
  simp only [_first] at this
  simp only [List.length_cons]
  omega

def decode? (bytes : List UInt8) : Option (List Char) :=
  (decode bytes).mapM id

def decodeReplacing (bytes : List UInt8) : List Char :=
  (decode bytes).map (·.getD '\uFFFD')

def decodeSkipping (bytes : List UInt8) : List Char :=
  (decode bytes).filterMap id

end LintRelay.Text.Utf8
