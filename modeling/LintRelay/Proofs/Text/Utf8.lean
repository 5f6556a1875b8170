import Mathlib.Tactic.SplitIfs
import LintRelay.Text.Utf8

/-!
# Reading UTF-8 back

The bytes of a text are read as that text, without a flaw: the first byte of a character
tells how many follow, and each of them lies where it may.
-/

namespace LintRelay.Text.Utf8

/-! ## One character -/

/-- A byte that may come next adds its bits. -/
theorem continued_ofNat {low high x : Nat} (hlow : low ≤ x) (hhigh : x ≤ high) (hx : x < 256)
    (sofar count : Nat) (bytes : List UInt8) :
    continued sofar low high (count + 1) (UInt8.ofNat x :: bytes) =
      continued (sofar * 64 + x % 64) 0x80 0xBF count bytes := by
  rw [continued, UInt8.toNat_ofNat_of_lt' hx, if_pos ⟨hlow, hhigh⟩]

/-- A leading byte hands over to the bytes that it announces. -/
theorem decodeFirst_ofNat {lead count low high : Nat} (hlead : 0x80 ≤ lead) (hlt : lead < 256)
    (h : continuation? lead = some (count, low, high)) (bytes : List UInt8) :
    decodeFirst (UInt8.ofNat lead) bytes =
      continued (leadBits lead count) low high count bytes := by
  rw [decodeFirst, UInt8.toNat_ofNat_of_lt' hlt, if_neg (Nat.not_lt.mpr hlead), h]

theorem continuation?_two {lead : Nat} (hlow : 0xC2 ≤ lead) (hhigh : lead ≤ 0xDF) :
    continuation? lead = some (1, 0x80, 0xBF) :=
  if_pos ⟨hlow, hhigh⟩

/-- Of three bytes the second one is bounded so that no shorter form and no surrogate is told. -/
theorem continuation?_three {lead : Nat} (hlow : 0xE0 ≤ lead) (hhigh : lead ≤ 0xEF) :
    continuation? lead =
      some (2, if lead = 0xE0 then 0xA0 else 0x80, if lead = 0xED then 0x9F else 0xBF) := by
  by_cases hshorter : lead = 0xE0
  · subst hshorter
    rfl
  by_cases hsurrogate : lead = 0xED
  · subst hsurrogate
    rfl
  · rw [continuation?, if_neg (by omega), if_neg hshorter, if_neg hsurrogate,
      if_pos ⟨by omega, hhigh⟩, if_neg hshorter, if_neg hsurrogate]

/-- Of four bytes the second one is bounded so that no shorter form and no number beyond the
last character is told. -/
theorem continuation?_four {lead : Nat} (hlow : 0xF0 ≤ lead) (hhigh : lead ≤ 0xF4) :
    continuation? lead =
      some (3, if lead = 0xF0 then 0x90 else 0x80, if lead = 0xF4 then 0x8F else 0xBF) := by
  by_cases hshorter : lead = 0xF0
  · subst hshorter
    rfl
  by_cases hbeyond : lead = 0xF4
  · subst hbeyond
    rfl
  · rw [continuation?, if_neg (by omega), if_neg (by omega), if_neg (by omega), if_neg (by omega),
      if_neg hshorter, if_pos (by omega), if_neg hshorter, if_neg hbeyond]

theorem leadBits_two (lead : Nat) : leadBits lead 1 = lead % 32 :=
  rfl

theorem leadBits_three (lead : Nat) : leadBits lead 2 = lead % 16 :=
  rfl

theorem leadBits_four (lead : Nat) : leadBits lead 3 = lead % 8 :=
  rfl

/-- **The bytes of a character are read as the character**, whatever follows them. -/
theorem decodeFirst_encodeChar (c : Char) (rest : List UInt8) :
    ∃ b bytes, String.utf8EncodeChar c = b :: bytes ∧
      decodeFirst b (bytes ++ rest) = (some c, rest) := by
  have hvalid : c.val.toNat < 0xD800 ∨ 0xDFFF < c.val.toNat ∧ c.val.toNat < 0x110000 := c.valid
  have hread {n : Nat} (h : n = c.val.toNat) :
      continued n 0x80 0xBF 0 rest = (some c, rest) := by
    rw [continued, h, ← Char.toNat, Char.ofNat_toNat]
  unfold String.utf8EncodeChar
  generalize c.val.toNat = v at hvalid hread ⊢
  -- the length of the form settles the bounds of its bytes
  by_cases hone : v ≤ 0x7F
  · have htoNat : (UInt8.ofNat v).toNat = v :=
      UInt8.toNat_ofNat_of_lt' (show v < 256 by omega)
    refine ⟨_, _, if_pos hone, ?_⟩
    rw [decodeFirst, htoNat, if_pos (by omega)]
    exact hread rfl
  by_cases htwo : v ≤ 0x7FF
  · refine ⟨_, _, (if_neg hone).trans (if_pos htwo), ?_⟩
    rw [decodeFirst_ofNat (by omega) (by omega) (continuation?_two (by omega) (by omega)),
      List.singleton_append, continued_ofNat (by omega) (by omega) (by omega), leadBits_two]
    exact hread (by omega)
  by_cases hthree : v ≤ 0xFFFF
  · refine ⟨_, _, (if_neg hone).trans ((if_neg htwo).trans (if_pos hthree)), ?_⟩
    rw [decodeFirst_ofNat (by omega) (by omega) (continuation?_three (by omega) (by omega)),
      List.cons_append, List.singleton_append,
      continued_ofNat (by split_ifs <;> omega) (by split_ifs <;> omega) (by omega),
      continued_ofNat (by omega) (by omega) (by omega), leadBits_three]
    exact hread (by omega)
  · refine ⟨_, _, (if_neg hone).trans ((if_neg htwo).trans (if_neg hthree)), ?_⟩
    rw [decodeFirst_ofNat (by omega) (by omega) (continuation?_four (by omega) (by omega)),
      List.cons_append, List.cons_append, List.singleton_append,
      continued_ofNat (by split_ifs <;> omega) (by split_ifs <;> omega) (by omega),
      continued_ofNat (by omega) (by omega) (by omega),
      continued_ofNat (by omega) (by omega) (by omega), leadBits_four]
    exact hread (by omega)

/-! ## Texts -/

/-- **The bytes of a text are read as the text**, without a flaw. -/
theorem decode_encode (cs : List Char) : decode (encode cs) = cs.map some := by
  induction cs with
  | nil => rw [encode, List.flatMap_nil, decode, List.map_nil]
  | cons c cs ih =>
      obtain ⟨b, bytes, hbytes, hfirst⟩ := decodeFirst_encodeChar c (encode cs)
      rw [encode, List.flatMap_cons, hbytes, List.cons_append, ← encode, decode]
      simp only [hfirst, ih, List.map_cons]

theorem decodeReplacing_encode (cs : List Char) : decodeReplacing (encode cs) = cs := by
  rw [decodeReplacing, decode_encode, List.map_map]
  exact List.map_id cs

end LintRelay.Text.Utf8
