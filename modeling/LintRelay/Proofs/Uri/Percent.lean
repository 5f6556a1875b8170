import Mathlib.Data.List.TakeWhile
import LintRelay.Proofs.Text.Utf8
import LintRelay.Uri.Percent

/-!
# Percent-encoding a text

An encoded text holds nothing but characters that are never encoded, percent signs and
digits, and decoding it gives the text.
-/

namespace LintRelay.Uri

open LintRelay.Text

/-! ## Encoded bytes -/

/-- A character that an encoded text may hold. -/
def IsEncoded (c : Char) : Prop :=
  isUnreserved c = true ∨ c = '%'

instance (c : Char) : Decidable (IsEncoded c) :=
  inferInstanceAs (Decidable (_ ∨ _))

/-- A byte is written as it is, or as a percent sign with its two digits. -/
theorem encodeByte_cases (b : UInt8) :
    (b.toNat < 0x80 ∧ isUnreserved (Char.ofNat b.toNat) = true ∧
      encodeByte b = [Char.ofNat b.toNat]) ∨
    encodeByte b =
      ['%', (b.toNat / 16 % 16).digitChar.toUpper, (b.toNat % 16).digitChar.toUpper] := by
  unfold encodeByte
  by_cases h : b.toNat < 0x80 ∧ isUnreserved (Char.ofNat b.toNat) = true
  · exact .inl ⟨h.1, h.2, if_pos h⟩
  · exact .inr (if_neg h)

/-- The digits of an encoded byte are never encoded themselves, and are read back. -/
theorem digitChar_toUpper {d : Nat} (h : d < 16) :
    isUnreserved d.digitChar.toUpper = true ∧ hexValue? d.digitChar.toUpper = some d := by
  have hall : ∀ d < 16, isUnreserved d.digitChar.toUpper = true ∧
      hexValue? d.digitChar.toUpper = some d := by
    decide
  exact hall d h

theorem isEncoded_of_mem_encodeByte {b : UInt8} {c : Char} (h : c ∈ encodeByte b) :
    IsEncoded c := by
  rcases encodeByte_cases b with ⟨-, hkept, heq⟩ | heq
  · rw [heq, List.mem_singleton] at h
    exact .inl (h ▸ hkept)
  · simp only [heq, List.mem_cons, List.not_mem_nil, or_false] at h
    rcases h with rfl | rfl | rfl
    · exact .inr rfl
    · exact .inl (digitChar_toUpper (Nat.mod_lt _ (by decide))).1
    · exact .inl (digitChar_toUpper (Nat.mod_lt _ (by decide))).1

/-- **An encoded text holds no other characters.** -/
theorem isEncoded_of_mem_encode {s : String} {c : Char} (h : c ∈ (encode s).toList) :
    IsEncoded c := by
  rw [encode, String.toList_ofList, List.mem_flatMap] at h
  obtain ⟨b, -, hc⟩ := h
  exact isEncoded_of_mem_encodeByte hc

theorem isAscii_of_isAlphanum {c : Char} (h : c.isAlphanum = true) : isAscii c = true := by
  unfold Char.isAlphanum Char.isAlpha Char.isUpper Char.isLower Char.isDigit at h
  simp only [Bool.or_eq_true, Bool.and_eq_true, decide_eq_true_eq, UInt32.le_iff_toNat_le] at h
  have hbound : c.val.toNat ≤ 0x7A := by
    rcases h with (⟨-, h⟩ | ⟨-, h⟩) | ⟨-, h⟩
    · exact Nat.le_trans h (by decide)
    · exact Nat.le_trans h (by decide)
    · exact Nat.le_trans h (by decide)
  exact decide_eq_true (Nat.lt_of_le_of_lt hbound (by decide))

theorem IsEncoded.isAscii {c : Char} (h : IsEncoded c) : isAscii c = true := by
  rcases h with h | rfl
  · simp only [isUnreserved, Bool.or_eq_true, beq_iff_eq] at h
    rcases h with ((((h | rfl) | rfl) | rfl) | rfl) | rfl
    · exact isAscii_of_isAlphanum h
    all_goals decide
  · decide

/-! ## Decoding -/

theorem decodeBytes_of_ne {c : Char} (h : c ≠ '%') (rest : List Char) :
    decodeBytes (c :: rest) = UInt8.ofNat c.toNat :: decodeBytes rest := by
  rw [decodeBytes]
  rintro _ _ _ rfl
  exact absurd rfl h

theorem decodeBytes_percent {a b : Char} {byte : UInt8} (h : byte? a b = some byte)
    (rest : List Char) : decodeBytes ('%' :: a :: b :: rest) = byte :: decodeBytes rest := by
  rw [decodeBytes, h]

theorem byte?_digits (b : UInt8) :
    byte? (b.toNat / 16 % 16).digitChar.toUpper (b.toNat % 16).digitChar.toUpper = some b := by
  have hlt : b.toNat < 256 := b.toNat_lt
  have hvalue : b.toNat / 16 % 16 * 16 + b.toNat % 16 = b.toNat := by omega
  simp only [byte?, (digitChar_toUpper (Nat.mod_lt _ (by decide : 0 < 16))).2,
    Option.bind_eq_bind, Option.bind_some, Option.pure_def, hvalue, UInt8.ofNat_toNat]

theorem decodeBytes_encodeByte (b : UInt8) (rest : List Char) :
    decodeBytes (encodeByte b ++ rest) = b :: decodeBytes rest := by
  rcases encodeByte_cases b with ⟨hlow, hkept, heq⟩ | heq
  · have hne : Char.ofNat b.toNat ≠ '%' := by
      intro hpercent
      rw [hpercent] at hkept
      exact absurd hkept (by decide)
    have hall : ∀ n < 0x80, (Char.ofNat n).toNat = n := by decide
    rw [heq, List.singleton_append, decodeBytes_of_ne hne, hall _ hlow, UInt8.ofNat_toNat]
  · rw [heq]
    exact decodeBytes_percent (byte?_digits b) rest

theorem decodeBytes_flatMap_encodeByte (bytes : List UInt8) :
    decodeBytes (bytes.flatMap encodeByte) = bytes := by
  induction bytes with
  | nil => rfl
  | cons b bytes ih => rw [List.flatMap_cons, decodeBytes_encodeByte, ih]

theorem decodeChars_of_isAscii {cs : List Char} (h : ∀ c ∈ cs, isAscii c = true) :
    decodeChars cs = Utf8.decodeReplacing (decodeBytes cs) := by
  cases cs with
  | nil => rw [decodeChars, decodeBytes, Utf8.decodeReplacing, Utf8.decode, List.map_nil]
  | cons c rest =>
      have hrest : ∀ d ∈ rest, isAscii d = true := fun d hd => h d (List.mem_cons_of_mem _ hd)
      rw [decodeChars, if_pos (h c List.mem_cons_self), List.takeWhile_eq_self_iff.mpr hrest,
        List.dropWhile_eq_nil_iff.mpr hrest, decodeChars, List.append_nil]

/-- **Decoding an encoded text gives the text.** -/
theorem decode_encode (s : String) : decode (encode s) = s := by
  have hascii : ∀ c ∈ (encode s).toList, isAscii c = true :=
    fun c hc => (isEncoded_of_mem_encode hc).isAscii
  rw [decode, decodeChars_of_isAscii hascii, encode, String.toList_ofList,
    decodeBytes_flatMap_encodeByte, Utf8.decodeReplacing_encode, String.ofList_toList]

end LintRelay.Uri
