import LintRelay.Decimal.Numeral
import Mathlib.Data.List.Basic

/-!
# What readers leave

A reader takes something from the start of a text, so what it leaves is an end of that text.
That is what carries a failure from the place where it happens to the whole text.
-/

namespace LintRelay.Text

/-- What failures say of a text holds of every text that ends with it. -/
class Carried {ε σ : Type} (arises : List σ → ε → Prop) : Prop where
  mono {e : ε} {cs ds : List σ} (h : arises cs e) (hends : cs <:+ ds) : arises ds e

/-- How a reader may come out of a text; `rest` is what it leaves. -/
def Leaves {ε σ α : Type} (arises : List σ → ε → Prop) (cs : List σ) (rest : α → List σ) :
    Except ε α → Prop
  | .ok a => rest a <:+ cs
  | .error e => arises cs e

section

variable {ε σ α β : Type} {arises : List σ → ε → Prop} {cs ds : List σ}
  {rest : α → List σ} {left : β → List σ}

theorem leaves_pure {a : α} (h : rest a <:+ cs) : Leaves arises cs rest (pure a) :=
  h

/-- What holds of an end of a text holds of the text. -/
theorem Leaves.mono [Carried arises] {r : Except ε α} (h : Leaves arises cs rest r)
    (hends : cs <:+ ds) : Leaves arises ds rest r := by
  match r, h with
  | .ok _, h => exact h.trans hends
  | .error _, h => exact Carried.mono h hends

theorem Leaves.bind [Carried arises] {r : Except ε α} {f : α → Except ε β}
    (h : Leaves arises cs rest r) (hf : ∀ a, rest a <:+ cs → Leaves arises (rest a) left (f a)) :
    Leaves arises cs left (r >>= f) := by
  match r, h with
  | .ok a, h => exact (hf a h).mono h
  | .error _, h => exact h

theorem leaves_consed [Carried arises] {τ : Type} {r : Except ε (List τ × List σ)} (c : τ)
    (h : Leaves arises cs Prod.snd r) :
    Leaves arises cs Prod.snd (do
      let (body, after) ← r
      return (c :: body, after)) :=
  h.bind fun _ _ => leaves_pure List.suffix_rfl

/-! ## Attempts -/

theorem suffix_of_some {a : α} (h : rest a <:+ cs) : ∀ b ∈ some a, rest b <:+ cs := by
  intro b hb
  rwa [← Option.some.inj hb]

theorem suffix_of_bind (rest : α → List σ) {r : Option α} {f : α → Option β}
    (h : ∀ a ∈ r, rest a <:+ cs) (hf : ∀ a, ∀ b ∈ f a, left b <:+ rest a) :
    ∀ b ∈ r >>= f, left b <:+ cs := by
  intro b hb
  obtain ⟨a, ha, hb⟩ := Option.mem_bind_iff.1 hb
  exact (hf a b hb).trans (h a ha)

/-- What is left after what may come is an end of the text as well. -/
theorem getD_suffix {r : Option (α × List σ)} (h : ∀ a ∈ r, a.2 <:+ cs) :
    (r.map (·.2)).getD cs <:+ cs := by
  cases r with
  | none => exact List.suffix_rfl
  | some a => exact h a rfl

end

end LintRelay.Text

namespace LintRelay.Decimal

theorem digits_of_oversized {digits : List Char} {numeral : Oversized}
    (h : readDigits digits = .error numeral) :
    maxDigits < digits.length ∧ numeral.digits = digits.length := by
  unfold readDigits at h
  split at h
  · cases h
  · rename_i hlong
    injection h with h
    exact ⟨Nat.lt_of_not_le hlong, congrArg Oversized.digits h.symm⟩

end LintRelay.Decimal
