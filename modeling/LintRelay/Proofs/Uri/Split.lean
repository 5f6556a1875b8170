import Mathlib.Tactic.SplitIfs
import LintRelay.Proofs.Results
import LintRelay.Uri.Split

/-!
# Cutting a URI

A text is cut into the parts of a URI as far as its host part could be one. Blanks and
controls at the front do not count, nor do tabs and line breaks; a name before the first
colon is the scheme, and two slashes announce the host part.
-/

namespace LintRelay.Uri

/-- A text without what no part of a URI holds. -/
def cleaned (s : String) : List Char :=
  (s.toList.dropWhile (·.toNat ≤ 0x20)).filter fun c => c ≠ '\t' ∧ c ≠ '\r' ∧ c ≠ '\n'

/-- A host part with brackets only around an address, and without a character that could be
taken for the end of it. -/
def IsHost (host : List Char) : Prop :=
  checkBrackets host = .ok () ∧ ∀ c ∈ host, c.toNat ∉ lookalikes

/-- The host part of a text, whether it could be one or not. -/
def hostOf (s : String) : List Char :=
  (splitHost (splitScheme (cleaned s)).2).1

/-- The parts of a text that is cut. -/
def partsOf (s : String) : Parts where
  scheme := String.ofList (splitScheme (cleaned s)).1
  host := String.ofList (hostOf s)
  path := String.ofList
    ((splitHost (splitScheme (cleaned s)).2).2.takeWhile fun c => c ≠ '#' ∧ c ≠ '?')

theorem split_eq (s : String) :
    split s = checkBrackets (hostOf s) >>= fun _ =>
      if (hostOf s).any (·.toNat ∈ lookalikes) then .error (.lookalike (String.ofList (hostOf s)))
      else .ok (partsOf s) :=
  rfl

/-- Only the host part keeps a text from being cut. -/
theorem split_eq_ok_iff {s : String} {parts : Parts} :
    split s = .ok parts ↔ IsHost (hostOf s) ∧ parts = partsOf s := by
  have hnone : ¬(hostOf s).any (·.toNat ∈ lookalikes) ↔ ∀ c ∈ hostOf s, c.toNat ∉ lookalikes := by
    simp
  rw [split_eq, IsHost, bind_eq_ok_iff, ← hnone]
  constructor
  · rintro ⟨_, hbrackets, h⟩
    split_ifs at h with hany
    exact ⟨⟨hbrackets, hany⟩, (Except.ok.inj h).symm⟩
  · rintro ⟨⟨hbrackets, hany⟩, rfl⟩
    exact ⟨(), hbrackets, if_neg hany⟩

/-- A name and a colon begin the text, and the name is its scheme; or it has none. -/
theorem splitScheme_cases (cs : List Char) :
    splitScheme cs = ([], cs) ∨
      ∃ name rest, cs = name ++ ':' :: rest ∧ splitScheme cs = (name.map Char.toLower, rest) := by
  rw [splitScheme]
  split
  · rename_i rest hdrop
    split_ifs
    · refine .inr ⟨cs.takeWhile (· ≠ ':'), rest, ?_, rfl⟩
      rw [← hdrop, List.takeWhile_append_dropWhile]
    · exact .inl rfl
  · exact .inl rfl

theorem splitScheme_append {name rest : List Char} (hne : name ≠ [])
    (h : ∀ c ∈ name, c.isAlpha = true) :
    splitScheme (name ++ ':' :: rest) = (name.map Char.toLower, rest) := by
  have hcolon : ∀ c ∈ name, decide (c ≠ ':') = true := by
    intro c hc
    rw [decide_eq_true_iff]
    rintro rfl
    exact absurd (h _ hc) (by decide)
  have htake : (name ++ ':' :: rest).takeWhile (· ≠ ':') = name := by
    rw [List.takeWhile_append_of_pos hcolon]
    simp
  have hdrop : (name ++ ':' :: rest).dropWhile (· ≠ ':') = ':' :: rest := by
    rw [List.dropWhile_append_of_pos hcolon]
    simp
  have hhead : name.head?.any Char.isAlpha = true := by
    cases name with
    | nil => exact absurd rfl hne
    | cons c cs => exact h c List.mem_cons_self
  have hall : name.all isSchemeChar = true :=
    List.all_eq_true.mpr fun c hc => by simp [isSchemeChar, Char.isAlphanum, h c hc]
  simp only [splitScheme, htake, hdrop, hhead, hall, Bool.and_self, if_true]

end LintRelay.Uri
