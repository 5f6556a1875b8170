import Mathlib.Data.List.Basic
import LintRelay.Text.Classes

/-!
# Trimming

What is left after trimming: a text with no blank at either end, which the
dropped blanks surround. The two facts together determine it.
-/

namespace LintRelay.Text

/-- No blank at either end. -/
def Trimmed (cs : List Char) : Prop :=
  (∀ c ∈ cs.head?, isBlank c = false) ∧ ∀ c ∈ cs.getLast?, isBlank c = false

/-- Nothing but blanks. -/
def Blanks (cs : List Char) : Prop :=
  ∀ c ∈ cs, isBlank c = true

instance (cs : List Char) : Decidable (Trimmed cs) :=
  @instDecidableAnd _ _ (Option.decidableForallMem cs.head?)
    (Option.decidableForallMem cs.getLast?)

theorem Blanks.nil : Blanks [] := by
  simp [Blanks]

theorem Blanks.append {a b : List Char} (ha : Blanks a) (hb : Blanks b) : Blanks (a ++ b) := by
  intro c hc
  rcases List.mem_append.mp hc with hc | hc
  · exact ha c hc
  · exact hb c hc

theorem blanks_replicate (n : Nat) : Blanks (List.replicate n ' ') := by
  intro c hc
  rw [List.eq_of_mem_replicate hc]
  decide

/-! ## The start -/

theorem trimStart_append_of_blanks {a : List Char} (ha : Blanks a) (cs : List Char) :
    trimStart (a ++ cs) = trimStart cs := by
  induction a with
  | nil => rfl
  | cons c a ih =>
      have hc : isBlank c = true := ha c List.mem_cons_self
      rw [List.cons_append, trimStart, List.dropWhile_cons, if_pos hc]
      exact ih fun d hd => ha d (List.mem_cons_of_mem _ hd)

theorem trimStart_eq_self {cs : List Char} (h : ∀ c ∈ cs.head?, isBlank c = false) :
    trimStart cs = cs := by
  cases cs with
  | nil => rfl
  | cons c cs => simp [trimStart, h c rfl]

theorem exists_blanks_trimStart (cs : List Char) :
    ∃ a, Blanks a ∧ cs = a ++ trimStart cs ∧ ∀ c ∈ (trimStart cs).head?, isBlank c = false := by
  induction cs with
  | nil => exact ⟨[], Blanks.nil, rfl, by simp [trimStart]⟩
  | cons c cs ih =>
      cases hc : isBlank c with
      | false =>
          have hself : trimStart (c :: cs) = c :: cs := trimStart_eq_self (by simpa using hc)
          rw [hself]
          exact ⟨[], Blanks.nil, rfl, by simpa using hc⟩
      | true =>
          obtain ⟨a, ha, hcs, hhead⟩ := ih
          have hdrop : trimStart (c :: cs) = trimStart cs :=
            trimStart_append_of_blanks (a := [c]) (by simpa [Blanks] using hc) cs
          rw [hdrop]
          refine ⟨c :: a, ?_, by rw [List.cons_append, ← hcs], hhead⟩
          intro d hd
          rcases List.mem_cons.mp hd with rfl | hd
          · exact hc
          · exact ha d hd

/-! ## The end -/

theorem trimEnd_eq_reverse (cs : List Char) : trimEnd cs = (trimStart cs.reverse).reverse :=
  rfl

theorem trimEnd_append_of_blanks {b : List Char} (hb : Blanks b) (cs : List Char) :
    trimEnd (cs ++ b) = trimEnd cs := by
  rw [trimEnd_eq_reverse, List.reverse_append, trimStart_append_of_blanks, ← trimEnd_eq_reverse]
  intro c hc
  exact hb c (List.mem_reverse.mp hc)

theorem trimEnd_eq_self {cs : List Char} (h : ∀ c ∈ cs.getLast?, isBlank c = false) :
    trimEnd cs = cs := by
  rw [trimEnd_eq_reverse, trimStart_eq_self, List.reverse_reverse]
  simpa [List.head?_reverse] using h

theorem exists_blanks_trimEnd (cs : List Char) :
    ∃ b, Blanks b ∧ cs = trimEnd cs ++ b ∧ ∀ c ∈ (trimEnd cs).getLast?, isBlank c = false := by
  obtain ⟨a, ha, hcs, hhead⟩ := exists_blanks_trimStart cs.reverse
  refine ⟨a.reverse, fun c hc => ha c (List.mem_reverse.mp hc), ?_, ?_⟩
  · rw [trimEnd_eq_reverse, ← List.reverse_append, ← hcs, List.reverse_reverse]
  · rw [trimEnd_eq_reverse, List.getLast?_reverse]
    exact hhead

/-- What ends with no blank stays as it is before a text that is trimmed at the end. -/
theorem trimEnd_append {a : List Char} (ha : ∀ c ∈ a.getLast?, isBlank c = false)
    (cs : List Char) : trimEnd (a ++ cs) = a ++ trimEnd cs := by
  obtain ⟨b, hb, hcs, hlast⟩ := exists_blanks_trimEnd cs
  calc trimEnd (a ++ cs) = trimEnd (a ++ trimEnd cs ++ b) := by rw [List.append_assoc, ← hcs]
    _ = trimEnd (a ++ trimEnd cs) := trimEnd_append_of_blanks hb _
    _ = a ++ trimEnd cs := by
        apply trimEnd_eq_self
        intro c hc
        rw [List.getLast?_append] at hc
        rcases Option.or_eq_some_iff.mp hc with hc | ⟨-, hc⟩
        · exact hlast c hc
        · exact ha c hc

/-! ## Both ends -/

theorem trim_eq_self {cs : List Char} (h : Trimmed cs) : trim cs = cs := by
  rw [trim, trimStart_eq_self h.1, trimEnd_eq_self h.2]

/-- Trimming drops blanks and nothing else, and leaves none at the ends. -/
theorem exists_blanks_trim (cs : List Char) :
    ∃ a b, Blanks a ∧ Blanks b ∧ cs = a ++ trim cs ++ b ∧ Trimmed (trim cs) := by
  obtain ⟨a, ha, hcs, hhead⟩ := exists_blanks_trimStart cs
  obtain ⟨b, hb, hrest, hlast⟩ := exists_blanks_trimEnd (trimStart cs)
  refine ⟨a, b, ha, hb, ?_, ?_, hlast⟩
  · rw [List.append_assoc, trim, ← hrest, ← hcs]
  · intro c hc
    apply hhead
    rw [hrest]
    exact List.mem_head?_append_of_mem_head? hc

theorem trimmed_trim (cs : List Char) : Trimmed (trim cs) := by
  obtain ⟨_, _, _, _, _, h⟩ := exists_blanks_trim cs
  exact h

/-- A trimmed text between blanks is what trimming leaves. -/
theorem trim_surrounded {a v b : List Char} (ha : Blanks a) (hv : Trimmed v) (hb : Blanks b) :
    trim (a ++ v ++ b) = v := by
  rw [List.append_assoc, trim, trimStart_append_of_blanks ha]
  cases v with
  | nil =>
      rw [List.nil_append, ← List.append_nil b, trimStart_append_of_blanks hb]
      rfl
  | cons c v =>
      rw [trimStart_eq_self (by simpa using hv.1 c rfl), trimEnd_append_of_blanks hb,
        trimEnd_eq_self hv.2]

theorem trim_append_of_blanks {a b : List Char} (ha : Blanks a) (hb : Blanks b)
    (cs : List Char) : trim (a ++ cs ++ b) = trim cs := by
  obtain ⟨a', b', ha', hb', hcs, htrim⟩ := exists_blanks_trim cs
  calc trim (a ++ cs ++ b) = trim ((a ++ a') ++ trim cs ++ (b' ++ b)) := by
        rw [hcs, trim_surrounded ha' htrim hb']
        simp only [List.append_assoc]
    _ = trim cs := trim_surrounded (ha.append ha') htrim (hb'.append hb)

theorem trim_trimEnd (cs : List Char) : trim (trimEnd cs) = trim cs := by
  obtain ⟨b, hb, hcs, _⟩ := exists_blanks_trimEnd cs
  have h := trim_append_of_blanks Blanks.nil hb (trimEnd cs)
  rw [List.nil_append, ← hcs] at h
  exact h.symm

theorem mem_of_mem_trim {c : Char} {cs : List Char} (h : c ∈ trim cs) : c ∈ cs := by
  obtain ⟨a, b, _, _, hcs, _⟩ := exists_blanks_trim cs
  rw [hcs]
  simp [h]

theorem stripped_eq_self {s : String} (h : Trimmed s.toList) : stripped s = s := by
  rw [stripped, trim_eq_self h, String.ofList_toList]

end LintRelay.Text
