import LintRelay.Proofs.Schema.Keeping

/-!
# What reading comes to

Whatever is refused is said to be wrong in some way. So a record that is read has in every field
what its entry is read as, or the default where there is no entry.
-/

namespace LintRelay.Schema

open LintRelay

/-! ## Refusals -/

section

variable {α β : Type} {v : Value}

/-- A value is accepted, or something is said to be wrong with it. -/
def Explained (c : Checked α) : Prop :=
  c ≠ .error []

theorem explained_ok (a : α) : Explained (.ok a) :=
  nofun

theorem explained_reject (p : Problem) : Explained (reject p : Checked α) := by
  intro h
  cases Except.error.inj h

theorem Explained.bind {c : Checked α} {f : α → Checked β} (h : Explained c)
    (hf : ∀ a, Explained (f a)) : Explained (c >>= f) := by
  cases c with
  | ok a => exact hf a
  | error issues => exact fun hnil => h (congrArg Except.error (Except.error.inj hnil))

theorem Explained.map {c : Checked α} (f : α → β) (h : Explained c) : Explained (c.map f) :=
  h.bind fun a => explained_ok (f a)

theorem explained_ite {c : Prop} [Decidable c] {x y : Checked α} (hx : Explained x)
    (hy : Explained y) : Explained (if c then x else y) := by
  split
  · exact hx
  · exact hy

theorem explained_int (v : Value) : Explained (int v) := by
  have hfloat : ∀ x, Explained (intOfFloat x) := by
    intro x
    unfold intOfFloat
    split
    · split
      · exact explained_reject _
      · exact explained_ite (explained_ok _) (explained_reject _)
    · exact explained_reject _
  have htext : ∀ s, Explained (intOfText s) := by
    intro s
    refine explained_ite (explained_reject _) ?_
    split
    · exact explained_ok _
    · exact explained_reject _
  cases v with
  | int => exact explained_ok _
  | bool => exact explained_ok _
  | float x => exact hfloat x
  | text s => exact htext s
  | _ => exact explained_reject _

theorem explained_float (v : Value) : Explained (float v) := by
  have htext : ∀ s, Explained (floatOfText s) := by
    intro s
    unfold floatOfText
    dsimp only
    split
    · exact explained_ok _
    · exact explained_reject _
  cases v with
  | float => exact explained_ok _
  | int => exact explained_ite (explained_ok _) (explained_reject _)
  | bool => exact explained_ok _
  | text s => exact htext s
  | _ => exact explained_reject _

theorem explained_bool (v : Value) : Explained (bool v) := by
  have hint : ∀ n, Explained (boolOfInt n) := fun n =>
    explained_ite (explained_ok _) (explained_ite (explained_ok _)
      (explained_ite (explained_reject _) (explained_reject _)))
  cases v with
  | bool => exact explained_ok _
  | int n => exact hint n
  | float x =>
    rw [bool]
    split
    · exact hint _
    · exact explained_reject _
  | text s =>
    exact explained_ite (explained_ok _) (explained_ite (explained_ok _) (explained_reject _))
  | _ => exact explained_reject _

theorem explained_text (v : Value) : Explained (text v) := by
  cases v with
  | text => exact explained_ok _
  | _ => exact explained_reject _

theorem explained_optional {decode : Value → Checked α} (h : ∀ v, Explained (decode v))
    (v : Value) : Explained (optional decode v) := by
  cases v with
  | null => exact explained_ok _
  | _ => exact (h _).map some

theorem explained_choice (choices : List (String × α)) (v : Value) :
    Explained (choice choices v) := by
  cases v with
  | text s =>
    rw [choice]
    split
    · exact explained_ok _
    · exact explained_reject _
  | _ => exact explained_reject _

theorem explained_intFrom (low : Nat) (v : Value) : Explained (intFrom low v) :=
  (explained_int v).bind fun _ => explained_ite (explained_ok _) (explained_reject _)

theorem explained_nonNegative (v : Value) : Explained (nonNegative v) :=
  (explained_float v).bind fun _ => explained_ite (explained_ok _) (explained_reject _)

theorem explained_fromZeroToTwo (v : Value) : Explained (fromZeroToTwo v) :=
  (explained_float v).bind fun _ =>
    explained_ite (explained_reject _) (explained_ite (explained_ok _) (explained_reject _))

theorem Explained.within {c : Checked α} (h : Explained c) (s : Step) :
    Explained (c.within s) := by
  cases c with
  | ok a => exact explained_ok a
  | error issues =>
    intro hnil
    have hissues := List.map_eq_nil_iff.1 (Except.error.inj hnil)
    exact h (congrArg Except.error hissues)

theorem explained_itemsFrom {decode : Value → Checked α} (h : ∀ v, Explained (decode v))
    (index : Nat) (items : List Value) : Explained (itemsFrom decode index items) := by
  induction items generalizing index with
  | nil => exact explained_ok _
  | cons v rest ih =>
    have hfirst := (h v).within (.item index)
    have hrest := ih (index + 1)
    rw [itemsFrom]
    split
    · exact explained_ok _
    · rename_i heq
      rwa [heq] at hrest
    · rename_i heq _
      rw [heq] at hfirst
      exact fun hnil => hfirst (congrArg Except.error (Except.error.inj hnil))
    · rename_i heq _
      rw [heq] at hfirst
      intro hnil
      have hboth := List.append_eq_nil_iff.1 (Except.error.inj hnil)
      exact hfirst (congrArg Except.error hboth.1)

theorem explained_listOf {decode : Value → Checked α} (h : ∀ v, Explained (decode v))
    (other : Problem) (v : Value) : Explained (listOf other decode v) := by
  cases v with
  | list items => exact explained_itemsFrom h 0 items
  | _ => exact explained_reject _

theorem explained_decode (r : Record α) (v : Value) : Explained (r.decode v) := by
  cases v with
  | table entries =>
    rw [Record.decode]
    split
    · exact explained_ok _
    · rename_i hissues _
      exact fun hnil => hissues (Except.error.inj hnil)
  | _ => exact explained_reject _

end

/-! ## Records -/

section

variable {α β : Type} {entries : List (String × Value)} {fields : List (Field α)} {a b : α}
  {name : String} {decode : Value → Checked β} {put : β → α → α} {issues : List Issue}

/-- Filling fields one after another leads from one record to another, and nothing is wrong. -/
def Fills (entries : List (String × Value)) (fields : List (Field α)) (a b : α) : Prop :=
  fields.foldl (Record.fill entries) (a, []) = (b, [])

/-- A field of a record is what its entry is read as, or the default if there is no entry. -/
def FieldRead (entries : List (String × Value)) (name : String) (decode : Value → Checked β)
    (initial x : β) : Prop :=
  match Value.lookup entries name with
  | none => x = initial
  | some v => decode v = .ok x

theorem fills_nil (h : Fills entries [] a b) : a = b :=
  (Prod.mk.inj h).1

theorem fill_given_none (h : Value.lookup entries name = none) :
    Record.fill entries (a, issues) (.given name decode put) = (a, issues) := by
  simp only [Record.fill, show (Field.given name decode put).name = name from rfl, h]
  rfl

theorem fill_given_error {v : Value} {found : List Issue} (h : Value.lookup entries name = some v)
    (hdecode : decode v = .error found) :
    Record.fill entries (a, issues) (.given name decode put) =
      (a, issues ++ found.map fun i => { i with path := .field name :: i.path }) := by
  have hset : (Field.given name decode put).set v a =
      .error (found.map fun i => { i with path := .field name :: i.path }) := by
    simp only [Field.given, hdecode]
    rfl
  simp only [Record.fill, show (Field.given name decode put).name = name from rfl, h, hset]

/-- What is wrong with a field is still known when the others have been filled. -/
theorem eq_nil_of_foldl_fill (h : fields.foldl (Record.fill entries) (a, issues) = (b, [])) :
    issues = [] := by
  induction fields generalizing a issues with
  | nil => exact (Prod.mk.inj h).2
  | cons f fields ih =>
    rw [List.foldl_cons] at h
    unfold Record.fill at h
    split at h
    · split at h
      · exact (List.append_eq_nil_iff.1 (ih h)).1
      · exact ih h
    · split at h
      · exact ih h
      · exact (List.append_eq_nil_iff.1 (ih h)).1

theorem fills_of_decode {r : Record α} (h : r.decode (.table entries) = .ok a) :
    Fills entries r.fields r.initial a := by
  rw [Record.decode] at h
  split at h
  · rename_i hresult
    rw [Fills, hresult, Except.ok.inj h]
  · cases h

theorem exists_table_of_decode {r : Record α} {v : Value} (h : r.decode v = .ok a) :
    ∃ entries, v = .table entries := by
  cases v with
  | table entries => exact ⟨entries, rfl⟩
  | _ => cases h

/-- Filling a field puts something into it, and goes on with the others. -/
theorem Fills.given (get : α → β) (hget : ∀ a, put (get a) a = a)
    (hdecode : ∀ v, Explained (decode v))
    (h : Fills entries (.given name decode put :: fields) a b) :
    ∃ x, FieldRead entries name decode (get a) x ∧ Fills entries fields (put x a) b := by
  rw [Fills, List.foldl_cons] at h
  unfold FieldRead
  cases hlookup : Value.lookup entries name with
  | none =>
    rw [fill_given_none hlookup] at h
    exact ⟨get a, rfl, (hget a).symm ▸ h⟩
  | some v =>
    cases hread : decode v with
    | ok x =>
      rw [fill_given hlookup hread] at h
      exact ⟨x, hread, h⟩
    | error found =>
      rw [fill_given_error hlookup hread] at h
      -- what is wrong with the entry would be left in the end
      have hnil := List.map_eq_nil_iff.1 (eq_nil_of_foldl_fill h)
      exact absurd (hnil ▸ hread) (hdecode v)

end

end LintRelay.Schema
