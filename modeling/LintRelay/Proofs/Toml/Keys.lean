import LintRelay.Proofs.Toml.Remainders
import LintRelay.Proofs.Value.Paths

/-!
# The keys of tables that are read

No key of a table is given twice: a reader sets an entry only where there is none, or changes
the table that stands there. So the tables of what is read have different keys, whatever the
text is.
-/

namespace LintRelay.Toml

open LintRelay

/-- A reader that comes to an end comes to something with a property. -/
def Yields {α : Type} (P : α → Prop) : Except ReadError α → Prop
  | .ok a => P a
  | .error _ => True

section

variable {α β : Type} {P : α → Prop} {Q : β → Prop}

theorem yields_malformed : Yields P malformed :=
  trivial

theorem yields_pure {a : α} (h : P a) : Yields P (pure a) :=
  h

theorem Yields.bind {r : Except ReadError α} {f : α → Except ReadError β} (h : Yields P r)
    (hf : ∀ a, P a → Yields Q (f a)) : Yields Q (r >>= f) := by
  match r, h with
  | .ok a, h => exact hf a h
  | .error _, _ => exact trivial

/-- Nothing need be known of a reader for what comes after it. -/
theorem yields_bind (r : Except ReadError α) {f : α → Except ReadError β}
    (hf : ∀ a, Yields Q (f a)) : Yields Q (r >>= f) := by
  match r with
  | .ok a => exact hf a
  | .error _ => exact trivial

theorem forall_mem_bind (r : Option α) {f : α → Option β} (hf : ∀ a, ∀ b ∈ f a, Q b) :
    ∀ b ∈ r >>= f, Q b := by
  intro b hb
  obtain ⟨a, -, hb⟩ := Option.mem_bind_iff.1 hb
  exact hf a b hb

end

/-! ## Tables inside tables -/

section

variable {change : Entries → Option Entries} {entries entries' : Entries}

/-- A change that keeps the keys of tables different. -/
def KeepsDistinct (change : Entries → Option Entries) : Prop :=
  ∀ entries entries', (Value.table entries).Distinct → change entries = some entries' →
    (Value.table entries').Distinct

theorem keepsDistinct_addEntry {v : Value} (k : String) (hv : v.Distinct) :
    KeepsDistinct (addEntry k v) := by
  intro entries entries' h hadd
  unfold addEntry at hadd
  split at hadd
  · cases hadd
  · exact Option.some.inj hadd ▸ h.insert hv

theorem keepsDistinct_addToList (k : String) : KeepsDistinct (addToList k) := by
  intro entries entries' h hadd
  unfold addToList at hadd
  split at hadd
  · exact Option.some.inj hadd ▸ h.insert (Value.distinct_of_not_table rfl)
  · exact Option.some.inj hadd ▸ h.insert (Value.distinct_of_not_table rfl)
  · cases hadd

/-- What is changed at a key stands where nothing stood, or where what it was changed from
stood. -/
theorem KeepsDistinct.changeNest (hchange : KeepsDistinct change) (throughLists : Bool)
    (k : Key) : KeepsDistinct (changeNest throughLists change k) := by
  induction k with
  | nil => exact hchange
  | cons part ks ih =>
    intro entries entries' h hnest
    unfold Toml.changeNest at hnest
    split at hnest
    · obtain ⟨inner, hinner, hset⟩ := Option.bind_eq_some_iff.1 hnest
      exact Option.some.inj hset ▸ h.insert (ih _ _ Value.distinct_empty hinner)
    · rename_i below hbelow
      obtain ⟨inner, hinner, hset⟩ := Option.bind_eq_some_iff.1 hnest
      exact Option.some.inj hset ▸ h.insert (ih _ _ (h.lookup hbelow) hinner)
    · split at hnest
      · split at hnest
        · -- the table is inside a list, where no path of keys leads
          obtain ⟨inner, -, hset⟩ := Option.bind_eq_some_iff.1 hnest
          exact Option.some.inj hset ▸ h.insert (Value.distinct_of_not_table rfl)
        · cases hnest
      · cases hnest
    · cases hnest

end

/-! ## Values -/

theorem scalar_yields (cs : List Char) : Yields (fun a => a.1.isTable = false) (scalar cs) := by
  have hdate : ∀ r ∈ dateTime? cs, Yields (fun a => a.1.isTable = false) r := by
    unfold dateTime?
    refine forall_mem_bind _ fun year => forall_mem_bind _ fun rest =>
      forall_mem_bind _ fun month => forall_mem_bind _ fun rest => forall_mem_bind _ fun day => ?_
    intro r hr
    dsimp only at hr
    split at hr
    · exact Option.some.inj hr ▸ yields_malformed
    · split at hr
      · exact Option.some.inj hr ▸ yields_pure rfl
      · exact Option.some.inj hr ▸ yields_pure rfl
  have hdecimal : ∀ r ∈ decimalNumber? cs, Yields (fun a => a.1.isTable = false) r := by
    unfold decimalNumber?
    refine forall_mem_bind _ fun whole => ?_
    intro r hr
    dsimp only at hr
    split at hr
    · split at hr
      · exact Option.some.inj hr ▸ trivial
      · exact Option.some.inj hr ▸ yields_pure rfl
    · exact Option.some.inj hr ▸ yields_pure rfl
  have hnamed : ∀ a ∈ namedFloat? cs, a.1.isTable = false := by
    intro a ha
    unfold namedFloat? at ha
    dsimp only at ha
    split at ha
    · exact Option.some.inj ha ▸ rfl
    · exact Option.some.inj ha ▸ rfl
    · cases ha
  unfold scalar
  split
  · exact rfl
  · exact rfl
  · split
    · rename_i heq
      exact hdate _ heq
    · split
      · exact rfl
      · split
        · exact rfl
        · split
          · rename_i heq
            exact hdecimal _ heq
          · split
            · rename_i heq
              exact hnamed _ heq
            · exact yields_malformed

theorem addInline_yields {closed : List Key} {entries : Entries} {k : Key} {v : Value}
    (h : (Value.table entries).Distinct) (hv : v.Distinct) :
    Yields (fun entries => (Value.table entries).Distinct) (addInline closed entries k v) := by
  unfold addInline
  split
  · exact yields_malformed
  · split
    · rename_i entries' heq
      exact (keepsDistinct_addEntry _ hv).changeNest false _ _ _ h heq
    · exact yields_malformed

/-- What the readers of values come to that have so much fuel. They call each other, so they
are followed together, by the fuel. -/
structure ValuesDistinct (fuel : Nat) : Prop where
  value : ∀ room cs, Yields (·.1.Distinct) (value fuel room cs)
  inlineEntries : ∀ room closed before cs, (Value.table before).Distinct →
    Yields (fun a => (Value.table a.1).Distinct) (inlineEntries fuel room closed before cs)
  assignment : ∀ room cs, Yields (·.2.1.Distinct) (assignment fuel room cs)

namespace ValuesDistinct

variable {fuel : Nat}

theorem zero : ValuesDistinct 0 where
  value _ _ := by
    rw [Toml.value]
    exact yields_malformed
  inlineEntries _ _ _ _ _ := by
    rw [Toml.inlineEntries]
    exact yields_malformed
  assignment _ _ := by
    rw [Toml.assignment]
    exact yields_malformed

theorem value_succ (h : ValuesDistinct fuel) (room : Nat) (cs : List Char) :
    Yields (·.1.Distinct) (Toml.value (fuel + 1) room cs) := by
  generalize hfuel : fuel + 1 = n
  fun_cases Toml.value n room cs with
  | case1 => exact yields_malformed
  | case2 => exact trivial
  | case3 =>
    refine yields_bind _ fun after => ?_
    split
    · exact yields_pure (Value.distinct_of_not_table rfl)
    · exact yields_bind _ fun _ => yields_pure (Value.distinct_of_not_table rfl)
  | case4 => exact trivial
  | case5 => exact Value.distinct_empty
  | case6 =>
    obtain rfl := Nat.succ.inj hfuel
    exact (h.inlineEntries _ _ _ _ Value.distinct_empty).bind fun _ ha => yields_pure ha
  | case7 => exact yields_bind _ fun _ => yields_pure (Value.distinct_of_not_table rfl)
  | case8 => exact yields_bind _ fun _ => yields_pure (Value.distinct_of_not_table rfl)
  | case9 =>
    have hscalar := scalar_yields cs
    cases hread : scalar cs with
    | ok a =>
      rw [hread] at hscalar
      exact Value.distinct_of_not_table hscalar
    | error => exact trivial

theorem inlineEntries_succ (h : ValuesDistinct fuel) (room : Nat) (closed : List Key)
    (before : Entries) (cs : List Char) (hbefore : (Value.table before).Distinct) :
    Yields (fun a => (Value.table a.1).Distinct)
      (Toml.inlineEntries (fuel + 1) room closed before cs) := by
  rw [Toml.inlineEntries]
  refine (h.assignment room cs).bind fun a ha => ?_
  refine (addInline_yields hbefore ha).bind fun entries hentries => ?_
  split
  · exact yields_pure hentries
  · exact h.inlineEntries _ _ _ _ hentries
  · exact yields_malformed

theorem assignment_succ (h : ValuesDistinct fuel) (room : Nat) (cs : List Char) :
    Yields (·.2.1.Distinct) (Toml.assignment (fuel + 1) room cs) := by
  rw [Toml.assignment]
  refine yields_bind _ fun a => ?_
  obtain ⟨k, rest⟩ := a
  dsimp only
  split
  · exact (h.value _ _).bind fun _ hv => yields_pure hv
  · exact yields_malformed

theorem succ (h : ValuesDistinct fuel) : ValuesDistinct (fuel + 1) where
  value := h.value_succ
  inlineEntries := h.inlineEntries_succ
  assignment := h.assignment_succ

end ValuesDistinct

theorem valuesDistinct (fuel : Nat) : ValuesDistinct fuel := by
  induction fuel with
  | zero => exact .zero
  | succ fuel ih => exact ih.succ

/-! ## Statements and texts -/

/-- The keys of what a statement assigns are different. -/
def Statement.Distinct : Statement → Prop
  | .assign _ v => v.Distinct
  | _ => True

theorem statement_yields (fuel room : Nat) (cs : List Char) :
    Yields (fun a => ∀ s ∈ a.1, s.Distinct) (statement fuel room cs) := by
  unfold statement
  split
  · refine yields_bind _ fun _ => yields_bind _ fun _ => yields_pure ?_
    exact fun s hs => Option.some.inj hs ▸ trivial
  · refine yields_bind _ fun _ => yields_bind _ fun _ => yields_pure ?_
    exact fun s hs => Option.some.inj hs ▸ trivial
  · split
    · refine ((valuesDistinct fuel).assignment room _).bind fun a ha => yields_pure ?_
      exact fun s hs => Option.some.inj hs ▸ ha
    · split
      · exact nofun
      · exact yields_malformed
  · exact nofun

theorem line_yields (fuel room : Nat) (cs : List Char) :
    Yields (fun a => ∀ s ∈ a.1, s.Distinct) (line fuel room cs) := by
  unfold line
  refine (statement_yields fuel room _).bind fun a ha => yields_bind _ fun rest => ?_
  split
  · exact yields_pure ha
  · exact yields_pure ha
  · exact yields_malformed

theorem statements_distinct (room fuel : Nat) (cs : List Char) :
    ∀ s ∈ (statements room fuel cs).1, s.Distinct := by
  induction fuel generalizing cs with
  | zero =>
    intro s hs
    cases hs
  | succ fuel ih =>
    have hline := line_yields (2 * cs.length + 4) room cs
    rw [statements]
    split
    · intro s hs
      cases hs
    · rename_i found heq
      rw [heq] at hline
      exact fun s hs => hline s (Option.mem_toList.1 hs)
    · rename_i found more heq
      rw [heq] at hline
      intro s hs
      rcases List.mem_append.1 hs with hs | hs
      · exact hline s (Option.mem_toList.1 hs)
      · exact ih more s hs

/-- One statement keeps the keys of the document different. -/
theorem Assembly.distinct_take {a a' : Assembly} {s : Statement} (hs : s.Distinct)
    (ha : (Value.table a.data).Distinct) (htake : a.take s = some a') :
    (Value.table a'.data).Distinct := by
  cases s with
  | assign k v =>
    simp only [Assembly.take, Assembly.assign] at htake
    split at htake
    · cases htake
    · obtain ⟨data, hdata, hset⟩ := Option.bind_eq_some_iff.1 htake
      have hkeeps := (keepsDistinct_addEntry (k.getLastD "") hs).changeNest true
      exact Option.some.inj hset ▸ hkeeps _ _ _ ha hdata
  | table k =>
    simp only [Assembly.take, Assembly.table] at htake
    split at htake
    · cases htake
    · obtain ⟨data, hdata, hset⟩ := Option.bind_eq_some_iff.1 htake
      have hkeeps : KeepsDistinct some := fun _ _ h heq => Option.some.inj heq ▸ h
      exact Option.some.inj hset ▸ hkeeps.changeNest true _ _ _ ha hdata
  | listItem k =>
    simp only [Assembly.take, Assembly.listItem] at htake
    split at htake
    · cases htake
    · obtain ⟨data, hdata, hset⟩ := Option.bind_eq_some_iff.1 htake
      have hkeeps := (keepsDistinct_addToList (k.getLastD "")).changeNest true
      exact Option.some.inj hset ▸ hkeeps _ _ _ ha hdata

theorem Assembly.distinct_foldlM {found : List Statement} (hfound : ∀ s ∈ found, s.Distinct)
    {a a' : Assembly} (ha : (Value.table a.data).Distinct)
    (hfold : found.foldlM Assembly.take a = some a') : (Value.table a'.data).Distinct := by
  induction found generalizing a with
  | nil => exact Option.some.inj hfold ▸ ha
  | cons s found ih =>
    rw [List.forall_mem_cons] at hfound
    rw [List.foldlM_cons] at hfold
    obtain ⟨next, hnext, hfold⟩ := Option.bind_eq_some_iff.1 hfold
    exact ih hfound.2 (Assembly.distinct_take hfound.1 ha hnext) hfold

theorem distinct_of_read {room : Nat} {text : List Char} {entries : Entries}
    (h : Toml.read room text = .ok entries) : (Value.table entries).Distinct := by
  unfold Toml.read at h
  dsimp only at h
  split at h
  · cases h
  · rename_i a hfold
    split at h
    · cases h
    · exact Except.ok.inj h ▸
        Assembly.distinct_foldlM (statements_distinct _ _ _) Value.distinct_empty hfold

end LintRelay.Toml
