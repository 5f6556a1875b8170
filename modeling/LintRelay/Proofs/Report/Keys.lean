import LintRelay.Proofs.Text.Splitting
import LintRelay.Proofs.Text.Trimming
import LintRelay.Report.Token

/-!
# Keys and plain texts

Where a key stands on a line, said without a search: an optional dash, a name, a
colon, and a blank or the end. A text is plain if it is trimmed, fits on one line
and holds no key. The search for a key finds just what stands there.
-/

namespace LintRelay.Report

open LintRelay.Text

/-- `cs` begins with the key `m`, after a list dash if `dashed`, and `rest`
follows its colon. -/
def KeyAt (m : Marker) (dashed : Bool) (cs rest : List Char) : Prop :=
  (∀ c ∈ rest.head?, isBlank c = true) ∧
    if dashed then
      ∃ bs, bs ≠ [] ∧ Blanks bs ∧ cs = '-' :: (bs ++ (m.name.toList ++ ':' :: rest))
    else cs = m.name.toList ++ ':' :: rest

/-- The keys that count anywhere on a line. -/
def inlineKeys : List Marker :=
  [.suggestion, .location, .startPosition, .endPosition, .lineNumber, .columnNumber, .ruleId,
    .ruleDocUri]

/-- The keys that count after their dash only. -/
def itemKeys : List Marker :=
  [.message, .filePath]

/-- A text that stays whole when it is written on a line behind a key. -/
structure Plain (s : String) : Prop where
  trimmed : Trimmed s.toList
  unbroken : Unbroken s.toList
  keyless : ∀ pre suf, s.toList = pre ++ suf → (∀ c ∈ pre.getLast?, isBlank c = true) →
    ∀ m dashed rest, KeyAt m dashed suf rest →
      m ∉ inlineKeys ∧ ¬ (dashed = true ∧ m ∈ itemKeys)

/-- A text that begins with the key `problems`. -/
def OpensProblems (s : String) : Prop :=
  ∃ dashed rest, KeyAt .problems dashed s.toList rest

theorem KeyAt.colon_mem {m : Marker} {dashed : Bool} {cs rest : List Char}
    (h : KeyAt m dashed cs rest) : ':' ∈ cs := by
  obtain ⟨_, hcs⟩ := h
  cases dashed with
  | false =>
      obtain rfl : cs = m.name.toList ++ ':' :: rest := hcs
      simp
  | true =>
      obtain ⟨bs, _, _, rfl⟩ := hcs
      simp

/-- Without a colon there is no key. -/
theorem plain_of_colon_not_mem {s : String} (htrim : Trimmed s.toList)
    (hunbroken : Unbroken s.toList) (hcolon : ':' ∉ s.toList) : Plain s := by
  refine ⟨htrim, hunbroken, fun pre suf hcs _ m dashed rest hat => ?_⟩
  have hmem : ':' ∈ s.toList := by
    rw [hcs]
    exact List.mem_append_right _ hat.colon_mem
  exact absurd hmem hcolon

theorem plain_empty : Plain "" :=
  plain_of_colon_not_mem (by simp [Trimmed]) (by simp [Unbroken]) (by simp)

/-! ## Names of keys -/

theorem name_ne_nil (m : Marker) : m.name.toList ≠ [] := by
  cases m <;> decide

theorem colon_not_mem_name (m : Marker) : ':' ∉ m.name.toList := by
  cases m <;> decide

theorem head_name (m : Marker) :
    ∀ c ∈ m.name.toList.head?, c ≠ '-' ∧ isBlank c = false := by
  have hall : (m.name.toList.head?.all fun c => c ≠ '-' && !isBlank c) = true := by
    cases m <;> decide
  intro c hc
  rw [Option.mem_def.mp hc] at hall
  simpa using hall

theorem keyOf?_name {m : Marker} (h : m ∈ Marker.keys) : Marker.keyOf? m.name.toList = some m := by
  revert h
  cases m <;> decide

theorem keyOf?_eq_some {cs : List Char} {m : Marker} (h : Marker.keyOf? cs = some m) :
    m ∈ Marker.keys ∧ cs = m.name.toList := by
  have hname : m.name.toList = cs := by
    simpa using List.find?_some h
  exact ⟨List.mem_of_find?_eq_some h, hname.symm⟩

/-- A key that is no first key counts if it is one of those above. -/
theorem counts_false_iff {m : Marker} (hm : m ∈ Marker.keys) (dashed : Bool) :
    m.counts false dashed = true ↔ m ∈ inlineKeys ∨ dashed = true ∧ m ∈ itemKeys := by
  revert hm
  cases m <;> cases dashed <;> decide

theorem mem_keys_of_inline_or_item {m : Marker} (h : m ∈ inlineKeys ∨ m ∈ itemKeys) :
    m ∈ Marker.keys := by
  revert h
  cases m <;> decide

theorem counts_of_not_first {m : Marker} {dashed : Bool} (h : m.counts false dashed = true) :
    m.counts true dashed = true := by
  cases m <;> simp_all [Marker.counts]

/-! ## The search for a key -/

theorem takeWhile_ne_colon {name : List Char} (h : ':' ∉ name) (rest : List Char) :
    (name ++ ':' :: rest).takeWhile (· ≠ ':') = name ∧
      (name ++ ':' :: rest).dropWhile (· ≠ ':') = ':' :: rest := by
  have hall : ∀ c ∈ name, (decide (c ≠ ':')) = true := by
    intro c hc
    simpa using fun heq : c = ':' => h (heq ▸ hc)
  constructor
  · rw [List.takeWhile_append_of_pos hall]
    simp
  · rw [List.dropWhile_append_of_pos hall]
    simp

theorem bareKey?_eq_some_iff {cs rest : List Char} {m : Marker} :
    bareKey? cs = some (m, rest) ↔
      m ∈ Marker.keys ∧ cs = m.name.toList ++ ':' :: rest ∧ ∀ c ∈ rest.head?, isBlank c = true := by
  constructor
  · intro h
    rw [bareKey?] at h
    split at h
    · rename_i r hr
      split_ifs at h with hblank
      obtain ⟨m', hm', heq⟩ := Option.map_eq_some_iff.mp h
      obtain ⟨rfl, rfl⟩ := Prod.mk.inj heq
      obtain ⟨hkey, hname⟩ := keyOf?_eq_some hm'
      refine ⟨hkey, ?_, by simpa [Option.all_eq_true] using hblank⟩
      rw [← hname, ← hr, List.takeWhile_append_dropWhile]
    · cases h
  · rintro ⟨hkey, rfl, hblank⟩
    obtain ⟨htake, hdrop⟩ := takeWhile_ne_colon (colon_not_mem_name m) rest
    have hall : (rest.head?.all isBlank) = true := by
      cases hr : rest.head? with
      | none => rfl
      | some c => exact hblank c (by rw [hr]; rfl)
    rw [bareKey?, hdrop, htake]
    simp only [hall, if_true, keyOf?_name hkey, Option.map_some]

theorem undash_of_dash {bs cs : List Char} (hne : bs ≠ []) (hbs : Blanks bs)
    (hcs : ∀ c ∈ cs.head?, isBlank c = false) : undash ('-' :: (bs ++ cs)) = (cs, true) := by
  cases bs with
  | nil => exact absurd rfl hne
  | cons b bs =>
      have hb : isBlank b = true := hbs b List.mem_cons_self
      rw [List.cons_append, undash, if_pos hb,
        trimStart_append_of_blanks fun c hc => hbs c (List.mem_cons_of_mem _ hc),
        trimStart_eq_self hcs]

theorem undash_of_head_ne {cs : List Char} (h : ∀ c ∈ cs.head?, c ≠ '-') :
    undash cs = (cs, false) := by
  unfold undash
  split
  · exact absurd rfl (h '-' rfl)
  · rfl

/-- A dash and the blanks after it are dropped together, or nothing is. -/
theorem undash_cases (cs : List Char) :
    undash cs = (cs, false) ∨
      ∃ bs, bs ≠ [] ∧ Blanks bs ∧ cs = '-' :: (bs ++ (undash cs).1) ∧ (undash cs).2 = true := by
  unfold undash
  split
  · rename_i b rest
    split_ifs with hb
    · right
      obtain ⟨a, ha, hrest, _⟩ := exists_blanks_trimStart rest
      refine ⟨b :: a, by simp, ?_, ?_, rfl⟩
      · intro c hc
        rcases List.mem_cons.mp hc with rfl | hc
        · exact hb
        · exact ha c hc
      · rw [List.cons_append, ← hrest]
    · exact Or.inl rfl
  · exact Or.inl rfl

theorem keyAt?_eq_some_iff {first : Bool} {cs rest : List Char} {m : Marker} :
    keyAt? first cs = some (m, rest) ↔
      m ∈ Marker.keys ∧ ∃ dashed, m.counts first dashed = true ∧ KeyAt m dashed cs rest := by
  rw [keyAt?, Option.filter_eq_some_iff, bareKey?_eq_some_iff]
  constructor
  · rintro ⟨⟨hkey, hcs, hblank⟩, hcounts⟩
    refine ⟨hkey, _, hcounts, hblank, ?_⟩
    rcases undash_cases cs with hun | ⟨bs, hne, hbs, hdash, hun⟩
    · rw [hun] at hcs ⊢
      exact hcs
    · rw [hcs] at hdash
      rw [hun]
      exact ⟨bs, hne, hbs, hdash⟩
  · rintro ⟨hkey, dashed, hcounts, hblank, hcs⟩
    have hhead : ∀ c ∈ (m.name.toList ++ ':' :: rest).head?, c ≠ '-' ∧ isBlank c = false := by
      intro c hc
      rw [List.head?_append_of_ne_nil _ (name_ne_nil m)] at hc
      exact head_name m c hc
    have hun : undash cs = (m.name.toList ++ ':' :: rest, dashed) := by
      cases dashed with
      | false =>
          obtain rfl : cs = m.name.toList ++ ':' :: rest := hcs
          exact undash_of_head_ne fun c hc => (hhead c hc).1
      | true =>
          obtain ⟨bs, hne, hbs, rfl⟩ := hcs
          exact undash_of_dash hne hbs fun c hc => (hhead c hc).2
    rw [hun]
    exact ⟨⟨hkey, rfl, hblank⟩, hcounts⟩

theorem keyAt?_eq_none_iff {first : Bool} {cs : List Char} :
    keyAt? first cs = none ↔
      ∀ m dashed rest, m ∈ Marker.keys → m.counts first dashed = true → ¬ KeyAt m dashed cs rest := by
  constructor
  · intro hnone m dashed rest hm hcounts hat
    rw [keyAt?_eq_some_iff.mpr ⟨hm, dashed, hcounts, hat⟩] at hnone
    cases hnone
  · intro h
    by_contra hkey
    obtain ⟨⟨m, rest⟩, hkey⟩ := Option.ne_none_iff_exists'.mp hkey
    obtain ⟨hm, dashed, hcounts, hat⟩ := keyAt?_eq_some_iff.mp hkey
    exact h m dashed rest hm hcounts hat

theorem opensProblems_iff {s : String} :
    OpensProblems s ↔ (keyAt? true s.toList).map Prod.fst = some .problems := by
  rw [Option.map_eq_some_iff]
  constructor
  · rintro ⟨dashed, rest, hat⟩
    exact ⟨(.problems, rest), keyAt?_eq_some_iff.mpr ⟨by decide, dashed, rfl, hat⟩, rfl⟩
  · rintro ⟨⟨m, rest⟩, hkey, rfl⟩
    obtain ⟨_, dashed, _, hat⟩ := keyAt?_eq_some_iff.mp hkey
    exact ⟨dashed, rest, hat⟩

instance (s : String) : Decidable (OpensProblems s) :=
  decidable_of_iff _ opensProblems_iff.symm

theorem keyAt?_nil (first : Bool) : keyAt? first [] = none := by
  cases first <;> decide

/-- Text that follows does not hide a key, unless it comes right after the colon. -/
theorem keyAt?_append {first : Bool} {cs rest more : List Char} {m : Marker}
    (h : keyAt? first cs = some (m, rest))
    (hmore : rest = [] → ∀ c ∈ more.head?, isBlank c = true) :
    keyAt? first (cs ++ more) = some (m, rest ++ more) := by
  obtain ⟨hkey, dashed, hcounts, hblank, hcs⟩ := keyAt?_eq_some_iff.mp h
  refine keyAt?_eq_some_iff.mpr ⟨hkey, dashed, hcounts, ?_, ?_⟩
  · by_cases hrest : rest = []
    · rw [hrest, List.nil_append]
      exact hmore hrest
    · rw [List.head?_append_of_ne_nil _ hrest]
      exact hblank
  · cases dashed with
    | false =>
        obtain rfl : cs = m.name.toList ++ ':' :: rest := hcs
        simp
    | true =>
        obtain ⟨bs, hne, hbs, rfl⟩ := hcs
        exact ⟨bs, hne, hbs, by simp⟩

/-- A key that ends where the text ends leaves its colon there. -/
theorem getLast?_of_keyAt? {first : Bool} {cs : List Char} {m : Marker}
    (h : keyAt? first cs = some (m, [])) : cs.getLast? = some ':' := by
  obtain ⟨_, dashed, _, _, hcs⟩ := keyAt?_eq_some_iff.mp h
  cases dashed with
  | false =>
      obtain rfl : cs = m.name.toList ++ [':'] := hcs
      simp
  | true =>
      obtain ⟨bs, _, _, rfl⟩ := hcs
      rw [← List.append_assoc, ← List.cons_append, List.getLast?_concat]

end LintRelay.Report
