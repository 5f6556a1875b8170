import LintRelay.Proofs.Report.Written

/-!
# Where the lines of an item begin

A problem item is written at a level of its list, and what belongs to it one level deeper.
The lines of the message keep to that whatever breaks them; those of a suggestion are written
as they are, so that they stay inside the item only if they begin with the spaces themselves.
The main statement is `item_stays_inside_iff`.
-/

namespace LintRelay.Report

open LintRelay.Text

/-- A line that begins with the spaces of some levels. -/
def Indented (levels : Nat) (l : String) : Prop :=
  (indentation levels).toList <+: l.toList

instance (levels : Nat) (l : String) : Decidable (Indented levels l) :=
  inferInstanceAs (Decidable (_ <+: _))

/-- An item that stands at a level of its list: its first line opens it there, and the others
are one level deeper. -/
def StaysInside (levels : Nat) (item : String) : Prop :=
  ∃ rest more, lines item = (indentation levels ++ "- message:" ++ rest) :: more ∧
    ∀ l ∈ more, Indented (levels + 1) l

theorem Indented.intro (levels : Nat) (rest : String) :
    Indented levels (indentation levels ++ rest) := by
  rw [Indented, String.toList_append]
  exact List.prefix_append ..

theorem Indented.mono {m n : Nat} {l : String} (h : Indented n l) (hmn : m ≤ n) :
    Indented m l := by
  refine List.IsPrefix.trans ?_ h
  rw [toList_indentation, toList_indentation]
  exact ⟨List.replicate (2 * (n - m)) ' ', by rw [List.replicate_append_replicate]; congr 1; omega⟩

theorem indented_keyLine (levels : Nat) (m : Marker) (dashed : Bool) (v : String) :
    Indented levels (keyLine levels m dashed v) := by
  rw [keyLine, String.append_assoc, String.append_assoc]
  exact Indented.intro ..

theorem indented_headingLine (levels : Nat) (m : Marker) :
    Indented levels (indentation levels ++ m.name ++ ":") := by
  rw [String.append_assoc]
  exact Indented.intro ..

/-! ## The entries of an item -/

theorem flatMap_endedLines {es : List String} (h : ∀ e ∈ es, Unbroken e.toList) :
    es.flatMap endedLines = es := by
  induction es with
  | nil => rfl
  | cons e es ih =>
      rw [List.flatMap_cons, endedLines_of_unbroken (h e List.mem_cons_self),
        ih fun e' he' => h e' (List.mem_cons_of_mem _ he')]
      rfl

theorem unbroken_headingLine (levels : Nat) (m : Marker) :
    Unbroken (indentation levels ++ m.name ++ ":").toList := by
  rw [String.toList_append, String.toList_append, toList_indentation, List.append_assoc]
  refine (unbroken_replicate _).append ?_
  cases m <;> decide

theorem unbroken_positionLines (indent : Nat) (heading : Marker) (p : Position) :
    ∀ l ∈ positionLines indent heading p, Unbroken l.toList := by
  rw [positionLines_eq]
  simp only [List.forall_mem_cons, List.not_mem_nil, false_imp_iff, forall_const, and_true]
  exact ⟨unbroken_headingLine _ _, unbroken_keyLine _ _ _ (plain_repr _).unbroken,
    unbroken_keyLine _ _ _ (plain_repr _).unbroken⟩

theorem indented_positionLines (indent : Nat) (heading : Marker) (p : Position) :
    ∀ l ∈ positionLines indent heading p, Indented indent l := by
  rw [positionLines_eq]
  simp only [List.forall_mem_cons, List.not_mem_nil, false_imp_iff, forall_const, and_true]
  exact ⟨indented_headingLine .., (indented_keyLine ..).mono (by omega),
    (indented_keyLine ..).mono (by omega)⟩

/-- What is left of a key line without the blanks at its end still holds the key. -/
theorem exists_strippedEnd_keyLine (levels : Nat) (m : Marker) (dashed : Bool) (v : String) :
    ∃ rest, strippedEnd (keyLine levels m dashed v) =
      indentation levels ++ String.ofList (keyText m dashed ++ [':']) ++ rest := by
  refine ⟨String.ofList (trimEnd (' ' :: v.toList)), ?_⟩
  have hsplit : (keyLine levels m dashed v).toList =
      (List.replicate (2 * levels) ' ' ++ keyText m dashed ++ [':']) ++ ' ' :: v.toList := by
    simp [toList_keyLine]
  have hcolon : ∀ c ∈ (List.replicate (2 * levels) ' ' ++ keyText m dashed ++ [':']).getLast?,
      isBlank c = false := by
    simp [List.getLast?_append, isBlank]
  rw [strippedEnd, hsplit, trimEnd_append hcolon, ← String.toList_inj]
  simp [toList_indentation]

/-- The blanks at the end are not those at the start. -/
theorem indented_strippedEnd_keyLine (levels : Nat) (m : Marker) (dashed : Bool) (v : String) :
    Indented levels (strippedEnd (keyLine levels m dashed v)) := by
  obtain ⟨rest, hrest⟩ := exists_strippedEnd_keyLine levels m dashed v
  rw [hrest, String.append_assoc]
  exact Indented.intro ..

theorem strippedEnd_keyLine_ne_empty (levels : Nat) (m : Marker) (dashed : Bool) (v : String) :
    strippedEnd (keyLine levels m dashed v) ≠ "" := by
  obtain ⟨rest, hrest⟩ := exists_strippedEnd_keyLine levels m dashed v
  rw [hrest]
  simp

/-- The first line of a text that is written behind a key stands behind it, the others are
written as they are. -/
theorem endedLines_keyLine (levels : Nat) (m : Marker) (dashed : Bool) (v : String) :
    endedLines (keyLine levels m dashed v) =
      keyLine levels m dashed ((endedLines v).headD "") :: (endedLines v).tail := by
  refine endedLines_append ?_ v
  simpa [keyLine] using unbroken_keyLine levels m dashed (v := "") (by simp [Unbroken])

/-- The lines of a message are padded behind the first one. -/
theorem unbroken_messageLines (levels : Nat) (s : String) :
    ∀ l ∈ (lines s).tail.map (indentation levels ++ ·), Unbroken l.toList := by
  intro _ hl
  obtain ⟨l, hl', rfl⟩ := List.mem_map.mp hl
  rw [String.toList_append, toList_indentation]
  exact (unbroken_replicate _).append (unbroken_of_mem_lines (List.mem_of_mem_tail hl'))

theorem indented_messageLines (levels : Nat) (s : String) :
    ∀ l ∈ (lines s).tail.map (indentation levels ++ ·), Indented levels l := by
  intro _ hl
  obtain ⟨l, -, rfl⟩ := List.mem_map.mp hl
  exact Indented.intro ..

/-! ## The lines of an item -/

section

variable {f : Finding} (hid : Unbroken f.ruleId.toList) (huri : Unbroken f.ruleDocUri.toList)
  (indent : Nat)

include hid huri in
/-- The lines of an item are its entries, but for the lines of the suggestion. -/
theorem lines_renderFinding :
    lines (renderFinding f indent) =
      strippedEnd (keyLine indent .message true ((lines f.message).headD "")) ::
        ((lines f.message).tail.map (indentation (indent + 1) ++ ·) ++
          endedLines (keyLine (indent + 1) .suggestion false (writtenSuggestion f)) ++
          [indentation (indent + 1) ++ Marker.location.name ++ ":"] ++
          positionLines (indent + 2) .startPosition f.range.start ++
          positionLines (indent + 2) .endPosition f.range.stop ++
          [strippedEnd (keyLine (indent + 1) .ruleId false f.ruleId),
            strippedEnd (keyLine (indent + 1) .ruleDocUri false f.ruleDocUri)]) := by
  have hmessage : Unbroken ((lines f.message).headD "").toList := by
    cases h : lines f.message with
    | nil => simp [Unbroken]
    | cons l ls => exact unbroken_of_mem_lines (h ▸ List.mem_cons_self)
  have hfirst := unbroken_strippedEnd (unbroken_keyLine indent .message true hmessage)
  have hrule := unbroken_strippedEnd (unbroken_keyLine (indent + 1) .ruleId false hid)
  have hlast := unbroken_strippedEnd (unbroken_keyLine (indent + 1) .ruleDocUri false huri)
  -- every entry but the last one is followed by a break; the last one is kept as it is because
  -- it is not empty
  rw [renderFinding, findingEntries_eq, ← List.singleton_append (l := [strippedEnd _]),
    ← List.append_assoc, lines_unlines_concat _ hlast (strippedEnd_keyLine_ne_empty _ _ _ _)]
  simp only [List.flatMap_append, List.flatMap_cons, List.flatMap_nil,
    endedLines_of_unbroken hfirst, endedLines_of_unbroken hrule,
    endedLines_of_unbroken (unbroken_headingLine _ _),
    flatMap_endedLines (unbroken_messageLines _ _),
    flatMap_endedLines (unbroken_positionLines _ _ _)]
  simp only [List.append_assoc, List.cons_append, List.nil_append, List.append_nil]

include hid huri in
/-- The first line opens the item at its level, and the lines behind it are one level deeper
as long as those of the suggestion are. -/
theorem exists_lines_renderFinding :
    ∃ rest more, lines (renderFinding f indent) =
        (indentation indent ++ "- message:" ++ rest) :: more ∧
      ((∀ l ∈ more, Indented (indent + 1) l) ↔
        ∀ l ∈ (endedLines (writtenSuggestion f)).tail, Indented (indent + 1) l) := by
  obtain ⟨rest, hrest⟩ := exists_strippedEnd_keyLine indent .message true
    ((lines f.message).headD "")
  refine ⟨rest, _, (lines_renderFinding hid huri indent).trans (by rw [hrest]; rfl), ?_⟩
  have hposition (heading : Marker) (p : Position) :
      ∀ l ∈ positionLines (indent + 2) heading p, Indented (indent + 1) l :=
    fun l hl => (indented_positionLines _ _ _ l hl).mono (by omega)
  rw [endedLines_keyLine]
  simp only [List.mem_append, or_imp, forall_and, List.forall_mem_cons]
  constructor
  · rintro ⟨⟨⟨⟨⟨-, -, h⟩, -⟩, -⟩, -⟩, -⟩
    exact h
  · intro h
    exact ⟨⟨⟨⟨⟨indented_messageLines _ _, indented_keyLine .., h⟩, indented_headingLine .., by simp⟩,
      hposition _ _⟩, hposition _ _⟩, indented_strippedEnd_keyLine ..,
      indented_strippedEnd_keyLine .., by simp⟩

include hid huri in
theorem staysInside_renderFinding_iff : StaysInside indent (renderFinding f indent) ↔
    ∀ l ∈ (endedLines (writtenSuggestion f)).tail, Indented (indent + 1) l := by
  obtain ⟨rest, more, hlines, hmore⟩ := exists_lines_renderFinding hid huri indent
  rw [← hmore]
  constructor
  · rintro ⟨rest', more', hlines', h⟩
    obtain ⟨-, rfl⟩ := List.cons.inj (hlines.symm.trans hlines')
    exact h
  · exact fun h => ⟨rest, more, hlines, h⟩

end

/-- No line is indented by every number of levels. -/
theorem exists_not_indented (l : String) : ∃ levels, ¬ Indented (levels + 1) l := by
  refine ⟨l.toList.length, fun h => ?_⟩
  have hle := h.length_le
  rw [toList_indentation, List.length_replicate] at hle
  omega

/-- An item is written exactly if the numbers of its place can be. Its first line opens it at
its level, and it stays inside that level exactly if the lines of the suggestion behind the
first one begin with the spaces for it, whatever the message is. So the items of a finding stay
inside at every level exactly if its suggestion is one line. -/
theorem item_stays_inside_iff {f : Finding} (hid : Unbroken f.ruleId.toList)
    (huri : Unbroken f.ruleDocUri.toList) :
    (∀ indent, (∃ item, writeFinding f indent = .ok item) ↔ isWritable f.range = true) ∧
    (∀ indent item, writeFinding f indent = .ok item →
      (∃ rest more, lines item = (indentation indent ++ "- message:" ++ rest) :: more) ∧
        (StaysInside indent item ↔
          ∀ l ∈ (endedLines (writtenSuggestion f)).tail, Indented (indent + 1) l)) ∧
    ((∀ indent, ∃ item, writeFinding f indent = .ok item ∧ StaysInside indent item) ↔
      isWritable f.range = true ∧ OneLine (writtenSuggestion f)) := by
  refine ⟨fun indent => by simp [writeFinding_eq_ok_iff], ?_, ?_⟩
  · intro indent item hitem
    obtain ⟨-, rfl⟩ := writeFinding_eq_ok_iff.mp hitem
    obtain ⟨rest, more, hlines, -⟩ := exists_lines_renderFinding hid huri indent
    exact ⟨⟨rest, more, hlines⟩, staysInside_renderFinding_iff hid huri indent⟩
  · simp only [writeFinding_eq_ok_iff, ← endedLines_tail_eq_nil_iff]
    constructor
    · intro h
      refine ⟨(h 0).elim fun _ h => h.1.1, List.eq_nil_iff_forall_not_mem.mpr fun l hl => ?_⟩
      obtain ⟨indent, hindent⟩ := exists_not_indented l
      obtain ⟨item, ⟨-, rfl⟩, hinside⟩ := h indent
      exact hindent ((staysInside_renderFinding_iff hid huri indent).mp hinside l hl)
    · rintro ⟨hwritable, hone⟩ indent
      refine ⟨_, ⟨hwritable, rfl⟩, (staysInside_renderFinding_iff hid huri indent).mpr ?_⟩
      simp [hone]

/-- A message of three lines, and a suggestion whose second line begins with four spaces. -/
def spacedFinding : Finding :=
  { message := "a\r\nb\u2028c", ruleId := "core::0122", suggestion := some "s\n    t" }

/-- The four spaces are enough at the second level of a list, but not at every level. -/
theorem item_stays_inside_iff_spacedFinding :
    Unbroken spacedFinding.ruleId.toList ∧ Unbroken spacedFinding.ruleDocUri.toList ∧
    StaysInside 1 (renderFinding spacedFinding 1) ∧
    ¬ StaysInside 2 (renderFinding spacedFinding 2) ∧
    ¬ ∀ indent, ∃ item, writeFinding spacedFinding indent = .ok item ∧ StaysInside indent item := by
  have hid : Unbroken spacedFinding.ruleId.toList := by decide
  have huri : Unbroken spacedFinding.ruleDocUri.toList := by decide
  obtain ⟨hwritten, hlines, hall⟩ := item_stays_inside_iff hid huri
  have hwritable : isWritable spacedFinding.range = true := by decide +kernel
  have hrender (indent : Nat) :=
    (hlines indent _ (writeFinding_eq_ok_iff.mpr ⟨hwritable, rfl⟩)).2
  refine ⟨hid, huri, (hrender 1).mpr (by decide +kernel), ?_, fun h => ?_⟩
  · exact fun h => absurd ((hrender 2).mp h) (by decide +kernel)
  · exact absurd (endedLines_tail_eq_nil_iff.mpr (hall.mp h).2) (by decide +kernel)

end LintRelay.Report
