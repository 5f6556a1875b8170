/-!
# Positions

Zero-based places in a text, ordered by line and then by column, ranges between two
of them, and the text that a range covers. Lines are those between line feeds; a column
past the end of its line means the end of that line, a line past the last one means the
end of the text.
-/

namespace LintRelay

/-- A place in a text; columns count characters. -/
structure Position where
  line : Nat := 0
  column : Nat := 0
  deriving DecidableEq, Repr, Inhabited

namespace Position

/-- Lexicographic order: lines first, columns within a line. -/
def before (a b : Position) : Prop :=
  a.line < b.line ∨ (a.line = b.line ∧ a.column < b.column)

instance : LT Position := ⟨before⟩

instance : LE Position := ⟨fun a b => ¬ b < a⟩

instance (a b : Position) : Decidable (a < b) :=
  inferInstanceAs (Decidable (a.line < b.line ∨ (a.line = b.line ∧ a.column < b.column)))

instance (a b : Position) : Decidable (a ≤ b) :=
  inferInstanceAs (Decidable (¬ b < a))

theorem lt_iff (a b : Position) :
    a < b ↔ a.line < b.line ∨ (a.line = b.line ∧ a.column < b.column) :=
  Iff.rfl

theorem le_iff (a b : Position) :
    a ≤ b ↔ a.line < b.line ∨ (a.line = b.line ∧ a.column ≤ b.column) := by
  show ¬ (b.line < a.line ∨ (b.line = a.line ∧ b.column < a.column)) ↔ _
  omega

end Position

/-- A stretch of text from `start` up to `stop`; a range may be empty but never
runs backwards. -/
structure Range where
  start : Position := {}
  stop : Position := {}
  ordered : start ≤ stop := by decide
  deriving DecidableEq

namespace Range

/-- The empty range at the start of a text, used where a place is unknown. -/
def zero : Range := {}

instance : Inhabited Range := ⟨zero⟩

/-- The range between two positions, if they are in order. -/
def between? (start stop : Position) : Option Range :=
  if h : start ≤ stop then some ⟨start, stop, h⟩ else none

def isEmpty (r : Range) : Bool :=
  r.start = r.stop

theorem between?_eq_some_iff {start stop : Position} {r : Range} :
    between? start stop = some r ↔ r.start = start ∧ r.stop = stop := by
  unfold between?
  split
  · constructor
    · rintro ⟨⟩
      exact ⟨rfl, rfl⟩
    · rintro ⟨rfl, rfl⟩
      rfl
  · rename_i h
    constructor
    · intro hr
      simp at hr
    · rintro ⟨rfl, rfl⟩
      exact absurd r.ordered h

theorem between?_eq_none_iff {start stop : Position} :
    between? start stop = none ↔ stop < start := by
  unfold between?
  split
  · rename_i h
    exact ⟨fun hr => by simp at hr, fun hr => absurd hr h⟩
  · rename_i h
    exact ⟨fun _ => Decidable.not_not.mp h, fun _ => rfl⟩

/-! ## Slices -/

/-- The lines of a slice, the first cut at its start and the last at its end. -/
def sliceLines (r : Range) (lines : List (List Char)) : List (List Char) :=
  let last := min r.stop.line (lines.length - 1)
  let uptoStop (l : List Char) := if r.stop.line = last then l.take r.stop.column else l
  if r.start.line ≥ lines.length then
    []
  else if r.start.line = last then
    [(uptoStop (lines.getD last [])).drop r.start.column]
  else
    (lines.getD r.start.line []).drop r.start.column ::
      ((lines.take last).drop (r.start.line + 1) ++ [uptoStop (lines.getD last [])])

/-- The text that the range covers, with its line feeds. -/
def slice (r : Range) (text : String) : String :=
  String.ofList (['\n'].intercalate (r.sliceLines (text.toList.splitOn '\n')))

end Range

end LintRelay
