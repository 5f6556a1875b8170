import LintRelay.Console.Theme
import LintRelay.Text.Cells

/-!
# Styled text

Text with styles for spans of it. Where spans meet, the style of a later one
lies on top. A text is written piece by piece, and a piece ends wherever a span
begins or ends.
-/

namespace LintRelay.Console

open LintRelay.Text

/-- A part of a text, from one character up to another, and the name of its
style. -/
structure Span where
  start : Nat
  stop : Nat
  style : String
  deriving DecidableEq, Repr, Inhabited

/-- A text and its spans, the lowest first. -/
structure StyledText where
  chars : List Char := []
  spans : List Span := []
  deriving DecidableEq, Repr, Inhabited

/-- A control character that is not shown: the bell, the backspace, the vertical
tab, the form feed and the carriage return. -/
def isHidden (c : Char) : Bool :=
  c.toNat ∈ [7, 8, 11, 12, 13]

def shown (cs : List Char) : List Char :=
  cs.filter fun c => !isHidden c

def tabWidth : Nat := 8

namespace StyledText

def inStyle (style : String) (cs : List Char) : StyledText :=
  if cs = [] then {} else ⟨cs, [⟨0, cs.length, style⟩]⟩

def append (t u : StyledText) : StyledText :=
  ⟨t.chars ++ u.chars, t.spans ++ u.spans.map fun s =>
    { s with start := s.start + t.chars.length, stop := s.stop + t.chars.length }⟩

instance : Append StyledText := ⟨append⟩

/-- The part of a text from one character up to another. -/
def slice (t : StyledText) (start stop : Nat) : StyledText :=
  ⟨(t.chars.take stop).drop start, t.spans.filterMap fun s =>
    let low := max s.start start
    let high := min s.stop stop
    if low < high then some { s with start := low - start, stop := high - start } else none⟩

/-- Put other characters in the place of those of a text; spans beyond their end
are cut. -/
def setChars (t : StyledText) (cs : List Char) : StyledText :=
  ⟨cs, t.spans.filterMap fun s =>
    if s.start < cs.length then some { s with stop := min s.stop cs.length } else none⟩

def padEnd (t : StyledText) (n : Nat) : StyledText :=
  ⟨t.chars ++ spaces n, t.spans.map fun s =>
    if t.chars.length ≤ s.stop then { s with stop := s.stop + n } else s⟩

/-- The parts of a text of these lengths, and what is left after them. -/
def cutAt (t : StyledText) (start : Nat) : List Nat → List StyledText
  | [] => []
  | n :: rest => t.slice start (start + n) :: t.cutAt (start + n) rest

/-- The lengths of the pieces that end with a character, and of the last one. -/
def lengthsTo (mark : Char) (cs : List Char) : List Nat :=
  let pieces := cs.splitOn mark
  pieces.dropLast.map (·.length + 1) ++ [(pieces.getLastD []).length]

/-- Pieces that end with tabs, each filled up to the next tab stop. -/
def fillTabs : (position : Nat) → List StyledText → StyledText
  | _, [] => {}
  | position, piece :: rest =>
    match piece.chars.getLast? with
    | some '\t' =>
      let filled := { piece with chars := piece.chars.dropLast ++ [' '] }
      let reached := position + cells filled.chars
      let missing := (tabWidth - reached % tabWidth) % tabWidth
      filled.padEnd missing ++ fillTabs (reached + missing) rest
    | _ => piece ++ fillTabs (position + cells piece.chars) rest

/-- A line with spaces in the place of its tabs. -/
def expandTabs (t : StyledText) : StyledText :=
  if t.chars.contains '\t' then fillTabs 0 (t.cutAt 0 (lengthsTo '\t' t.chars)) else t

def lines (t : StyledText) : List StyledText :=
  (t.cutAt 0 (lengthsTo '\n' t.chars)).map fun line =>
    if line.chars.getLast? = some '\n' then line.slice 0 (line.chars.length - 1) else line

/-- The places where spans begin or end, in their order. -/
def bounds (t : StyledText) : List Nat :=
  ((t.spans.flatMap fun s => [s.start, s.stop]) ++ [t.chars.length]).mergeSort

/-- The style of what lies from one place up to another. -/
def styleAt (styles : List (Span × Style)) (start stop : Nat) : Style :=
  (styles.filter fun s => s.1.start ≤ start && stop ≤ s.1.stop).foldl (·.below ·.2) {}

/-- The pieces of a text that lie between the places, as they are written. -/
def piecesTo (styles : List (Span × Style)) (start : Nat) : List Nat → List Char → List Char
  | [], _ => []
  | stop :: rest, cs =>
    (styleAt styles start stop).paint (cs.take (stop - start)) ++
      piecesTo styles (max start stop) rest (cs.drop (stop - start))

/-- A text as it is written, with its styles if the terminal shows any. -/
def render (t : StyledText) (styled : Bool) : Except MixtureError (List Char) := do
  let styles ← t.spans.mapM fun s => do return (s, ← styleOf s.style)
  return if styled then piecesTo styles 0 t.bounds t.chars else t.chars

end StyledText

end LintRelay.Console
