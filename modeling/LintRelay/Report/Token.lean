import LintRelay.Fault
import LintRelay.Text.Classes
import LintRelay.Text.Lines

/-!
# Report tokens

The linter writes its findings as indented `key: value` lines. A line is cut
into tokens: a key with the text up to the next key, or free text before the
first key. A key counts only at the start of the line or after a blank, and
only if a blank or the end of the line follows its colon.
-/

namespace LintRelay.Report

open LintRelay.Text

/-- The keys of a report, and `text` for free text. -/
inductive Marker where
  | filePath
  | problems
  | message
  | suggestion
  | location
  | startPosition
  | endPosition
  | lineNumber
  | columnNumber
  | ruleId
  | ruleDocUri
  | text
  deriving DecidableEq, Repr, Inhabited

namespace Marker

def name : Marker → String
  | filePath => "file_path"
  | problems => "problems"
  | message => "message"
  | suggestion => "suggestion"
  | location => "location"
  | startPosition => "start_position"
  | endPosition => "end_position"
  | lineNumber => "line_number"
  | columnNumber => "column_number"
  | ruleId => "rule_id"
  | ruleDocUri => "rule_doc_uri"
  | text => "text"

def keys : List Marker :=
  [filePath, problems, message, suggestion, location, startPosition, endPosition, lineNumber,
    columnNumber, ruleId, ruleDocUri]

def ofName? (s : String) : Option Marker :=
  (keys ++ [text]).find? (·.name = s)

def keyOf? (cs : List Char) : Option Marker :=
  keys.find? (·.name.toList = cs)

/-- The keys of a position, which count inside a location only. -/
def isPosition : Marker → Bool
  | startPosition | endPosition | lineNumber | columnNumber => true
  | _ => false

/-- Whether a key counts where it stands: `problems` only at the start of the
line, the two that open a list item only after their dash. -/
def counts (m : Marker) (first dashed : Bool) : Bool :=
  match m with
  | problems => first
  | filePath | message => dashed
  | _ => true

end Marker

/-- A key, or free text, with the text that belongs to it. -/
structure Token where
  marker : Marker
  value : String := ""
  deriving DecidableEq, Repr, Inhabited

/-- The key at the start of `cs`, without regard to a dash, and what follows
its colon. -/
def bareKey? (cs : List Char) : Option (Marker × List Char) :=
  match cs.dropWhile (· ≠ ':') with
  | ':' :: rest =>
    if rest.head?.all isBlank then
      (Marker.keyOf? (cs.takeWhile (· ≠ ':'))).map (·, rest)
    else
      none
  | _ => none

/-- Drop a list dash with the blanks after it, and say whether there was one. -/
def undash (cs : List Char) : List Char × Bool :=
  match cs with
  | '-' :: b :: rest => if isBlank b then (trimStart rest, true) else (cs, false)
  | _ => (cs, false)

/-- The key at the start of `cs`, with or without a dash before it, and what
follows its colon; `first` says whether `cs` is the whole line. -/
def keyAt? (first : Bool) (cs : List Char) : Option (Marker × List Char) :=
  (bareKey? (undash cs).1).filter fun (m, _) => m.counts first (undash cs).2

theorem bareKey?_length {cs rest : List Char} {m : Marker} (h : bareKey? cs = some (m, rest)) :
    rest.length < cs.length := by
  unfold bareKey? at h
  split at h
  · rename_i r hr
    split at h
    · simp only [Option.map_eq_some_iff, Prod.mk.injEq] at h
      obtain ⟨_, _, _, rfl⟩ := h
      have hle := (List.dropWhile_sublist (· ≠ ':') (l := cs)).length_le
      rw [hr, List.length_cons] at hle
      exact hle
    · simp at h
  · simp at h

theorem undash_length (cs : List Char) : (undash cs).1.length ≤ cs.length := by
  unfold undash
  split
  · rename_i b rest
    split
    · have hle := (List.dropWhile_sublist isBlank (l := rest)).length_le
      simp only [trimStart, List.length_cons]
      omega
    · exact Nat.le_refl _
  · exact Nat.le_refl _

theorem keyAt?_length {first : Bool} {cs rest : List Char} {m : Marker}
    (h : keyAt? first cs = some (m, rest)) : rest.length < cs.length :=
  Nat.lt_of_lt_of_le (bareKey?_length (Option.filter_eq_some_iff.mp h).1) (undash_length cs)

/-- Cut `cs` at its keys: the text before the first one, then the tokens.
`fresh` says whether a key may start here. -/
def cutAtKeys (first fresh : Bool) (cs : List Char) : List Char × List Token :=
  match _found : if fresh then keyAt? first cs else none with
  | some (m, rest) =>
    let (value, tokens) := cutAtKeys false false rest
    ([], ⟨m, String.ofList (trim value)⟩ :: tokens)
  | none =>
    match cs with
    | [] => ([], [])
    | c :: rest =>
      let (value, tokens) := cutAtKeys false (isBlank c) rest
      (c :: value, tokens)
termination_by cs.length
decreasing_by
  · split at _found
    · exact keyAt?_length _found
    · simp at _found
  · simp

def lineTokens (line : String) : List Token :=
  let (lead, tokens) := cutAtKeys true true (trim line.toList)
  let lead := trim lead
  if lead.isEmpty then tokens else ⟨.text, String.ofList lead⟩ :: tokens

/-- The lines that a value gives: those of a text, the items of a list, the keys
of a table, and none where there is nothing. Any other value has no lines. -/
def linesOf : Value → Except Fault (List String)
  | .null => .ok []
  | .text s => .ok (lines s)
  | .list items => items.mapM fun v => Fault.wording [v] v.display
  | .table entries => .ok (entries.map (·.1))
  | v => .error (.saying "TypeError" (quoted v.kindName ++ " object is not iterable"))

/-- The tokens of several lines, each with the index of its line. -/
def indexedTokens (lines : List String) : List (Nat × Token) :=
  lines.zipIdx.flatMap fun (line, i) => (lineTokens line).map (i, ·)

end LintRelay.Report
