import Mathlib.Data.List.Basic
import Mathlib.Tactic.SplitIfs
import LintRelay.Report.Scanner

/-!
# The outline of a report

What a report says, read off its tokens without a state. The tokens are cut at
every `file_path`, each section at every `message`, and each problem at the keys
that begin another part of it. Whatever stands before the first cut of a kind
belongs to nothing.

The second half shows what a draft holds after the tokens of its problem: the
same parts, token by token.
-/

namespace LintRelay.Report

open LintRelay.Text LintRelay.Decimal

/-- The tokens whose marker `opens` admits, each with the tokens up to the next
of them. -/
def sections (opens : Marker → Bool) : List Token → List (Token × List Token)
  | [] => []
  | t :: ts =>
    if opens t.marker then
      (t, ts.takeWhile fun u => !opens u.marker) :: sections opens ts
    else
      sections opens ts

/-- The keys after which text no longer belongs to the part before them. -/
def Marker.opensPart : Marker → Bool
  | suggestion | location | ruleId | ruleDocUri => true
  | _ => false

/-- The tokens before the first key that begins another part. -/
def ownTokens (ts : List Token) : List Token :=
  ts.takeWhile fun t => !t.marker.opensPart

/-- The last part that begins with the key `m`: the key and the part's tokens. -/
def lastPart? (m : Marker) (ts : List Token) : Option (Token × List Token) :=
  ((sections Marker.opensPart ts).filter fun p => p.1.marker = m).getLast?

/-- The lines of free text among the tokens. -/
def textLines (ts : List Token) : List String :=
  (ts.filter fun t => t.marker = .text).map Token.value

/-- The tokens that count in a location: the keys of positions, and free text. -/
def locatedTokens (ts : List Token) : List Token :=
  ts.filter fun t => t.marker.isPosition || t.marker = .text

/-- The texts of the coordinates among the tokens. -/
def coordinateTexts (ts : List Token) : List (List Char) :=
  (ts.filter fun t => t.marker = .lineNumber ∨ t.marker = .columnNumber).map fun t =>
    trim t.value.toList

/-- The number that a text of decimal digits denotes, however long it is. -/
def numeral? (cs : List Char) : Option Nat :=
  if isNumeral cs then some (Nat.ofDigitChars 10 cs 0) else none

/-- The range that the tokens of a location describe: the six keys in their
order and nothing else, four numerals, and an end that does not come first. -/
def describedRange? (ts : List Token) : Option Range :=
  if ts.map Token.marker = locationLayout then
    match (coordinateTexts ts).map numeral? with
    | [some a, some b, some c, some d] => Range.between? ⟨a, b⟩ ⟨c, d⟩
    | _ => none
  else
    none

/-- A problem as it stands in a report: what follows its key, and the tokens up
to the next problem. -/
structure Item where
  headline : String
  body : List Token
  deriving DecidableEq

namespace Item

/-- The lines of the message. A header that only announces a block is none. -/
def messageLines (i : Item) : List String :=
  (if i.headline = "" ∨ isBlockIndicator i.headline then [] else [i.headline]) ++
    textLines (ownTokens i.body)

def suggestionLines (i : Item) : List String :=
  match lastPart? .suggestion i.body with
  | none => []
  | some (key, part) => (if key.value = "" then [] else [key.value]) ++ textLines part

/-- The suggestion, unless there is none or only the placeholder. -/
def suggestion? (i : Item) : Option String :=
  if i.suggestionLines = [] then none else normalSuggestion (unlines i.suggestionLines)

def location? (i : Item) : Option (List Token) :=
  (lastPart? .location i.body).map fun p => locatedTokens p.2

def range? (i : Item) : Option Range :=
  i.location?.bind describedRange?

/-- What follows the last key `m`. -/
def field (i : Item) (m : Marker) : String :=
  match lastPart? m i.body with
  | none => ""
  | some (key, _) => key.value

/-- The finding that the problem states, placed at `range`. -/
def findingAt (i : Item) (range : Range) : Finding :=
  { message := stripped (unlines i.messageLines)
    range
    ruleId := i.field .ruleId
    ruleDocUri := i.field .ruleDocUri
    suggestion := i.suggestion? }

/-- The finding that the problem states. One without a readable location stands
at the zero range. -/
def finding (i : Item) : Finding :=
  i.findingAt (i.range?.getD Range.zero)

/-- Every coordinate that is reached is short enough to be read: those up to the
first one that is no numeral, in a location with the right keys. -/
def CoordinatesFit (i : Item) : Prop :=
  ∀ ts ∈ i.location?, ts.map Token.marker = locationLayout →
    ∀ cs ∈ (coordinateTexts ts).takeWhile isNumeral, cs.length ≤ maxDigits

end Item

def items (ts : List Token) : List Item :=
  (sections (fun m => m = .message) ts).map fun p => ⟨p.1.value, p.2⟩

def fileSections (ts : List Token) : List (Token × List Token) :=
  sections (fun m => m = .filePath) ts

/-- The problems of all sections of a report. -/
def allItems (ts : List Token) : List Item :=
  (fileSections ts).flatMap fun p => items p.2

/-- What a report says: its sections and their problems, in order. -/
def outline (ts : List Token) : List FileReport :=
  (fileSections ts).map fun p => ⟨p.1.value, (items p.2).map Item.finding⟩

/-! ## Cutting -/

variable {opens : Marker → Bool} {t : Token} {ts : List Token}

theorem sections_cons_of_opens (h : opens t.marker = true) :
    sections opens (t :: ts) =
      (t, ts.takeWhile fun u => !opens u.marker) :: sections opens ts := by
  rw [sections, if_pos h]

theorem sections_cons_of_not_opens (h : opens t.marker = false) :
    sections opens (t :: ts) = sections opens ts := by
  rw [sections, if_neg (by simp [h])]

theorem ownTokens_cons_of_opens (h : t.marker.opensPart = true) : ownTokens (t :: ts) = [] := by
  simp [ownTokens, h]

theorem ownTokens_cons_of_not_opens (h : t.marker.opensPart = false) :
    ownTokens (t :: ts) = t :: ownTokens ts := by
  simp [ownTokens, h]

theorem lastPart?_cons_of_not_opens {m : Marker} (h : t.marker.opensPart = false) :
    lastPart? m (t :: ts) = lastPart? m ts := by
  rw [lastPart?, sections_cons_of_not_opens h, lastPart?]

theorem lastPart?_cons_of_ne {m : Marker} (h : t.marker ≠ m) :
    lastPart? m (t :: ts) = lastPart? m ts := by
  cases ht : t.marker.opensPart with
  | false => exact lastPart?_cons_of_not_opens ht
  | true =>
      rw [lastPart?, sections_cons_of_opens ht, List.filter_cons_of_neg (by simpa using h),
        lastPart?]

/-- A key begins the last part of its kind unless there is a later one. -/
theorem lastPart?_cons_of_opens (h : t.marker.opensPart = true) :
    lastPart? t.marker (t :: ts) =
      some ((lastPart? t.marker ts).getD (t, ownTokens ts)) := by
  rw [lastPart?, sections_cons_of_opens h, List.filter_cons_of_pos (by simp), List.getLast?_cons]
  rfl

/-! ## One token more

What a token does to each field of a draft. -/

namespace Draft

variable (d : Draft)

theorem part_add_of_not_opens (h : t.marker.opensPart = false) : (d.add t).part = d.part := by
  obtain ⟨m, v⟩ := t
  cases m <;> cases hd : d.part <;>
    simp_all [add, addText, locating, Marker.opensPart]

theorem part_add_of_opens (h : t.marker.opensPart = true) :
    (d.add t).part =
      if t.marker = .suggestion then .suggestion
      else if t.marker = .location then .location
      else .rule := by
  obtain ⟨m, v⟩ := t
  cases m <;> simp_all [add, Marker.opensPart]

theorem message_add :
    (d.add t).message =
      if d.part = .message ∧ t.marker = .text then d.message ++ [t.value] else d.message := by
  obtain ⟨m, v⟩ := t
  cases m <;> cases hd : d.part <;> simp [add, addText, locating, hd]

theorem suggestion_add_of_ne (h : t.marker ≠ .suggestion) :
    (d.add t).suggestion =
      if d.part = .suggestion ∧ t.marker = .text then d.suggestion ++ [t.value]
      else d.suggestion := by
  obtain ⟨m, v⟩ := t
  cases m <;> cases hd : d.part <;> simp_all [add, addText, locating]

theorem location_add_of_ne (h : t.marker ≠ .location) :
    (d.add t).location =
      if d.part = .location ∧ (t.marker.isPosition || t.marker = .text) then
        d.location.map (· ++ [t])
      else d.location := by
  obtain ⟨m, v⟩ := t
  cases m <;> cases hd : d.part <;> simp_all [add, addText, locating, Marker.isPosition]

theorem ruleId_add_of_ne (h : t.marker ≠ .ruleId) : (d.add t).ruleId = d.ruleId := by
  obtain ⟨m, v⟩ := t
  cases m <;> cases hd : d.part <;> simp_all [add, addText, locating]

theorem ruleDocUri_add_of_ne (h : t.marker ≠ .ruleDocUri) :
    (d.add t).ruleDocUri = d.ruleDocUri := by
  obtain ⟨m, v⟩ := t
  cases m <;> cases hd : d.part <;> simp_all [add, addText, locating]

/-! ## All tokens of a problem -/

/-- The message grows by the text before the first key of another part. -/
theorem message_foldl_add (ts : List Token) :
    (ts.foldl add d).message =
      d.message ++ if d.part = .message then textLines (ownTokens ts) else [] := by
  induction ts generalizing d with
  | nil => simp [ownTokens, textLines]
  | cons t ts ih =>
      rw [List.foldl_cons, ih, message_add]
      cases ht : t.marker.opensPart with
      | true =>
          have htext : t.marker ≠ .text := by
            intro h
            simp [h, Marker.opensPart] at ht
          have hpart : (d.add t).part ≠ .message := by
            rw [part_add_of_opens d ht]
            split_ifs <;> simp
          rw [ownTokens_cons_of_opens ht, if_neg hpart, if_neg (by simp [htext])]
          simp [textLines]
      | false =>
          rw [part_add_of_not_opens d ht, ownTokens_cons_of_not_opens ht]
          by_cases hpart : d.part = .message <;> by_cases htext : t.marker = .text <;>
            simp [textLines, hpart, htext]

theorem suggestion_foldl_add (ts : List Token) :
    (ts.foldl add d).suggestion =
      match lastPart? .suggestion ts with
      | none => d.suggestion ++ if d.part = .suggestion then textLines (ownTokens ts) else []
      | some (key, part) => (if key.value = "" then [] else [key.value]) ++ textLines part := by
  induction ts generalizing d with
  | nil => simp [lastPart?, sections, ownTokens, textLines]
  | cons t ts ih =>
      rw [List.foldl_cons, ih]
      by_cases hkey : t.marker = .suggestion
      · have hadd : (d.add t).suggestion = if t.value = "" then [] else [t.value] := by
          simp [add, hkey]
        have hpart : (d.add t).part = .suggestion := by
          simp [add, hkey]
        rw [← hkey, lastPart?_cons_of_opens (by simp [hkey, Marker.opensPart]), hkey, hadd,
          if_pos hpart]
        cases lastPart? .suggestion ts <;> rfl
      · rw [lastPart?_cons_of_ne hkey, suggestion_add_of_ne d hkey]
        cases ht : t.marker.opensPart with
        | true =>
            -- another part begins: text no longer goes to the suggestion
            have htext : t.marker ≠ .text := by
              intro h
              simp [h, Marker.opensPart] at ht
            have hpart : (d.add t).part ≠ .suggestion := by
              rw [part_add_of_opens d ht, if_neg hkey]
              split_ifs <;> simp
            rw [ownTokens_cons_of_opens ht, if_neg hpart, if_neg (by simp [htext])]
            simp [textLines]
        | false =>
            rw [part_add_of_not_opens d ht, ownTokens_cons_of_not_opens ht]
            by_cases hpart : d.part = .suggestion <;> by_cases htext : t.marker = .text <;>
              simp [textLines, hpart, htext]

theorem location_foldl_add (ts : List Token) :
    (ts.foldl add d).location =
      match lastPart? .location ts with
      | none =>
        if d.part = .location then d.location.map (· ++ locatedTokens (ownTokens ts))
        else d.location
      | some (_, part) => some (locatedTokens part) := by
  induction ts generalizing d with
  | nil => simp [lastPart?, sections, ownTokens, locatedTokens]
  | cons t ts ih =>
      rw [List.foldl_cons, ih]
      by_cases hkey : t.marker = .location
      · have hadd : (d.add t).location = some [] := by
          simp [add, hkey]
        have hpart : (d.add t).part = .location := by
          simp [add, hkey]
        rw [← hkey, lastPart?_cons_of_opens (by simp [hkey, Marker.opensPart]), hkey, hadd,
          if_pos hpart]
        cases lastPart? .location ts <;> rfl
      · rw [lastPart?_cons_of_ne hkey, location_add_of_ne d hkey]
        cases ht : t.marker.opensPart with
        | true =>
            -- the same for positions, which no other part takes
            have hcount : (t.marker.isPosition || t.marker = .text) = false := by
              revert ht
              cases t.marker <;> simp [Marker.opensPart, Marker.isPosition]
            have hpart : (d.add t).part ≠ .location := by
              rw [part_add_of_opens d ht, if_neg hkey]
              split_ifs <;> simp
            rw [ownTokens_cons_of_opens ht, if_neg hpart, hcount, if_neg (by simp)]
            simp [locatedTokens]
        | false =>
            rw [part_add_of_not_opens d ht, ownTokens_cons_of_not_opens ht]
            by_cases hpart : d.part = .location <;>
              cases hcount : (t.marker.isPosition || t.marker = .text) <;>
              simp [locatedTokens, hpart, hcount, Function.comp_def]

/-- A field that one key alone sets holds what follows the last such key. -/
theorem field_foldl_add {f : Draft → String} {m : Marker} (hopens : m.opensPart = true)
    (hkey : ∀ d t, t.marker = m → f (add d t) = t.value)
    (hother : ∀ d t, t.marker ≠ m → f (add d t) = f d) (ts : List Token) :
    f (ts.foldl add d) =
      match lastPart? m ts with
      | none => f d
      | some (key, _) => key.value := by
  induction ts generalizing d with
  | nil => rfl
  | cons t ts ih =>
      rw [List.foldl_cons, ih]
      by_cases ht : t.marker = m
      · subst ht
        rw [lastPart?_cons_of_opens hopens, hkey d t rfl]
        cases lastPart? t.marker ts <;> rfl
      · rw [lastPart?_cons_of_ne ht, hother d t ht]

theorem ruleId_foldl_add (ts : List Token) :
    (ts.foldl add d).ruleId =
      match lastPart? .ruleId ts with
      | none => d.ruleId
      | some (key, _) => key.value :=
  field_foldl_add d rfl (fun d t h => by simp [add, h]) (fun d _ h => ruleId_add_of_ne d h) ts

theorem ruleDocUri_foldl_add (ts : List Token) :
    (ts.foldl add d).ruleDocUri =
      match lastPart? .ruleDocUri ts with
      | none => d.ruleDocUri
      | some (key, _) => key.value :=
  field_foldl_add d rfl (fun d t h => by simp [add, h]) (fun d _ h => ruleDocUri_add_of_ne d h) ts

end Draft

end LintRelay.Report
