import Mathlib.Data.List.Forall2
import LintRelay.Proofs.Report.Concatenation
import LintRelay.Proofs.Report.RoundTrip

/-!
# What location blocks say, and what they leave alone

The last location of a problem states its range with six keys in order and four numerals, or
else the problem stands at the zero range. Nothing else hangs on what is in a location: two
reports that differ only there give the same findings, but for the range of one.
-/

namespace LintRelay.Report

open LintRelay.Text LintRelay.Decimal

/-- The position that the texts of two coordinates denote. -/
def positionOf (line column : String) : Position :=
  ⟨Nat.ofDigitChars 10 (trim line.toList) 0, Nat.ofDigitChars 10 (trim column.toList) 0⟩

/-- The tokens are the six keys of a location in their order, with four numerals that state the
range `r`. What follows the two headings does not count, nor do blanks around a numeral. -/
def StatesRange (ts : List Token) (r : Range) : Prop :=
  ∃ u a b v c d : String,
    ts = [⟨.startPosition, u⟩, ⟨.lineNumber, a⟩, ⟨.columnNumber, b⟩,
      ⟨.endPosition, v⟩, ⟨.lineNumber, c⟩, ⟨.columnNumber, d⟩] ∧
    (∀ s ∈ [a, b, c, d], isNumeral (trim s.toList) = true) ∧
    r.start = positionOf a b ∧ r.stop = positionOf c d

/-- The last location of a problem states the range `r`; keys `problems` in it are ignored. -/
def Item.StatesRange (i : Item) (r : Range) : Prop :=
  ∃ ts, i.location? = some ts ∧ Report.StatesRange ts r

/-- A finding stands at the range that its problem states, or at the zero range. -/
def Item.Places (i : Item) (f : Finding) : Prop :=
  (∀ r, i.StatesRange r → f.range = r) ∧ ((∀ r, ¬ i.StatesRange r) → f.range = Range.zero)

/-- Every coordinate that is a numeral has few enough digits to be read. -/
def CoordinatesReadable (ts : List Token) : Prop :=
  ∀ t ∈ ts, t.marker = .lineNumber ∨ t.marker = .columnNumber →
    isNumeral (trim t.value.toList) = true → (trim t.value.toList).length ≤ maxDigits

instance (ts : List Token) : Decidable (CoordinatesReadable ts) :=
  inferInstanceAs (Decidable (∀ t ∈ ts, t.marker = .lineNumber ∨ t.marker = .columnNumber →
    isNumeral (trim t.value.toList) = true → (trim t.value.toList).length ≤ maxDigits))

/-- The keys that end a problem. -/
def Marker.endsItem (m : Marker) : Bool :=
  m = .message ∨ m = .filePath

/-- The tokens of a problem without the positions and the free text inside its locations;
`inside` says whether the first of them stand in a location. -/
def outsideLocations (inside : Bool) : List Token → List Token
  | [] => []
  | t :: ts =>
    if t.marker.opensPart then
      t :: outsideLocations (t.marker = .location) ts
    else if inside && (t.marker.isPosition || t.marker = .text) then
      outsideLocations inside ts
    else
      t :: outsideLocations inside ts

/-- Two lists of tokens that differ in the locations of one problem only, behind `k` problems
of files. -/
inductive DifferInLocations : Nat → List Token → List Token → Prop where
  | intro (front : List Token) (v : String) (body body' rest : List Token)
      (hbody : ∀ t ∈ body, t.marker.endsItem = false)
      (hbody' : ∀ t ∈ body', t.marker.endsItem = false)
      (hrest : rest.head?.all fun t => t.marker.endsItem)
      (h : outsideLocations false body = outsideLocations false body') :
      DifferInLocations (allItems front).length (front ++ ⟨.message, v⟩ :: (body ++ rest))
        (front ++ ⟨.message, v⟩ :: (body' ++ rest))

/-- Reports that are the same, but for the range of the finding behind `k` others. -/
inductive SameButRange : Nat → List FileReport → List FileReport → Prop where
  | refl (k : Nat) (rs : List FileReport) : SameButRange k rs rs
  | range (before after : List FileReport) (path : String) (fs gs : List Finding) (f : Finding)
      (r : Range) :
      SameButRange ((FileReport.allFindings before).length + fs.length)
        (before ++ ⟨path, fs ++ f :: gs⟩ :: after)
        (before ++ ⟨path, fs ++ { f with range := r } :: gs⟩ :: after)

/-! ## The range of a location -/

theorem map_marker_eq_layout_iff {ts : List Token} :
    ts.map Token.marker = locationLayout ↔ ∃ u a b v c d : String,
      ts = [⟨.startPosition, u⟩, ⟨.lineNumber, a⟩, ⟨.columnNumber, b⟩,
        ⟨.endPosition, v⟩, ⟨.lineNumber, c⟩, ⟨.columnNumber, d⟩] := by
  constructor
  · intro h
    simp only [locationLayout, List.map_eq_cons_iff, List.map_eq_nil_iff] at h
    obtain ⟨⟨_, u⟩, _, rfl, rfl, ⟨_, a⟩, _, rfl, rfl, ⟨_, b⟩, _, rfl, rfl, ⟨_, v⟩, _, rfl, rfl,
      ⟨_, c⟩, _, rfl, rfl, ⟨_, d⟩, _, rfl, rfl, rfl⟩ := h
    exact ⟨u, a, b, v, c, d, rfl⟩
  · rintro ⟨u, a, b, v, c, d, rfl⟩
    rfl

theorem numeral?_eq_some_iff {cs : List Char} {n : Nat} :
    numeral? cs = some n ↔ isNumeral cs = true ∧ Nat.ofDigitChars 10 cs 0 = n := by
  rw [numeral?]
  split_ifs with h
  · simp [h]
  · simp [h]

theorem describedRange?_eq_some_iff {ts : List Token} {r : Range} :
    describedRange? ts = some r ↔ StatesRange ts r := by
  by_cases hlayout : ts.map Token.marker = locationLayout
  · obtain ⟨u, a, b, v, c, d, rfl⟩ := map_marker_eq_layout_iff.mp hlayout
    have htexts : coordinateTexts [⟨.startPosition, u⟩, ⟨.lineNumber, a⟩, ⟨.columnNumber, b⟩,
        ⟨.endPosition, v⟩, ⟨.lineNumber, c⟩, ⟨.columnNumber, d⟩] =
          [trim a.toList, trim b.toList, trim c.toList, trim d.toList] := rfl
    rw [describedRange?, if_pos hlayout, htexts]
    simp only [List.map_cons, List.map_nil]
    constructor
    · intro h
      split at h
      · rename_i heq
        simp only [List.cons.injEq, numeral?_eq_some_iff, and_true] at heq
        obtain ⟨⟨ha, rfl⟩, ⟨hb, rfl⟩, ⟨hc, rfl⟩, hd, rfl⟩ := heq
        exact ⟨u, a, b, v, c, d, rfl, by simp [ha, hb, hc, hd], Range.between?_eq_some_iff.mp h⟩
      · cases h
    · rintro ⟨_, _, _, _, _, _, hts, hnum, hends⟩
      simp only [List.cons.injEq, Token.mk.injEq, true_and, and_true] at hts
      obtain ⟨-, rfl, rfl, -, rfl, rfl⟩ := hts
      have hread : ∀ s ∈ [a, b, c, d], numeral? (trim s.toList) =
          some (Nat.ofDigitChars 10 (trim s.toList) 0) :=
        fun s hs => numeral?_eq_some_iff.mpr ⟨hnum s hs, rfl⟩
      simp only [List.forall_mem_cons] at hread
      obtain ⟨ha, hb, hc, hd, -⟩ := hread
      simp only [ha, hb, hc, hd]
      exact Range.between?_eq_some_iff.mpr hends
  · rw [describedRange?, if_neg hlayout]
    refine iff_of_false (Option.some_ne_none r).symm ?_
    rintro ⟨u, a, b, v, c, d, hts, -⟩
    exact hlayout (map_marker_eq_layout_iff.mpr ⟨u, a, b, v, c, d, hts⟩)

theorem Item.range?_eq_some_iff {i : Item} {r : Range} :
    i.range? = some r ↔ i.StatesRange r := by
  rw [Item.range?, Option.bind_eq_some_iff]
  exact exists_congr fun ts => and_congr_right fun _ => describedRange?_eq_some_iff

theorem Item.places_finding (i : Item) : i.Places i.finding := by
  refine ⟨fun r h => ?_, fun h => ?_⟩
  · change i.range?.getD Range.zero = r
    rw [Item.range?_eq_some_iff.mpr h]
    rfl
  · change i.range?.getD Range.zero = Range.zero
    cases hr : i.range? with
    | none => rfl
    | some r => exact absurd (Item.range?_eq_some_iff.mp hr) (h r)

/-! ## Coordinates that can be read -/

theorem Item.coordinatesFit {ts : List Token} {i : Item} (h : CoordinatesReadable ts)
    (hi : i ∈ allItems ts) : i.CoordinatesFit := by
  intro block hblock _ cs hcs
  obtain ⟨p, hp, hi⟩ := List.mem_flatMap.mp hi
  obtain ⟨q, hq, rfl⟩ := List.mem_map.mp hi
  obtain ⟨part, hpart, rfl⟩ := Option.map_eq_some_iff.mp hblock
  obtain ⟨t, ht, rfl⟩ := List.mem_map.mp ((List.takeWhile_sublist _).subset hcs)
  obtain ⟨ht, hmarker⟩ := List.mem_filter.mp ht
  have hmem : t ∈ ts := (mem_sections hp).2.1
    ((mem_sections hq).2.1 ((mem_lastPart? hpart).2 (List.mem_of_mem_filter ht)))
  exact h t hmem (by simpa using hmarker) (List.mem_takeWhile_imp hcs)

/-- The scanner reports the outline where all coordinates can be read. -/
theorem outcome_of_readable {ts : List (Nat × Token)} (h : CoordinatesReadable (ts.map (·.2))) :
    Scanner.outcome {} ts = .ok (outline (ts.map (·.2))) := by
  rw [outcome_start]
  exact readSections_of_fits fun i hi => Item.coordinatesFit h hi

theorem allFindings_outline (ts : List Token) :
    FileReport.allFindings (outline ts) = (allItems ts).map Item.finding := by
  simp only [FileReport.allFindings, outline, allItems, List.flatMap_map, List.map_flatMap]

/-! ## Outside the locations -/

theorem outsideLocations_cons_of_opens {inside : Bool} {t : Token} {ts : List Token}
    (h : t.marker.opensPart = true) :
    outsideLocations inside (t :: ts) = t :: outsideLocations (t.marker = .location) ts := by
  rw [outsideLocations, if_pos h]

/-- The tokens before another part begins are all there, outside a location. -/
theorem ownTokens_outsideLocations (ts : List Token) :
    ownTokens (outsideLocations false ts) = ownTokens ts := by
  induction ts with
  | nil => rfl
  | cons t ts ih =>
      cases ht : t.marker.opensPart with
      | true =>
          rw [outsideLocations_cons_of_opens ht, ownTokens_cons_of_opens ht,
            ownTokens_cons_of_opens ht]
      | false =>
          have hkeep : outsideLocations false (t :: ts) = t :: outsideLocations false ts := by
            simp [outsideLocations, ht]
          rw [hkeep, ownTokens_cons_of_not_opens ht, ownTokens_cons_of_not_opens ht, ih]

/-- A part that is no location is all there. -/
theorem lastPart?_outsideLocations {m : Marker} (hm : m ≠ .location) (inside : Bool)
    (ts : List Token) : lastPart? m (outsideLocations inside ts) = lastPart? m ts := by
  induction ts generalizing inside with
  | nil => rfl
  | cons t ts ih =>
      cases ht : t.marker.opensPart with
      | true =>
          rw [outsideLocations_cons_of_opens ht]
          by_cases hkey : t.marker = m
          · subst hkey
            have hout : decide (t.marker = .location) = false := by simpa using hm
            rw [lastPart?_cons_of_opens ht, lastPart?_cons_of_opens ht, ih, hout,
              ownTokens_outsideLocations]
          · rw [lastPart?_cons_of_ne hkey, lastPart?_cons_of_ne hkey, ih]
      | false =>
          rw [lastPart?_cons_of_not_opens ht, outsideLocations, if_neg (by simp [ht])]
          split_ifs
          · exact ih inside
          · rw [lastPart?_cons_of_not_opens ht, ih]

/-- What a problem says but for its range stands outside its locations. -/
theorem findingAt_congr {body body' : List Token} (v : String) (r : Range)
    (h : outsideLocations false body = outsideLocations false body') :
    (Item.mk v body).findingAt r = (Item.mk v body').findingAt r := by
  have hown : ownTokens body = ownTokens body' := by
    rw [← ownTokens_outsideLocations, h, ownTokens_outsideLocations]
  have hpart : ∀ m, m ≠ .location → lastPart? m body = lastPart? m body' := by
    intro m hm
    rw [← lastPart?_outsideLocations hm false, h, lastPart?_outsideLocations hm]
  have hmessage : Item.messageLines ⟨v, body⟩ = Item.messageLines ⟨v, body'⟩ := by
    rw [Item.messageLines, Item.messageLines, hown]
  have hsuggestion : Item.suggestion? ⟨v, body⟩ = Item.suggestion? ⟨v, body'⟩ := by
    rw [Item.suggestion?, Item.suggestion?, Item.suggestionLines, Item.suggestionLines,
      hpart .suggestion (by decide)]
  have hfield : ∀ m, m ≠ .location → Item.field ⟨v, body⟩ m = Item.field ⟨v, body'⟩ m := by
    intro m hm
    rw [Item.field, Item.field, hpart m hm]
  rw [Item.findingAt, Item.findingAt, hmessage, hsuggestion, hfield .ruleId (by decide),
    hfield .ruleDocUri (by decide)]

/-! ## One problem among others -/

/-- The last token that opens a section, if there is any. -/
theorem exists_last_opening (opens : Marker → Bool) (ts : List Token) :
    (∀ t ∈ ts, opens t.marker = false) ∨
      ∃ pre key last, ts = pre ++ key :: last ∧ opens key.marker = true ∧
        ∀ t ∈ last, opens t.marker = false := by
  induction ts with
  | nil => exact .inl fun t ht => absurd ht List.not_mem_nil
  | cons t ts ih =>
      rcases ih with hnone | ⟨pre, key, last, rfl, hkey, hlast⟩
      · cases ht : opens t.marker with
        | false => exact .inl (List.forall_mem_cons.mpr ⟨ht, hnone⟩)
        | true => exact .inr ⟨[], t, ts, rfl, ht, hnone⟩
      · exact .inr ⟨t :: pre, key, last, rfl, hkey, hlast⟩

/-- What follows the last section of some tokens goes on with it. -/
theorem sections_append_last {opens : Marker → Bool} {pre last : List Token} {key : Token}
    (hkey : opens key.marker = true) (hlast : ∀ t ∈ last, opens t.marker = false)
    (us : List Token) :
    sections opens (pre ++ key :: last ++ us) = sections opens pre ++
      (key, last ++ us.takeWhile fun u => !opens u.marker) :: sections opens us := by
  have htake : (last ++ us).takeWhile (fun u => !opens u.marker) =
      last ++ us.takeWhile fun u => !opens u.marker :=
    List.takeWhile_append_of_pos fun u hu => by simp [hlast u hu]
  have hsplit : sections opens (pre ++ (key :: (last ++ us))) =
      sections opens pre ++ sections opens (key :: (last ++ us)) :=
    sections_append (by simpa using hkey) pre
  rw [List.append_assoc, List.cons_append, hsplit, sections_cons_of_opens hkey, htake,
    sections_append_of_not_opens hlast]

/-- A problem, between those before it in its section and the next problem or file. -/
theorem items_around {v : String} {body rest : List Token}
    (hbody : ∀ t ∈ body, t.marker.endsItem = false)
    (hrest : rest.head?.all fun t => t.marker.endsItem) (last : List Token) :
    items (last ++ (⟨.message, v⟩ :: (body ++ rest)).takeWhile
        fun u => !decide (u.marker = .filePath)) =
      items last ++ ⟨v, body⟩ ::
        items (rest.takeWhile fun u => !decide (u.marker = .filePath)) := by
  have hends : ∀ t ∈ body, t.marker ≠ .message ∧ t.marker ≠ .filePath := by
    intro t ht
    simpa [Marker.endsItem] using hbody t ht
  have htake : (⟨.message, v⟩ :: (body ++ rest)).takeWhile
        (fun u => !decide (u.marker = .filePath)) =
      ⟨.message, v⟩ :: (body ++ rest.takeWhile fun u => !decide (u.marker = .filePath)) := by
    rw [List.takeWhile_cons_of_pos (by simp),
      List.takeWhile_append_of_pos fun t ht => by simpa using (hends t ht).2]
  have hstop : (rest.takeWhile fun u => !decide (u.marker = .filePath)).takeWhile
      (fun u => !decide (u.marker = .message)) = [] := by
    cases rest with
    | nil => rfl
    | cons t rest =>
        have ht : t.marker = .message ∨ t.marker = .filePath := by
          simpa [Marker.endsItem] using hrest
        rcases ht with ht | ht <;> simp [ht]
  have hbody' : (body ++ rest.takeWhile fun u => !decide (u.marker = .filePath)).takeWhile
      (fun u => !decide (u.marker = .message)) = body := by
    rw [List.takeWhile_append_of_pos fun t ht => by simpa using (hends t ht).1, hstop,
      List.append_nil]
  rw [htake, items, sections_append (by rfl), List.map_append, sections_cons_of_opens (by rfl),
    hbody', sections_append_of_not_opens fun t ht => by simpa using (hends t ht).1]
  rfl

/-- Around a problem the outline is the same, whatever the problem says. -/
theorem outline_around (front rest : List Token) (v : String)
    (hrest : rest.head?.all fun t => t.marker.endsItem) :
    (∃ rs, ∀ body, (∀ t ∈ body, t.marker.endsItem = false) →
      outline (front ++ ⟨.message, v⟩ :: (body ++ rest)) = rs) ∨
    ∃ before path fs gs after,
      (FileReport.allFindings before).length + fs.length = (allItems front).length ∧
      ∀ body, (∀ t ∈ body, t.marker.endsItem = false) →
        outline (front ++ ⟨.message, v⟩ :: (body ++ rest)) =
          before ++ ⟨path, fs ++ (Item.mk v body).finding :: gs⟩ :: after := by
  have hfile : ∀ body : List Token, (∀ t ∈ body, t.marker.endsItem = false) →
      ∀ t ∈ (⟨.message, v⟩ : Token) :: body, decide (t.marker = .filePath) = false := by
    intro body hbody t ht
    rcases List.mem_cons.mp ht with rfl | ht
    · rfl
    · have hends := hbody t ht
      simp only [Marker.endsItem, decide_eq_false_iff_not, not_or] at hends
      simpa using hends.2
  have hbehind : ∀ body : List Token, (∀ t ∈ body, t.marker.endsItem = false) →
      fileSections (⟨.message, v⟩ :: (body ++ rest)) = fileSections rest := by
    intro body hbody
    rw [← List.cons_append]
    exact sections_append_of_not_opens (hfile body hbody)
  rcases exists_last_opening (fun m => m = .filePath) front with
    hnone | ⟨pre, key, last, rfl, hkey, hlast⟩
  · -- the problem is of no file
    refine .inl ⟨outline rest, fun body hbody => ?_⟩
    rw [outline, fileSections, sections_append_of_not_opens hnone]
    exact congrArg _ (hbehind body hbody)
  · have hsections : ∀ us : List Token, fileSections (pre ++ key :: last ++ us) =
        fileSections pre ++ (key, last ++ us.takeWhile fun u => !decide (u.marker = .filePath)) ::
          fileSections us :=
      @sections_append_last (fun m => m = .filePath) pre last key hkey hlast
    refine .inr ⟨outline pre, key.value, (items last).map Item.finding,
      (items (rest.takeWhile fun u => !decide (u.marker = .filePath))).map Item.finding,
      outline rest, ?_, fun body hbody => ?_⟩
    · have hfront := hsections []
      rw [List.append_nil, List.takeWhile_nil, List.append_nil] at hfront
      rw [allFindings_outline, allItems, allItems, hfront]
      simp [fileSections, sections]
    · rw [outline, hsections, hbehind body hbody, List.map_append, List.map_cons,
        items_around hbody hrest last, List.map_append, List.map_cons]
      rfl

/-- Reports whose tokens differ in the locations of one problem are the same but for the range
of its finding. -/
theorem outline_of_differInLocations {k : Nat} {ts ts' : List Token}
    (h : DifferInLocations k ts ts') : SameButRange k (outline ts) (outline ts') := by
  obtain ⟨front, v, body, body', rest, hbody, hbody', hrest, hout⟩ := h
  rcases outline_around front rest v hrest with
    ⟨rs, hrs⟩ | ⟨before, path, fs, gs, after, hlength, hrs⟩
  · rw [hrs body hbody, hrs body' hbody']
    exact .refl _ rs
  · have hfinding : (Item.mk v body').finding =
        { (Item.mk v body).finding with range := (Item.mk v body').range?.getD Range.zero } := by
      rw [Item.finding, ← findingAt_congr v _ hout]
      rfl
    rw [hrs body hbody, hrs body' hbody', hfinding, ← hlength]
    exact .range ..

/-! ## Locations are exact, and damage in them stays there -/

/-- **Locations are exact and contained.** From any tokens whose coordinates can be read there
are reports, and each finding stands at the range that the last location of its problem states,
or at the zero range if it states none; and where two such lists of tokens differ in the
positions and the free text inside the locations of one problem only, their reports differ in
the range of its finding only. -/
theorem locations_exact_and_contained :
    (∀ ts : List (Nat × Token), CoordinatesReadable (ts.map (·.2)) →
      ∃ rs, Scanner.outcome {} ts = .ok rs ∧
        List.Forall₂ Item.Places (allItems (ts.map (·.2))) (FileReport.allFindings rs)) ∧
    ∀ (k : Nat) (ts ts' : List (Nat × Token)),
      CoordinatesReadable (ts.map (·.2)) → CoordinatesReadable (ts'.map (·.2)) →
      DifferInLocations k (ts.map (·.2)) (ts'.map (·.2)) →
        ∃ rs rs', Scanner.outcome {} ts = .ok rs ∧ Scanner.outcome {} ts' = .ok rs' ∧
          SameButRange k rs rs' := by
  refine ⟨fun ts h => ⟨_, outcome_of_readable h, ?_⟩, fun k ts ts' h h' hdiffer =>
    ⟨_, _, outcome_of_readable h, outcome_of_readable h', outline_of_differInLocations hdiffer⟩⟩
  rw [allFindings_outline, List.forall₂_map_right_iff, List.forall₂_same]
  exact fun i _ => i.places_finding

/-- The tokens of one problem with a location, and a rule behind it. -/
def problemWith (block : List Token) : List (Nat × Token) :=
  [(0, ⟨.filePath, "a"⟩), (1, ⟨.message, "m"⟩), (2, ⟨.location, ""⟩)] ++ block.map (3, ·) ++
    [(4, ⟨.ruleId, "r"⟩)]

/-- A location that is whole, and the same with free text in it. -/
theorem locations_exact_and_contained_interrupted :
    let whole : List Token := [⟨.startPosition, "x"⟩, ⟨.lineNumber, "1"⟩, ⟨.columnNumber, "2"⟩,
      ⟨.endPosition, ""⟩, ⟨.lineNumber, "3"⟩, ⟨.columnNumber, "04"⟩]
    let damaged : List Token := ⟨.text, "y"⟩ :: whole
    CoordinatesReadable ((problemWith whole).map (·.2)) ∧
      CoordinatesReadable ((problemWith damaged).map (·.2)) ∧
      DifferInLocations 0 ((problemWith whole).map (·.2)) ((problemWith damaged).map (·.2)) ∧
      (∃ rs, Scanner.outcome {} (problemWith whole) = .ok rs ∧ List.Forall₂ Item.Places
        (allItems ((problemWith whole).map (·.2))) (FileReport.allFindings rs)) ∧
      ∃ rs rs', Scanner.outcome {} (problemWith whole) = .ok rs ∧
        Scanner.outcome {} (problemWith damaged) = .ok rs' ∧ SameButRange 0 rs rs' := by
  intro whole damaged
  have hwhole : CoordinatesReadable ((problemWith whole).map (·.2)) := by
    decide +kernel
  have hdamaged : CoordinatesReadable ((problemWith damaged).map (·.2)) := by
    decide +kernel
  have hdiffer := DifferInLocations.intro [⟨.filePath, "a"⟩] "m"
    (⟨.location, ""⟩ :: (whole ++ [⟨.ruleId, "r"⟩]))
    (⟨.location, ""⟩ :: (damaged ++ [⟨.ruleId, "r"⟩])) [] (by decide) (by decide) rfl (by decide)
  exact ⟨hwhole, hdamaged, hdiffer, locations_exact_and_contained.1 _ hwhole,
    locations_exact_and_contained.2 0 _ _ hwhole hdamaged hdiffer⟩

/-- A numeral with blanks around it, and a key `problems` among the six keys, do not take a
location its range. -/
theorem range_of_padded_and_interrupted :
    let padded : List Token := [⟨.startPosition, ""⟩, ⟨.lineNumber, " 1 "⟩, ⟨.columnNumber, "2"⟩,
      ⟨.endPosition, ""⟩, ⟨.lineNumber, "3"⟩, ⟨.columnNumber, "4"⟩]
    let interrupted : List Token := [⟨.startPosition, ""⟩, ⟨.lineNumber, "1"⟩,
      ⟨.columnNumber, "2"⟩, ⟨.problems, ""⟩, ⟨.endPosition, ""⟩, ⟨.lineNumber, "3"⟩,
      ⟨.columnNumber, "4"⟩]
    let found : List FileReport :=
      [⟨"a", [{ message := "m", range := ⟨⟨1, 2⟩, ⟨3, 4⟩, by decide⟩, ruleId := "r" }]⟩]
    (CoordinatesReadable ((problemWith padded).map (·.2)) ∧
        Scanner.outcome {} (problemWith padded) = .ok found ∧ isNumeral " 1 ".toList = false) ∧
      (CoordinatesReadable ((problemWith interrupted).map (·.2)) ∧
        Scanner.outcome {} (problemWith interrupted) = .ok found ∧
        interrupted.map Token.marker ≠ locationLayout) ∧
      (FileReport.allFindings found).map Finding.range ≠ [Range.zero] := by
  decide +kernel

end LintRelay.Report
