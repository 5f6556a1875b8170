import LintRelay.Proofs.Report.Written

/-!
# Writing and reading again

A legible report is read back as it was written, but for one thing: the first
line of a message is lost if it only announces a block. So the reports that
survive are the legible ones without such a message, and reading, writing and
reading again is stable exactly on them.
-/

namespace LintRelay.Report

open LintRelay.Text LintRelay.Decimal

/-- Whether the first line of the message only announces a block. -/
def announcesBlock (f : Finding) : Bool :=
  isBlockIndicator ((lines f.message).headD "")

/-- The finding that is read where `f` is written. -/
def reread (f : Finding) : Finding :=
  { f with message := if announcesBlock f then unlines (lines f.message).tail else f.message }

/-- The problem that is found where `f` is written. -/
def writtenItem (f : Finding) : Item :=
  ⟨(findingPart f).1.value, (findingPart f).2⟩

/-! ## Cutting joined parts -/

section

variable {opens : Marker → Bool} {pre ts : List Token} {parts : List (Token × List Token)}

theorem sections_append_of_not_opens (h : ∀ t ∈ pre, opens t.marker = false) :
    sections opens (pre ++ ts) = sections opens ts := by
  induction pre with
  | nil => rfl
  | cons t pre ih =>
      rw [List.cons_append, sections_cons_of_not_opens (h t List.mem_cons_self)]
      exact ih fun u hu => h u (List.mem_cons_of_mem _ hu)

theorem takeWhile_append_joined (hpre : ∀ t ∈ pre, opens t.marker = false)
    (hparts : ∀ p ∈ parts, opens p.1.marker = true) :
    (pre ++ joined parts).takeWhile (fun t => !opens t.marker) = pre := by
  rw [List.takeWhile_append_of_pos fun t ht => by simp [hpre t ht]]
  cases parts with
  | nil => simp [joined]
  | cons p parts => simp [joined, hparts p List.mem_cons_self]

/-- Parts that are joined come apart at their keys. -/
theorem sections_joined (h : ∀ p ∈ parts,
    opens p.1.marker = true ∧ ∀ t ∈ p.2, opens t.marker = false) :
    sections opens (joined parts) = parts := by
  induction parts with
  | nil => rfl
  | cons p parts ih =>
      obtain ⟨hkey, hbody⟩ := h p List.mem_cons_self
      have hrest := fun q hq => h q (List.mem_cons_of_mem p hq)
      have hjoined : joined (p :: parts) = p.1 :: (p.2 ++ joined parts) := rfl
      rw [hjoined, sections_cons_of_opens hkey,
        takeWhile_append_joined hbody fun q hq => (hrest q hq).1,
        sections_append_of_not_opens hbody, ih hrest]

end

/-! ## The parts of what is written -/

theorem marker_of_mem_textRun {ls : List String} {t : Token} (h : t ∈ textRun ls) :
    t.marker = .text := by
  obtain ⟨l, _, rfl⟩ := List.mem_map.mp h
  rfl

theorem marker_of_mem_rangeTokens {r : Range} {t : Token} (h : t ∈ rangeTokens r) :
    t.marker.isPosition = true := by
  simp only [rangeTokens, positionTokens, List.mem_append, List.mem_cons, List.not_mem_nil,
    or_false] at h
  rcases h with (rfl | rfl | rfl) | rfl | rfl | rfl <;> rfl

/-- The details of a finding begin with the keys of parts and go on with the keys
of positions, or free text. -/
theorem markers_detailParts (f : Finding) : ∀ p ∈ detailParts f,
    p.1.marker.opensPart = true ∧ ∀ t ∈ p.2, t.marker.isPosition = true ∨ t.marker = .text := by
  intro p hp
  simp only [detailParts, List.mem_cons, List.not_mem_nil, or_false] at hp
  rcases hp with rfl | rfl | rfl | rfl
  · exact ⟨rfl, fun t ht => Or.inr (marker_of_mem_textRun ht)⟩
  · exact ⟨rfl, fun t ht => Or.inl (marker_of_mem_rangeTokens ht)⟩
  · exact ⟨rfl, by simp⟩
  · exact ⟨rfl, by simp⟩

theorem opens_detailParts (f : Finding) : ∀ p ∈ detailParts f,
    p.1.marker.opensPart = true ∧ ∀ t ∈ p.2, t.marker.opensPart = false := by
  intro p hp
  obtain ⟨hkey, hbody⟩ := markers_detailParts f p hp
  refine ⟨hkey, fun t ht => ?_⟩
  have hmarker := hbody t ht
  revert hmarker
  cases t.marker <;> decide

/-- Inside a written finding no other problem and no other file begins. -/
theorem marker_of_mem_findingPart {f : Finding} {t : Token} (h : t ∈ (findingPart f).2) :
    t.marker ≠ .message ∧ t.marker ≠ .filePath := by
  have hmarker : t.marker.opensPart = true ∨ t.marker.isPosition = true ∨ t.marker = .text := by
    rcases List.mem_append.mp h with h | h
    · exact Or.inr (Or.inr (marker_of_mem_textRun h))
    · obtain ⟨p, hp, ht⟩ := List.mem_flatMap.mp h
      obtain ⟨hkey, hbody⟩ := markers_detailParts f p hp
      rcases List.mem_cons.mp ht with rfl | ht
      · exact Or.inl hkey
      · exact Or.inr (hbody t ht)
  revert hmarker
  cases t.marker <;> decide

theorem fileSections_joined (rs : List FileReport) :
    fileSections (joined (rs.map reportPart)) = rs.map reportPart := by
  apply sections_joined
  intro p hp
  obtain ⟨r, _, rfl⟩ := List.mem_map.mp hp
  refine ⟨rfl, fun t ht => ?_⟩
  rcases List.mem_cons.mp ht with rfl | ht
  · rfl
  · obtain ⟨q, hq, ht⟩ := List.mem_flatMap.mp ht
    obtain ⟨f, _, rfl⟩ := List.mem_map.mp hq
    rcases List.mem_cons.mp ht with rfl | ht
    · rfl
    · simpa using (marker_of_mem_findingPart ht).2

theorem items_reportPart (r : FileReport) :
    items (reportPart r).2 = r.findings.map writtenItem := by
  have hsections : sections (fun m => m = .message) (reportPart r).2 =
      r.findings.map findingPart := by
    rw [reportPart, sections_cons_of_not_opens rfl]
    apply sections_joined
    intro p hp
    obtain ⟨f, _, rfl⟩ := List.mem_map.mp hp
    exact ⟨rfl, fun t ht => by simpa using (marker_of_mem_findingPart ht).1⟩
  rw [items, hsections, List.map_map]
  rfl

/-! ## A written finding -/

theorem ownTokens_writtenItem (f : Finding) :
    ownTokens (writtenItem f).body = textRun (lines f.message).tail :=
  takeWhile_append_joined (fun t ht => by rw [marker_of_mem_textRun ht]; rfl)
    fun p hp => (opens_detailParts f p hp).1

theorem lastPart?_writtenItem (f : Finding) (m : Marker) :
    lastPart? m (writtenItem f).body =
      ((detailParts f).filter fun p => p.1.marker = m).getLast? := by
  have hsections : sections Marker.opensPart (writtenItem f).body = detailParts f := by
    refine (sections_append_of_not_opens fun t ht => ?_).trans
      (sections_joined (opens_detailParts f))
    rw [marker_of_mem_textRun ht]
    rfl
  rw [lastPart?, hsections]

theorem textLines_textRun (ls : List String) : textLines (textRun ls) = ls := by
  induction ls with
  | nil => rfl
  | cons l ls ih => exact congrArg (l :: ·) ih

theorem trim_repr (n : Nat) : trim n.repr.toList = Nat.toDigits 10 n := by
  rw [trim_eq_self (plain_repr n).trimmed, Nat.toList_repr]

theorem coordinateTexts_rangeTokens (r : Range) :
    coordinateTexts (rangeTokens r) =
      [r.start.line, r.start.column, r.stop.line, r.stop.column].map (Nat.toDigits 10) := by
  change [r.start.line, r.start.column, r.stop.line, r.stop.column].map
    (fun n => trim n.repr.toList) = _
  exact List.map_congr_left fun n _ => trim_repr n

theorem numeral?_toDigits (n : Nat) : numeral? (Nat.toDigits 10 n) = some n := by
  have hnum : isNumeral (Nat.toDigits 10 n) = true := by
    rw [isNumeral, Bool.and_eq_true, List.all_eq_true]
    refine ⟨by simp [Nat.toDigits_ne_nil], fun c hc => ?_⟩
    exact Nat.isDigit_of_mem_toDigits (by decide) (by decide) hc
  rw [numeral?, if_pos hnum, Nat.ofDigitChars_ten_toDigits]

/-- A written range is described by its location. -/
theorem describedRange?_rangeTokens (r : Range) : describedRange? (rangeTokens r) = some r := by
  have hlayout : (rangeTokens r).map Token.marker = locationLayout := rfl
  rw [describedRange?, if_pos hlayout, coordinateTexts_rangeTokens]
  simp only [List.map_cons, List.map_nil, numeral?_toDigits]
  exact Range.between?_eq_some_iff.mpr ⟨rfl, rfl⟩

theorem location?_writtenItem (f : Finding) :
    (writtenItem f).location? = some (rangeTokens f.range) := by
  rw [Item.location?, lastPart?_writtenItem]
  rfl

theorem coordinatesFit_writtenItem {f : Finding} (h : ShortCoordinates f.range) :
    (writtenItem f).CoordinatesFit := by
  intro ts hts _ cs hcs
  rw [location?_writtenItem] at hts
  obtain rfl := Option.some.inj hts
  have hmem := (List.takeWhile_sublist _).subset hcs
  rw [coordinateTexts_rangeTokens] at hmem
  obtain ⟨n, hn, rfl⟩ := List.mem_map.mp hmem
  rw [Nat.length_toDigits_le_iff (by decide) (by decide)]
  obtain ⟨⟨h1, h2⟩, h3, h4⟩ := h
  simp only [List.mem_cons, List.not_mem_nil, or_false] at hn
  rcases hn with rfl | rfl | rfl | rfl
  · exact h1
  · exact h2
  · exact h3
  · exact h4

theorem suggestion?_writtenItem {f : Finding} (h : LegibleFinding f) :
    (writtenItem f).suggestion? = f.suggestion := by
  obtain ⟨ls, hne, hls, hwritten, hnormal⟩ := h.written
  obtain ⟨l, ls, rfl⟩ := List.exists_cons_of_ne_nil hne
  have hlines : (writtenItem f).suggestionLines = l :: ls := by
    have hempty : l ≠ "" := (hls.plain l List.mem_cons_self).2
    rw [Item.suggestionLines, lastPart?_writtenItem, detailParts, hwritten, hls.lines_unlines]
    change (if l = "" then [] else [l]) ++ textLines (textRun ls) = _
    rw [if_neg hempty, textLines_textRun]
    rfl
  rw [Item.suggestion?, hlines, if_neg (by simp), hnormal]

/-- The message is what was written, less a first line that announces a block. -/
theorem message_writtenItem {f : Finding} (h : LegibleFinding f) :
    stripped (unlines (writtenItem f).messageLines) = (reread f).message := by
  obtain ⟨ls, hls, hmessage⟩ := h.message
  have hlines : lines f.message = ls := by rw [hmessage, hls.lines_unlines]
  have hmessageLines : (writtenItem f).messageLines =
      (if ls.headD "" = "" ∨ isBlockIndicator (ls.headD "") then [] else [ls.headD ""]) ++
        ls.tail := by
    rw [Item.messageLines, ownTokens_writtenItem, textLines_textRun, hlines]
    rw [writtenItem, findingPart, hlines]
  rw [hmessageLines, reread, announcesBlock, hlines, hmessage]
  cases ls with
  | nil => rfl
  | cons l ls =>
      have hempty : l ≠ "" := (hls.plain l List.mem_cons_self).2
      rw [List.headD_cons, List.tail_cons]
      by_cases hblock : isBlockIndicator l = true
      · rw [if_pos (Or.inr hblock), if_pos hblock]
        exact hls.tail.stripped_unlines
      · rw [if_neg (not_or.mpr ⟨hempty, hblock⟩), if_neg hblock]
        exact hls.stripped_unlines

theorem finding_writtenItem {f : Finding} (h : LegibleFinding f) :
    (writtenItem f).finding = reread f := by
  have hrange : (writtenItem f).range? = some f.range := by
    rw [Item.range?, location?_writtenItem, Option.bind_some, describedRange?_rangeTokens]
  have hruleId : (writtenItem f).field .ruleId = f.ruleId := by
    rw [Item.field, lastPart?_writtenItem]
    rfl
  have hruleDocUri : (writtenItem f).field .ruleDocUri = f.ruleDocUri := by
    rw [Item.field, lastPart?_writtenItem]
    rfl
  rw [Item.finding, Item.findingAt, message_writtenItem h, suggestion?_writtenItem h, hrange,
    hruleId, hruleDocUri]
  simp only [reread, Option.getD_some]

/-- The finding that was written, block announcements included. -/
def Item.restored (i : Item) : Finding :=
  { i.finding with
    message :=
      unlines ((if i.headline = "" then [] else [i.headline]) ++ textLines (ownTokens i.body)) }

theorem restored_writtenItem {f : Finding} (h : LegibleFinding f) :
    (writtenItem f).restored = f := by
  obtain ⟨ls, hls, hmessage⟩ := h.message
  have hlines : lines f.message = ls := by rw [hmessage, hls.lines_unlines]
  have hheadline : (writtenItem f).headline = ls.headD "" := by
    rw [writtenItem, findingPart, hlines]
  have hrestored : (if ls.headD "" = "" then [] else [ls.headD ""]) ++ ls.tail = ls := by
    cases ls with
    | nil => rfl
    | cons l ls =>
        rw [List.headD_cons, if_neg (hls.plain l List.mem_cons_self).2]
        rfl
  rw [Item.restored, finding_writtenItem h, ownTokens_writtenItem, textLines_textRun, hheadline,
    hlines, hrestored, ← hmessage, reread]

/-! ## Reading what was written -/

theorem eq_of_render_eq {rs rs' : List FileReport} (h : ∀ r ∈ rs, LegibleReport r)
    (h' : ∀ r ∈ rs', LegibleReport r) (heq : render rs = render rs') : rs = rs' := by
  have hrestored : ∀ rs, (∀ r ∈ rs, LegibleReport r) →
      (fileSections (textTokens (render rs))).map
        (fun p => (⟨p.1.value, (items p.2).map Item.restored⟩ : FileReport)) = rs := by
    intro rs h
    rw [textTokens_render h, fileSections_joined, List.map_map]
    refine (List.map_congr_left fun r hr => ?_).trans (List.map_id rs)
    have hfindings : (items (reportPart r).2).map Item.restored = r.findings := by
      rw [items_reportPart, List.map_map]
      refine (List.map_congr_left fun f hf => ?_).trans (List.map_id r.findings)
      exact restored_writtenItem ((h r hr).findings f hf)
    rw [Function.comp_apply, hfindings]
    rfl
  rw [← hrestored rs h, heq, hrestored rs' h']

/-- Legible reports are read back, each finding as `reread` says. -/
theorem parse_render {rs : List FileReport} (h : ∀ r ∈ rs, LegibleReport r) :
    (parse (render rs)).reports =
      .ok (rs.map fun r => { r with findings := r.findings.map reread }) := by
  rw [parse_eq_ok_iff, textTokens_render h]
  constructor
  · intro i hi
    rw [allItems, fileSections_joined] at hi
    obtain ⟨p, hp, hi⟩ := List.mem_flatMap.mp hi
    obtain ⟨r, hr, rfl⟩ := List.mem_map.mp hp
    rw [items_reportPart] at hi
    obtain ⟨f, hf, rfl⟩ := List.mem_map.mp hi
    exact coordinatesFit_writtenItem ((h r hr).findings f hf).range
  · rw [outline, fileSections_joined, List.map_map]
    refine List.map_congr_left fun r hr => ?_
    have hfindings : (items (reportPart r).2).map Item.finding = r.findings.map reread := by
      rw [items_reportPart, List.map_map]
      exact List.map_congr_left fun f hf => finding_writtenItem ((h r hr).findings f hf)
    rw [Function.comp_apply, hfindings]
    rfl

/-- Nothing is lost but the announcement of a block. -/
theorem reread_eq_self_iff {f : Finding} (h : LegibleFinding f) :
    reread f = f ↔ announcesBlock f = false := by
  constructor
  · intro heq
    by_contra hblock
    rw [Bool.not_eq_false] at hblock
    obtain ⟨ls, hls, hmessage⟩ := h.message
    have hlines : lines f.message = ls := by rw [hmessage, hls.lines_unlines]
    have hdropped : unlines ls.tail = f.message := by
      rw [← congrArg Finding.message heq, reread, if_pos hblock, hlines]
    cases ls with
    | nil =>
        rw [announcesBlock, hlines] at hblock
        exact absurd hblock (by decide)
    | cons l ls =>
        -- one line less is another message
        have hsame : lines (unlines ls) = l :: ls := by
          rw [← hlines, ← hdropped]
          rfl
        rw [hls.tail.lines_unlines] at hsame
        exact absurd (congrArg List.length hsame) (by simp)
  · intro hblock
    rw [reread, if_neg (by simp [hblock])]

/-- Legible reports come back unchanged just if no message begins with the
announcement of a block. -/
theorem parse_render_eq_self_iff {rs : List FileReport} (h : ∀ r ∈ rs, LegibleReport r) :
    (parse (render rs)).reports = .ok rs ↔
      ∀ f ∈ FileReport.allFindings rs, announcesBlock f = false := by
  have hself : ∀ r ∈ rs, ∀ f ∈ r.findings, reread f = f ↔ announcesBlock f = false :=
    fun r hr f hf => reread_eq_self_iff ((h r hr).findings f hf)
  rw [parse_render h, Except.ok.injEq]
  constructor
  · intro heq f hf
    obtain ⟨r, hr, hf⟩ := List.mem_flatMap.mp hf
    have hreport := List.map_inj_left.mp (heq.trans (List.map_id rs).symm) r hr
    have hfindings : r.findings.map reread = r.findings := congrArg FileReport.findings hreport
    have hfinding := List.map_inj_left.mp (hfindings.trans (List.map_id _).symm) f hf
    exact (hself r hr f hf).mp hfinding
  · intro hblock
    refine (List.map_congr_left fun r hr => ?_).trans (List.map_id rs)
    have hfindings : r.findings.map reread = r.findings :=
      (List.map_congr_left fun f hf => (hself r hr f hf).mpr
        (hblock f (List.mem_flatMap.mpr ⟨r, hr, hf⟩))).trans (List.map_id _)
    rw [hfindings]
    rfl

/-- **Which reports survive.** Reports whose coordinates have no more digits than
are read come back from their written form just if every path and rule is plain,
every message runs over legible lines of which the first does not announce a
block, and every suggestion runs over legible lines other than the placeholder. -/
theorem parse_render_eq_iff {rs : List FileReport}
    (hshort : ∀ f ∈ FileReport.allFindings rs, ShortCoordinates f.range) :
    (parse (render rs)).reports = .ok rs ↔
      ∀ r ∈ rs, Plain r.filePath ∧ ∀ f ∈ r.findings,
        Plain f.ruleId ∧ Plain f.ruleDocUri ∧
        (∃ ls, Legible ls ∧ f.message = unlines ls ∧ isBlockIndicator (ls.headD "") = false) ∧
        ∀ s ∈ f.suggestion,
          s ≠ placeholder ∧ ∃ ls, ls ≠ [] ∧ Legible ls ∧ s = unlines ls := by
  constructor
  · intro hread r hr
    have hlegible := legible_of_parse hread
    have hblock := (parse_render_eq_self_iff hlegible).mp hread
    refine ⟨(hlegible r hr).filePath, fun f hf => ?_⟩
    have hfinding := (hlegible r hr).findings f hf
    refine ⟨hfinding.ruleId, hfinding.ruleDocUri, ?_, hfinding.suggestion⟩
    obtain ⟨ls, hls, hmessage⟩ := hfinding.message
    refine ⟨ls, hls, hmessage, ?_⟩
    have hfirst := hblock f (List.mem_flatMap.mpr ⟨r, hr, hf⟩)
    rwa [announcesBlock, hmessage, hls.lines_unlines] at hfirst
  · intro h
    have hlegible : ∀ r ∈ rs, LegibleReport r := by
      intro r hr
      obtain ⟨hpath, hfindings⟩ := h r hr
      refine ⟨hpath, fun f hf => ?_⟩
      obtain ⟨hruleId, hruleDocUri, ⟨ls, hls, hmessage, _⟩, hsuggestion⟩ := hfindings f hf
      exact ⟨⟨ls, hls, hmessage⟩, hsuggestion,
        hshort f (List.mem_flatMap.mpr ⟨r, hr, hf⟩), hruleId, hruleDocUri⟩
    rw [parse_render_eq_self_iff hlegible]
    intro f hf
    obtain ⟨r, hr, hf⟩ := List.mem_flatMap.mp hf
    obtain ⟨_, _, ⟨ls, hls, hmessage, hfirst⟩, _⟩ := (h r hr).2 f hf
    rwa [announcesBlock, hmessage, hls.lines_unlines]

/-- A report with a colon in its message, and words in its suggestion that would
mean something at the start of a later line. -/
def wordyReport : FileReport :=
  ⟨"a.proto", [{ message := "b: c\nd", ruleId := "core::140", suggestion := some "problems: e\n|" }]⟩

theorem parse_render_eq_iff_wordyReport :
    (∀ f ∈ FileReport.allFindings [wordyReport], ShortCoordinates f.range) ∧
      (parse (render [wordyReport])).reports = .ok [wordyReport] := by
  have hshort : ∀ f ∈ FileReport.allFindings [wordyReport], ShortCoordinates f.range := by
    simp [wordyReport, FileReport.allFindings, shortCoordinates_zero]
  refine ⟨hshort, (parse_render_eq_iff hshort).mpr fun r hr => ?_⟩
  obtain rfl := List.mem_singleton.mp hr
  refine ⟨by decide +kernel, fun f hf => ?_⟩
  obtain rfl := List.mem_singleton.mp hf
  have hmessage : Legible ["b: c", "d"] := ⟨by decide +kernel, by decide +kernel⟩
  have hsuggestion : Legible ["problems: e", "|"] := ⟨by decide +kernel, by decide +kernel⟩
  refine ⟨by decide +kernel, by decide +kernel,
    ⟨_, hmessage, by decide +kernel, by decide +kernel⟩, fun s hs => ?_⟩
  obtain rfl := Option.some.inj hs
  exact ⟨by decide +kernel, _, by simp, hsuggestion, by decide +kernel⟩

/-- A dash before `problems` counts with any white space after it, so that it is
not enough to look for one space there. -/
theorem parse_render_wide_dash :
    (∀ l ∈ ["a", "-  problems: b"], Plain l ∧ l ≠ "") ∧ Plain "" ∧
      isBlockIndicator "a" = false ∧
      ¬ "problems:".toList <+: "-  problems: b".toList ∧
      ¬ "- problems:".toList <+: "-  problems: b".toList ∧
      (parse (render [⟨"a", [{ message := "a\n-  problems: b" }]⟩])).reports ≠
        .ok [⟨"a", [{ message := "a\n-  problems: b" }]⟩] := by
  refine ⟨by decide +kernel, plain_empty, by decide +kernel, by decide, by decide, fun h => ?_⟩
  -- whatever is read is legible, and this message is not
  have hfinding := (legible_of_parse h _ List.mem_cons_self).findings _ List.mem_cons_self
  obtain ⟨ls, hls, hmessage⟩ := hfinding.message
  have hlines : ls = ["a", "-  problems: b"] := by
    rw [← hls.lines_unlines, ← hmessage]
    decide +kernel
  have hlater := hls.later "-  problems: b"
  rw [hlines] at hlater
  exact hlater (by simp) (by decide +kernel)

end LintRelay.Report
