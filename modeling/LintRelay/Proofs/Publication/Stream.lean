import LintRelay.Publication
import LintRelay.Report.Printer
import LintRelay.Proofs.Value.WrittenJson

/-!
# Streams of publications

A stream writes each publication as one line of JSON, and keeps all that was published: an
editor's form of a diagnostic tells the diagnostic, and a diagnostic with related information
tells the finding it was made from. Only a suggestion without text cannot be told from none.
-/

namespace LintRelay

/-! ## What an editor is told -/

theorem Range.toLsp_injective : Function.Injective Range.toLsp := by
  rintro ⟨⟨_, _⟩, ⟨_, _⟩⟩ ⟨⟨_, _⟩, ⟨_, _⟩⟩ h
  simp only [Range.toLsp, Value.nat, Value.table.injEq, List.cons.injEq, Prod.mk.injEq,
    Value.int.injEq, Int.natCast_inj, true_and, and_true] at h
  obtain ⟨⟨rfl, rfl⟩, rfl, rfl⟩ := h
  rfl

theorem RelatedInformation.toLsp_injective : Function.Injective RelatedInformation.toLsp := by
  rintro ⟨uri, range, message⟩ ⟨uri', range', message'⟩ h
  simp only [toLsp, Value.table.injEq, Value.text.injEq, List.cons.injEq, Prod.mk.injEq,
    true_and, and_true, Range.toLsp_injective.eq_iff] at h
  obtain ⟨⟨rfl, rfl⟩, rfl⟩ := h
  rfl

theorem Severity.code_injective : Function.Injective Severity.code := by
  intro s s' h
  cases s <;> cases s' <;> cases h <;> rfl

namespace Diagnostic

theorem fields_toLsp (d : Diagnostic) :
    d.toLsp.field? "range" = some d.range.toLsp ∧
      d.toLsp.field? "severity" = some (.nat d.severity.code) ∧
      d.toLsp.field? "source" = some (.text d.source) ∧
      d.toLsp.field? "message" = some (.text d.message) :=
  ⟨rfl, rfl, rfl, rfl⟩

/-- What an editor is told only where a diagnostic has it. -/
theorem optional_fields_toLsp (d : Diagnostic) :
    d.toLsp.field? "code" = d.code.map Value.text ∧
      d.toLsp.field? "codeDescription" =
        d.codeDescription.map (fun href => .table [("href", .text href)]) ∧
      d.toLsp.field? "relatedInformation" =
        if d.related = [] then none
        else some (.list (d.related.map RelatedInformation.toLsp)) := by
  cases hcode : d.code <;> cases hhref : d.codeDescription <;>
    by_cases hrelated : d.related = [] <;>
    simp [toLsp, Value.field?, Value.lookup, hcode, hhref, hrelated]

/-- An editor is told a diagnostic in full; what it lacks is told by its absence. -/
theorem toLsp_injective : Function.Injective toLsp := by
  intro d d' h
  obtain ⟨hrange, hseverity, hsource, hmessage⟩ := d.fields_toLsp
  obtain ⟨hcode, hhref, hrelated⟩ := d.optional_fields_toLsp
  obtain ⟨hrange', hseverity', hsource', hmessage'⟩ := d'.fields_toLsp
  obtain ⟨hcode', hhref', hrelated'⟩ := d'.optional_fields_toLsp
  rw [h] at hrange hseverity hsource hmessage hcode hhref hrelated
  have range_eq : d.range = d'.range :=
    Range.toLsp_injective (Option.some.inj (hrange.symm.trans hrange'))
  have severity_eq : d.severity = d'.severity := by
    have hcodes := Value.int.inj (Option.some.inj (hseverity.symm.trans hseverity'))
    exact Severity.code_injective (Int.natCast_inj.mp hcodes)
  have source_eq : d.source = d'.source :=
    Value.text.inj (Option.some.inj (hsource.symm.trans hsource'))
  have message_eq : d.message = d'.message :=
    Value.text.inj (Option.some.inj (hmessage.symm.trans hmessage'))
  have code_eq : d.code = d'.code :=
    Option.map_injective (fun _ _ => Value.text.inj) (hcode.symm.trans hcode')
  have href_eq : d.codeDescription = d'.codeDescription :=
    Option.map_injective (fun _ _ htable => by simpa using htable) (hhref.symm.trans hhref')
  have related_eq : d.related = d'.related := by
    have hlists := hrelated.symm.trans hrelated'
    split_ifs at hlists with hnone hnone'
    · rw [hnone, hnone']
    · exact List.map_injective_iff.mpr RelatedInformation.toLsp_injective
        (Value.list.inj (Option.some.inj hlists))
  cases d
  cases d'
  rw [Diagnostic.mk.injEq]
  exact ⟨range_eq, message_eq, severity_eq, source_eq, code_eq, href_eq, related_eq⟩

end Diagnostic

theorem Publication.toLsp_injective : Function.Injective Publication.toLsp := by
  rintro ⟨uri, ds⟩ ⟨uri', ds'⟩ h
  simp only [toLsp, Value.table.injEq, Value.text.injEq, Value.list.injEq, List.cons.injEq,
    Prod.mk.injEq, true_and, and_true] at h
  obtain ⟨rfl, hds⟩ := h
  rw [List.map_injective_iff.mpr Diagnostic.toLsp_injective hds]

/-! ## Findings as diagnostics -/

theorem nonEmpty?_injective : Function.Injective nonEmpty? := by
  intro s s' h
  unfold nonEmpty? at h
  split_ifs at h with hs hs'
  · rw [hs, hs']
  · exact Option.some.inj h

theorem eq_of_map_eq {α β : Type} {f : α → β} {xs ys : List α}
    (hf : ∀ x ∈ xs, ∀ y ∈ ys, f x = f y → x = y) (h : xs.map f = ys.map f) : xs = ys := by
  induction xs generalizing ys with
  | nil => exact (List.map_eq_nil_iff.mp h.symm).symm
  | cons x xs ih =>
      cases ys with
      | nil => cases h
      | cons y ys =>
          obtain ⟨hhead, htail⟩ := List.cons.inj h
          rw [hf x List.mem_cons_self y List.mem_cons_self hhead, ih (fun x' hx' y' hy' =>
            hf x' (List.mem_cons_of_mem _ hx') y' (List.mem_cons_of_mem _ hy')) htail]

theorem bind_nonEmpty?_of_ne {s : Option String} (h : s ≠ some "") : s.bind nonEmpty? = s := by
  cases s with
  | none => rfl
  | some text => exact if_neg fun hempty => h (congrArg some hempty)

namespace Diagnostic

/-- The messages that go with the diagnostic of a finding: its suggestion and its rule. -/
theorem messages_relatedTo (uri : String) (f : Finding) :
    (relatedTo uri f).map RelatedInformation.message =
      (f.suggestion.bind nonEmpty?).toList ++ [f.ruleReference] := by
  rw [relatedTo, List.map_map]
  exact List.map_id _

/-- With related information, a diagnostic tells its finding, if suggestions have a text. -/
theorem eq_of_ofFinding_eq {uri source : String} {f f' : Finding}
    (hf : f.suggestion ≠ some "") (hf' : f'.suggestion ≠ some "")
    (h : ofFinding uri true source f = ofFinding uri true source f') : f = f' := by
  obtain ⟨hrange, hmessage, -, -, hrule, hdoc, hrelated⟩ := Diagnostic.mk.injEq .. ▸ h
  have hrule : f.ruleId = f'.ruleId := nonEmpty?_injective hrule
  have hdoc : f.ruleDocUri = f'.ruleDocUri := nonEmpty?_injective hdoc
  have hsuggestion : f.suggestion = f'.suggestion := by
    have hmessages := congrArg (List.map RelatedInformation.message) hrelated
    rw [if_pos rfl, if_pos rfl, messages_relatedTo, messages_relatedTo, bind_nonEmpty?_of_ne hf,
      bind_nonEmpty?_of_ne hf', Finding.ruleReference, Finding.ruleReference, hrule,
      hdoc] at hmessages
    simpa using congrArg List.head? (List.append_cancel_right hmessages)
  cases f
  cases f'
  rw [Finding.mk.injEq]
  exact ⟨hmessage, hrange, hrule, hdoc, hsuggestion⟩

theorem ofFindings_inj {uri : String} {fs fs' : List Finding}
    (hfs : ∀ f ∈ fs, f.suggestion ≠ some "") (hfs' : ∀ f ∈ fs', f.suggestion ≠ some "")
    (h : ofFindings uri true fs = ofFindings uri true fs') : fs = fs' :=
  eq_of_map_eq (fun f hf f' hf' => eq_of_ofFinding_eq (hfs f hf) (hfs' f' hf')) h

end Diagnostic

/-! ## Lines of JSON -/

theorem Range.isPlain_toLsp (r : Range) : Json.IsPlain r.toLsp :=
  .table_pair _ _ (.table_pair _ _ (.count _) (.count _)) (.table_pair _ _ (.count _) (.count _))

theorem RelatedInformation.isPlain_toLsp (i : RelatedInformation) : Json.IsPlain i.toLsp :=
  .table_pair _ _ (.table_pair _ _ (.text _) i.range.isPlain_toLsp) (.text _)

theorem Diagnostic.isPlain_toLsp (d : Diagnostic) : Json.IsPlain d.toLsp := by
  have hcode : ∀ e ∈ d.code.toList.map fun c => ("code", Value.text c), Json.IsPlain e.2 :=
    List.forall_mem_map.mpr fun c _ => .text c
  have hhref : ∀ e ∈ d.codeDescription.toList.map fun href =>
      ("codeDescription", Value.table [("href", .text href)]), Json.IsPlain e.2 :=
    List.forall_mem_map.mpr fun href _ => .table_singleton _ (.text href)
  have hrelated : Json.IsPlain (.list (d.related.map RelatedInformation.toLsp)) :=
    .list (List.forall_mem_map.mpr fun i _ => i.isPlain_toLsp)
  refine .table ?_
  simp only [List.forall_mem_append]
  refine ⟨⟨⟨?_, hcode⟩, hhref⟩, ?_⟩
  · simp only [List.forall_mem_cons]
    exact ⟨d.range.isPlain_toLsp, .count _, .text _, .text _, fun _ h => absurd h List.not_mem_nil⟩
  · split_ifs
    · exact fun _ h => absurd h List.not_mem_nil
    · exact List.forall_mem_singleton.mpr hrelated

theorem Publication.isPlain_toLsp (p : Publication) : Json.IsPlain p.toLsp :=
  .table_pair _ _ (.text _) (.list (List.forall_mem_map.mpr fun d _ => d.isPlain_toLsp))

/-! ### Numbers that can be written -/

theorem Range.isWritable_toLsp (r : Range) : r.toLsp.isWritable = Report.isWritable r := by
  simp [toLsp, Value.nat, Value.isWritable, Value.entriesWritable, Report.isWritable]

theorem RelatedInformation.isWritable_toLsp (i : RelatedInformation) :
    i.toLsp.isWritable = Report.isWritable i.range := by
  simp [toLsp, Value.isWritable, Value.entriesWritable, i.range.isWritable_toLsp]

theorem Severity.isWritable_code (s : Severity) : Decimal.isWritable s.code = true := by
  cases s <;> decide +kernel

theorem Value.itemsWritable_eq_all (items : List Value) :
    itemsWritable items = items.all isWritable := by
  induction items with
  | nil => rfl
  | cons v items ih => rw [itemsWritable, ih, List.all_cons]

theorem Value.entriesWritable_eq_all (entries : List (String × Value)) :
    entriesWritable entries = entries.all (·.2.isWritable) := by
  induction entries with
  | nil => rfl
  | cons e entries ih => rw [entriesWritable, ih, List.all_cons]

theorem Diagnostic.isWritable_toLsp (d : Diagnostic) :
    d.toLsp.isWritable =
      (Report.isWritable d.range && d.related.all (Report.isWritable ·.range)) := by
  have hrelated : Value.itemsWritable (d.related.map RelatedInformation.toLsp) =
      d.related.all (Report.isWritable ·.range) := by
    rw [Value.itemsWritable_eq_all, List.all_map]
    exact congrArg d.related.all (funext RelatedInformation.isWritable_toLsp)
  simp only [toLsp, Value.isWritable, Value.entriesWritable_eq_all, List.all_append, List.all_cons,
    List.all_nil, List.all_map, d.range.isWritable_toLsp, Value.nat, Int.natAbs_natCast,
    d.severity.isWritable_code, Bool.and_true, Bool.and_assoc]
  cases d.code <;> cases d.codeDescription <;> by_cases hnone : d.related = [] <;>
    simp [hnone, hrelated, Value.isWritable, Value.entriesWritable]

theorem Publication.isWritable_toLsp (p : Publication) :
    p.toLsp.isWritable = p.diagnostics.all (·.toLsp.isWritable) := by
  simp [toLsp, Value.isWritable, Value.entriesWritable, Value.itemsWritable_eq_all, List.all_map,
    Function.comp_def]

namespace Publication

variable (p : Publication)

/-- The line of a publication, whatever its numbers, without its end. -/
def line : String :=
  Json.form p.toLsp

/-- The lines of publications, whatever their numbers. -/
def lines (ps : List Publication) : String :=
  String.join (ps.map (·.line ++ "\n"))

theorem jsonLine_eq :
    p.jsonLine = if p.toLsp.isWritable then .ok (p.line ++ "\n") else .error {} := by
  rw [jsonLine, Json.render_eq]
  split <;> rfl

/-- A stream is written if all its numbers can be, and it is the lines then. -/
theorem stream_eq_ok_iff {ps : List Publication} {text : String} :
    stream ps = .ok text ↔ (∀ p ∈ ps, p.toLsp.isWritable = true) ∧ text = lines ps := by
  induction ps generalizing text with
  | nil =>
      have hnil : stream [] = .ok (lines []) := rfl
      rw [hnil, Except.ok.injEq, eq_comm]
      simp
  | cons p ps ih =>
      have hstream : stream (p :: ps) = (do .ok ((← p.jsonLine) ++ (← stream ps))) := by
        rw [stream, stream, List.mapM_cons]
        cases p.jsonLine with
        | error e => rfl
        | ok line =>
            cases ps.mapM jsonLine with
            | error e => rfl
            | ok rest => simp [Except.map, bind, Except.bind, pure, Except.pure]
      rw [hstream, jsonLine_eq, List.forall_mem_cons]
      split_ifs with hp
      · cases hps : stream ps with
        | error e =>
            have hnot : ¬ ∀ q ∈ ps, q.toLsp.isWritable = true := fun hall => by
              have hok : stream ps = .ok (lines ps) := ih.mpr ⟨hall, rfl⟩
              simp [hps] at hok
            simp [bind, Except.bind, hp, hnot]
        | ok rest =>
            obtain ⟨hall, rfl⟩ := ih.mp hps
            have hlines : p.line ++ "\n" ++ lines ps = lines (p :: ps) := by simp [lines]
            simp only [bind, Except.bind, Except.ok.injEq, hlines, hp, true_and]
            exact ⟨fun h => ⟨hall, h.symm⟩, fun h => h.2.symm⟩
      · simp [bind, Except.bind, hp]

/-- What a stream shows of a publication: one line of JSON. -/
theorem printable_line : ∀ c ∈ p.line.toList, Json.IsPrintable c :=
  p.isPlain_toLsp.printable

theorem newline_not_mem_line : '\n' ∉ p.line.toList := fun h =>
  absurd (p.printable_line '\n' h) (by decide)

theorem lines_cons (ps : List Publication) :
    (lines (p :: ps)).toList = p.line.toList ++ '\n' :: (lines ps).toList := by
  simp [lines]

/-- The lines are those of the publications; nothing follows the last one. -/
theorem splitOn_lines (ps : List Publication) :
    (lines ps).toList.splitOn '\n' = ps.map (·.line.toList) ++ [[]] := by
  have hjoin : (lines ps).toList = ['\n'].intercalate (ps.map (·.line.toList) ++ [[]]) := by
    induction ps with
    | nil => rfl
    | cons p ps ih =>
        obtain ⟨next, rest, htail⟩ := List.exists_cons_of_ne_nil
          (List.append_ne_nil_of_right_ne_nil (ps.map (·.line.toList)) (List.cons_ne_nil [] []))
        rw [lines_cons, ih, List.map_cons, List.cons_append, htail, List.intercalate_cons_cons,
          List.append_assoc]
        rfl
  rw [hjoin]
  refine List.splitOn_intercalate '\n' ?_ (by simp)
  simp only [List.forall_mem_append, List.forall_mem_map, List.forall_mem_singleton]
  exact ⟨fun p _ => p.newline_not_mem_line, List.not_mem_nil⟩

theorem ascii_lines (ps : List Publication) : ∀ c ∈ (lines ps).toList, c.toNat < 0x80 := by
  induction ps with
  | nil => simp [lines]
  | cons p ps ih =>
      intro c hc
      rw [lines_cons, List.mem_append, List.mem_cons] at hc
      rcases hc with hc | rfl | hc
      · exact Nat.lt_trans (p.printable_line c hc).2 (by decide)
      · decide
      · exact ih c hc

theorem lines_injective : Function.Injective lines := by
  intro ps ps' h
  have hsplit := congrArg (fun text : String => text.toList.splitOn '\n') h
  simp only [splitOn_lines] at hsplit
  refine List.map_injective_iff.mpr (fun p p' hp => ?_) (List.append_cancel_right hsplit)
  exact toLsp_injective
    (p.isPlain_toLsp.form_injective p'.isPlain_toLsp (String.toList_inj.mp hp))

/-- What is published for documents, each with its findings, where related information can be
shown. -/
def ofFindings (sets : List (String × List Finding)) : List Publication :=
  sets.map fun set => ⟨set.1, Diagnostic.ofFindings set.1 true set.2⟩

theorem ofFindings_inj {sets sets' : List (String × List Finding)}
    (hsets : ∀ set ∈ sets, ∀ f ∈ set.2, f.suggestion ≠ some "")
    (hsets' : ∀ set ∈ sets', ∀ f ∈ set.2, f.suggestion ≠ some "")
    (h : ofFindings sets = ofFindings sets') : sets = sets' := by
  refine eq_of_map_eq (fun set hset set' hset' heq => ?_) h
  obtain ⟨huri, hdiagnostics⟩ := Publication.mk.inj heq
  rw [← huri] at hdiagnostics
  exact Prod.ext huri
    (Diagnostic.ofFindings_inj (hsets set hset) (hsets' set' hset') hdiagnostics)

/-- All numbers of findings can be written. -/
def AreWritable (sets : List (String × List Finding)) : Prop :=
  ∀ set ∈ sets, ∀ f ∈ set.2, Report.isWritable f.range = true

theorem isWritable_toLsp_ofFinding (uri source : String) (f : Finding) :
    (Diagnostic.ofFinding uri true source f).toLsp.isWritable = Report.isWritable f.range := by
  have hrelated : ∀ i ∈ Diagnostic.relatedTo uri f, i.range = f.range :=
    List.forall_mem_map.mpr fun _ _ => rfl
  rw [Diagnostic.isWritable_toLsp]
  show (Report.isWritable f.range && (Diagnostic.relatedTo uri f).all _) = _
  cases hrange : Report.isWritable f.range with
  | false => rfl
  | true =>
      rw [Bool.true_and, List.all_eq_true]
      intro i hi
      rw [hrelated i hi, hrange]

theorem isWritable_ofFindings_iff (sets : List (String × List Finding)) :
    (∀ p ∈ ofFindings sets, p.toLsp.isWritable = true) ↔ AreWritable sets := by
  simp only [ofFindings, List.forall_mem_map, isWritable_toLsp, Diagnostic.ofFindings,
    List.all_eq_true, isWritable_toLsp_ofFinding, AreWritable]

/-- **The stream loses nothing**: it is written exactly if every number in the findings can be.
It is ASCII then, its lines are those of the publications, and no other findings, documents or
order of them would have given it. -/
theorem stream_ofFindings_loses_nothing (sets : List (String × List Finding))
    (hsets : ∀ set ∈ sets, ∀ f ∈ set.2, f.suggestion ≠ some "") :
    ((∃ text, stream (ofFindings sets) = .ok text) ↔ AreWritable sets) ∧
      ∀ text, stream (ofFindings sets) = .ok text →
        (∀ c ∈ text.toList, c.toNat < 0x80) ∧
          text.toList.splitOn '\n' = (ofFindings sets).map (·.line.toList) ++ [[]] ∧
          ∀ sets' : List (String × List Finding),
            (∀ set ∈ sets', ∀ f ∈ set.2, f.suggestion ≠ some "") →
              stream (ofFindings sets') = .ok text → sets' = sets := by
  constructor
  · simp only [stream_eq_ok_iff, isWritable_ofFindings_iff, exists_and_left, exists_eq, and_true]
  · intro text htext
    obtain ⟨-, rfl⟩ := stream_eq_ok_iff.mp htext
    refine ⟨ascii_lines _, splitOn_lines _, fun sets' hsets' htext' => ?_⟩
    obtain ⟨-, hlines⟩ := stream_eq_ok_iff.mp htext'
    exact ofFindings_inj hsets' hsets (lines_injective hlines.symm)

/-- A finding whose message has two lines, quotes and a letter beyond ASCII. -/
def quotedFinding : Finding :=
  { message := "é\n\"b\"", suggestion := some "c" }

theorem stream_ofFindings_loses_nothing_quotedFinding :
    (∀ set ∈ [("file:///a", [quotedFinding])], ∀ f ∈ set.2, f.suggestion ≠ some "") ∧
      ∃ text, stream (ofFindings [("file:///a", [quotedFinding])]) = .ok text ∧
        (∀ c ∈ text.toList, c.toNat < 0x80) ∧
        stream (ofFindings [("file:///a", [quotedFinding, quotedFinding])]) ≠ .ok text := by
  have hset : ∀ set ∈ [("file:///a", [quotedFinding])], ∀ f ∈ set.2, f.suggestion ≠ some "" := by
    decide
  obtain ⟨hwritten, htold⟩ := stream_ofFindings_loses_nothing _ hset
  have hwritable : AreWritable [("file:///a", [quotedFinding])] := by
    simp only [AreWritable, List.forall_mem_singleton]
    decide +kernel
  obtain ⟨text, htext⟩ := hwritten.mpr hwritable
  obtain ⟨hascii, -, hunique⟩ := htold text htext
  exact ⟨hset, text, htext, hascii, fun h => absurd (hunique _ (by decide) h) (by decide)⟩

/-- A finding in the first column of a line. -/
def findingAt (line : Nat) : Finding :=
  { message := "m"
    range := ⟨⟨line, 0⟩, ⟨line, 0⟩, (Position.le_iff _ _).mpr (.inr ⟨rfl, Nat.le_refl 0⟩)⟩ }

theorem isWritable_findingAt (line : Nat) :
    Report.isWritable (findingAt line).range = Decimal.isWritable line := by
  have hzero : Decimal.isWritable 0 = true := by decide +kernel
  simp [Report.isWritable, findingAt, hzero]

/-- A line number of too many digits is not written, and so no text tells of the findings. -/
theorem stream_findingAt_ne_ok {line : Nat} (h : Decimal.isWritable line = false)
    (text : String) : stream (ofFindings [("file:///a", [findingAt line])]) ≠ .ok text := by
  intro htext
  have hwritable := (isWritable_ofFindings_iff _).mp (stream_eq_ok_iff.mp htext).1
  have hline := hwritable _ List.mem_cons_self _ List.mem_cons_self
  rw [isWritable_findingAt, h] at hline
  cases hline

theorem stream_findingAt_ne_ok_far : ∃ sets : List (String × List Finding),
    (∀ set ∈ sets, ∀ f ∈ set.2, f.suggestion ≠ some "") ∧
      ∀ text, stream (ofFindings sets) ≠ .ok text := by
  obtain ⟨line, hline⟩ : ∃ line, Decimal.isWritable line = false :=
    ⟨Nat.pow 10 Decimal.maxDigits, Bool.eq_false_iff.mpr fun h =>
      absurd ((Decimal.isWritable_iff _).mp h) (Nat.lt_irrefl _)⟩
  refine ⟨[("file:///a", [findingAt line])], ?_, stream_findingAt_ne_ok hline⟩
  simp [findingAt]

/-- A suggestion without text is the one thing that is not told. -/
example (uri : String) (f : Finding) :
    ofFindings [(uri, [f.withSuggestion (some "")])] =
      ofFindings [(uri, [f.withSuggestion none])] := rfl

end Publication

end LintRelay
