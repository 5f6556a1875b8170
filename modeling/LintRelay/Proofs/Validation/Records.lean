import LintRelay.Proofs.Validation.Truthful

/-!
# One record per finding

A set shows the findings of a document when it has one diagnostic for each, in their
order. Of such a diagnostic, only the entry with the suggestion depends on more than the
finding and the document.
-/

namespace LintRelay

namespace Diagnostic

/-- A diagnostic tells a finding of the document `uri`, with the suggestion that stands
for it. -/
structure Tells (x : Diagnostic) (uri : String) (related : Bool) (f : Finding)
    (suggestion : Option String) : Prop where
  range : x.range = f.range
  message : x.message = f.message
  severity : x.severity = .warning
  source : x.source = "api-linter"
  code : x.code = if f.ruleId = "" then none else some f.ruleId
  codeDescription : x.codeDescription = if f.ruleDocUri = "" then none else some f.ruleDocUri
  related : x.related =
    if related then
      (suggestion.filter (· ≠ "")).toList.map (⟨uri, f.range, ·⟩) ++
        [⟨uri, f.range, f.ruleId ++ " : " ++ f.ruleDocUri⟩]
    else []

def bare (x : Diagnostic) : Diagnostic :=
  { x with related := [] }

theorem bind_nonEmpty? (s : Option String) : s.bind nonEmpty? = s.filter (· ≠ "") := by
  cases s with
  | none => rfl
  | some text => by_cases h : text = "" <;> simp [nonEmpty?, Option.filter, h]

theorem tells_ofFinding (uri : String) (related : Bool) (f : Finding)
    (suggestion : Option String) :
    (ofFinding uri related "api-linter" (f.withSuggestion suggestion)).Tells uri related f
      suggestion where
  range := rfl
  message := rfl
  severity := rfl
  source := rfl
  code := rfl
  codeDescription := rfl
  related := by
    cases related with
    | false => rfl
    | true =>
        show ((suggestion.bind nonEmpty?).toList ++ [f.ruleReference]).map _ = _
        rw [bind_nonEmpty?, List.map_append]
        rfl

variable {x x' : Diagnostic} {uri : String} {related related' : Bool} {f : Finding}
  {suggestion suggestion' : Option String}

end Diagnostic

/-- A set shows findings: one diagnostic tells each of them, in their order, with the
suggestion that stands for it. -/
structure Document.Shows (d : Document) (related : Bool) (findings : List Finding)
    (suggestion : Nat → Finding → Option String) (set : List Diagnostic) : Prop where
  length : set.length = findings.length
  each : ∀ (k : Nat) (f : Finding) (x : Diagnostic), findings[k]? = some f → set[k]? = some x →
    x.Tells d.uri related f (suggestion k f)

namespace Enrichment

/-- A job leaves a finding as it is but for its suggestion. -/
theorem outcome_eq (f : Finding) (job : EnrichmentJob) :
    outcome f job = f.withSuggestion (outcome f job).suggestion := by
  unfold outcome
  split <;> rfl

/-- The suggestion that an enrichment leaves for a finding. -/
def suggestionFor (e : Enrichment) (k : Nat) (f : Finding) : Option String :=
  match e.jobs[k]? with
  | some job => (outcome f job).suggestion
  | none => f.suggestion

variable {e : Enrichment}

theorem getElem?_result (hjobs : e.jobs.length ≤ e.findings.length) (k : Nat) :
    e.result.findings[k]? =
      e.findings[k]?.map fun f => f.withSuggestion (e.suggestionFor k f) := by
  show ((e.findings.zip e.jobs).map (fun x => outcome x.1 x.2) ++
    e.findings.drop e.jobs.length)[k]? = _
  have hzip : ((e.findings.zip e.jobs).map fun x => outcome x.1 x.2).length =
      e.jobs.length := by
    rw [List.length_map, List.length_zip, Nat.min_eq_right hjobs]
  rw [List.getElem?_append, hzip]
  split
  next hk =>
    have hfinding : k < e.findings.length := Nat.lt_of_lt_of_le hk hjobs
    -- in the first part, each finding stands beside its job
    have hpair : (e.findings.zip e.jobs)[k]? = some (e.findings[k], e.jobs[k]) :=
      List.getElem?_zip_eq_some.mpr
        ⟨List.getElem?_eq_getElem hfinding, List.getElem?_eq_getElem hk⟩
    rw [List.getElem?_map, hpair, List.getElem?_eq_getElem hfinding, Option.map_some,
      Option.map_some, suggestionFor, List.getElem?_eq_getElem hk, ← outcome_eq]
  next hk =>
    have hjob : e.jobs[k]? = none := List.getElem?_eq_none (Nat.le_of_not_lt hk)
    rw [List.getElem?_drop, Nat.add_sub_cancel' (Nat.le_of_not_lt hk)]
    cases e.findings[k]? <;> simp [suggestionFor, hjob, Finding.withSuggestion]

theorem length_result (hjobs : e.jobs.length ≤ e.findings.length) :
    e.result.findings.length = e.findings.length := by
  simp only [result, List.length_append, List.length_map, List.length_zip, List.length_drop]
  omega

theorem shows_result (d : Document) (related : Bool) (hjobs : e.jobs.length ≤ e.findings.length) :
    d.Shows related e.findings e.suggestionFor
      (Diagnostic.ofFindings d.uri related e.result.findings) := by
  constructor
  · rw [Diagnostic.ofFindings, List.length_map, length_result hjobs]
  · intro k f x hf hx
    rw [Diagnostic.ofFindings, List.getElem?_map, getElem?_result hjobs, hf] at hx
    obtain rfl := Option.some.inj hx
    exact Diagnostic.tells_ofFinding ..

end Enrichment

namespace Document.Shows

variable {d : Document} {related related' : Bool} {findings : List Finding}
  {suggestion suggestion' : Nat → Finding → Option String} {set set' : List Diagnostic}

theorem congr (h : d.Shows related findings suggestion set)
    (hsame : ∀ k f, findings[k]? = some f → suggestion k f = suggestion' k f) :
    d.Shows related findings suggestion' set :=
  ⟨h.length, fun k f x hf hx => hsame k f hf ▸ h.each k f x hf hx⟩

end Document.Shows

/-! ## What the journal tells of requests and suggestions -/

theorem findSome?_filter_of_isSome {α β : Type} {f : α → Option β} {keep : α → Bool}
    (h : ∀ x, (f x).isSome → keep x) (xs : List α) :
    (xs.filter keep).findSome? f = xs.findSome? f := by
  induction xs with
  | nil => rfl
  | cons x xs ih =>
      by_cases hx : keep x
      · rw [List.filter_cons_of_pos hx, List.findSome?_cons, List.findSome?_cons, ih]
      · have hnone : f x = none := by
          rw [← Option.not_isSome_iff_eq_none]
          exact fun hsome => hx (h x hsome)
        rw [List.filter_cons_of_neg hx, List.findSome?_cons, hnone, ih]

namespace Enrichment.Noted

variable {e : Enrichment} {notes : List PassNote}

/-- The suggestion that is left for a finding is the one that stands after the notes. -/
theorem suggestionFor_eq (h : e.Noted notes) {k : Nat} {f : Finding}
    (hf : e.findings[k]? = some f) : e.suggestionFor k f = PassNote.suggestion? notes k f := by
  -- a reply to the job is among its own notes
  have hreplies : notes.findSome? (PassNote.replyTo? k) =
      (e.notesOf k).findSome? (PassNote.replyTo? k) := by
    rw [← h.each k, findSome?_filter_of_isSome]
    intro note hsome
    cases note with
    | replied job reply =>
        by_cases hjob : job = k
        · simp [PassNote.job?, hjob]
        · simp [PassNote.replyTo?, hjob] at hsome
    | _ => cases hsome
  have hrequest : e.request? k = some (e.requestFor f) := by
    rw [request?, hf, Option.map_some]
  rw [PassNote.suggestion?, hreplies, suggestionFor, notesOf, hrequest]
  cases e.jobs[k]? with
  | none => rfl
  | some job =>
      cases job with
      | answered reply =>
          have hreply : ((EnrichmentJob.answered reply).notes k (e.requestFor f)).findSome?
              (PassNote.replyTo? k) = some reply := by
            simp [EnrichmentJob.notes, List.findSome?_cons, PassNote.replyTo?]
          simp only [hreply]
          rcases reply with error | _ | text <;> rfl
      | _ => rfl

end Enrichment.Noted

namespace Pass

variable {ctx : PassContext} {refuses : Fault → Prop} {d : Document} {notes : List PassNote}
  {q : Point}

theorem Course.shows_of_published {x : PassOutcome}
    (h : Course ctx refuses d notes (.leaving (.ok x))) (hstatus : x.status = .published)
    {output : String} (hlinted : .linted (.ok output) ∈ notes) :
    ∃ reports, (Report.parse output).reports = .ok reports ∧
      x = ⟨d.uri, .published, x.diagnostics, none⟩ ∧
      d.Shows ctx.relatedInformation (d.findings reports) (PassNote.suggestion? notes)
        x.diagnostics := by
  cases h with
  | published hasks =>
      rw [linted_iff_of_asks hasks] at hlinted
      obtain rfl := Except.ok.inj hlinted
      obtain ⟨-, reports, hread, hfindings⟩ := hasks.enriches
      refine ⟨reports, hread, rfl, ?_⟩
      rw [← hfindings]
      refine (Enrichment.shows_result d _ hasks.length_jobs_le.2).congr fun k f hf => ?_
      exact hasks.noted.suggestionFor_eq hf
  | _ => cases hstatus

end Pass

end LintRelay
