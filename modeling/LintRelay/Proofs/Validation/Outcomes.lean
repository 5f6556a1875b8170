import LintRelay.Proofs.Validation.Deliveries

/-!
# What passes tell

A pass that tells that it was superseded really has an earlier token than the current
one, and a pass that tells that it published, or cleared, really handed over its set,
which the sink took.
-/

namespace LintRelay

namespace Pass

/-- The result of a pass, also while it still leaves. -/
def Point.outcome? : Point → Option PassOutcome
  | .leaving (.ok o) | .ended (.ok o) => some o
  | _ => none

theorem Point.outcome?_of_isUnderWay {q : Point} (h : q.isUnderWay) : q.outcome? = none := by
  cases q <;> simp_all [isUnderWay, outcome?]

theorem Point.isOver_of_outcome? {q : Point} {o : PassOutcome} (h : q.outcome? = some o) :
    q.isOver := by
  cases q <;> simp_all [isOver, outcome?]

theorem point_of_result? {p : Pass} {result : Except PassError PassOutcome}
    (h : p.result? = some result) : p.point = .ended result := by
  cases hp : p.point <;> simp_all [result?]

theorem outcome?_of_result? {p : Pass} {o : PassOutcome} (h : p.result? = some (.ok o)) :
    p.point.outcome? = some o := by
  rw [point_of_result? h]
  rfl

theorem result?_of_ended {p : Pass} {result : Except PassError PassOutcome}
    (h : p.point = .ended result) : p.result? = some result := by
  rw [result?, h]

/-- An outcome is told once: when the pass finds that it is superseded, when it still
has its token after a failure of the linter, or when the sink has taken its set. -/
theorem Effect.outcome_cases {sink : Sink} {b b' : Board} {p p' : Pass}
    {st : List ValidationStage} {xs : List Publication} (h : Effect sink b p b' p' st xs)
    {o : PassOutcome} (ho : p'.point.outcome? = some o) :
    p.point.outcome? = some o ∨
    p.point.isUnderWay ∧
      ((o.status = .superseded ∧ b.generation p.document.uri ≠ p.token) ∨
        o.status = .linterFailed ∨
        ((o.status = .published ∨ o.status = .cleared) ∧
          xs = [⟨p.document.uri, o.diagnostics⟩] ∧
          sink ⟨p.document.uri, o.diagnostics⟩ = none)) := by
  cases h with
  | begins => cases ho
  | waits => exact .inl ho
  | goesOn q _ hto | enters _ q _ _ _ hto =>
      rw [move, Point.outcome?_of_isUnderWay hto] at ho
      cases ho
  | delivers o' _ hfrom =>
      right
      refine ⟨hfrom.isUnderWay, .inr (.inr ?_)⟩
      cases hsink : sink ⟨p.document.uri, o'.diagnostics⟩ with
      | some fault =>
          rw [hsink] at ho
          cases ho
      | none =>
          rw [hsink] at ho
          obtain rfl := Option.some.inj ho
          refine ⟨?_, rfl, hsink⟩
          rcases hfrom with ⟨-, hstatus⟩ | ⟨_, -, -, hstatus⟩
          · exact .inl hstatus
          · exact .inr hstatus
  | gives r hfrom hresult =>
      cases r with
      | error => cases ho
      | ok o' =>
          obtain rfl := Option.some.inj ho
          rcases hresult _ rfl with h | h
          · exact .inr ⟨hfrom, .inl h⟩
          · exact .inr ⟨hfrom, .inr (.inl h.1)⟩
  | leavesStage => cases ho
  | ends r hleaving =>
      left
      rw [hleaving]
      cases r with
      | error => cases ho
      | ok => exact ho

end Pass

namespace Session

def Told (b : Board) (rs : List PassRecord) (ds : List Delivery) : Prop :=
  ∀ (i : Nat) (r : PassRecord) (o : PassOutcome), rs[i]? = some r →
    r.pass.point.outcome? = some o →
    (o.status = .superseded ∧ r.pass.token < b.generation r.uri) ∨
    o.status = .linterFailed ∨
    ((o.status = .published ∨ o.status = .cleared) ∧
      ∃ d ∈ ds, d.pass = i ∧ d.taken ∧ d.publication = ⟨r.uri, o.diagnostics⟩)

section

variable {workers : Nat} {m : Move} {b b' : Board} {rs rs' : List PassRecord}
  {ds ds' : List Delivery}

/-- With a greater generation and more deliveries, it still is so. -/
theorem Told.mono (h : Told b rs ds) (hle : ∀ uri, b.generation uri ≤ b'.generation uri)
    (hsub : ds ⊆ ds') : Told b' rs ds' := by
  intro i r o hget ho
  rcases h i r o hget ho with ⟨hstatus, hlt⟩ | hstatus | ⟨hstatus, d, hd, hrest⟩
  · exact .inl ⟨hstatus, Nat.lt_of_lt_of_le hlt (hle r.uri)⟩
  · exact .inr (.inl hstatus)
  · exact .inr (.inr ⟨hstatus, d, hsub hd, hrest⟩)

theorem Told.acts (h : Told b rs ds) (htokens : Tokens b rs) {i : Nat} {r : PassRecord}
    {sink : Sink} {p : Pass} {st : List ValidationStage} {xs : List Publication}
    (hget : rs[i]? = some r) (heffect : Pass.Effect sink b r.pass b' p st xs) :
    Told b' (rs.set i { r with pass := p, stages := r.stages ++ st })
      (ds ++ xs.map fun x =>
        ⟨i, r.pass.token, b.generation x.uri, x, (sink x).isNone⟩) := by
  have hold : ∀ new, Told b' rs (ds ++ new) := fun new =>
    h.mono heffect.generation_le (List.subset_append_left ds new)
  intro j q o hq ho
  rcases getElem?_set_cases hget hq with ⟨rfl, rfl⟩ | ⟨-, hq⟩
  case inr => exact hold _ j q o hq ho
  have hdocument : p.document = r.pass.document := heffect.document_eq
  rcases heffect.outcome_cases ho with hbefore | ⟨hway, hnew⟩
  · -- the outcome was told before, so the pass has begun and kept its token
    have hbegun := Pass.Point.ne_queued_of_isOver (Pass.Point.isOver_of_outcome? hbefore)
    have htoken : p.token = r.pass.token := (heffect.token_of_begun hbegun).2.1
    simpa only [PassRecord.uri, hdocument, htoken] using hold _ j r o hget hbefore
  · have hbegun := Pass.Point.ne_queued hway
    obtain ⟨hgeneration, htoken, -⟩ := heffect.token_of_begun hbegun
    simp only [PassRecord.uri, hdocument, htoken, hgeneration]
    rcases hnew with ⟨hstatus, hstale⟩ | hstatus | ⟨hstatus, rfl, hsink⟩
    · have hle := htokens.bounded j r hget hbegun
      exact .inl ⟨hstatus, Nat.lt_of_le_of_ne hle (Ne.symm hstale)⟩
    · exact .inr (.inl hstatus)
    · exact .inr (.inr ⟨hstatus, _, List.mem_append_right _ (List.mem_singleton.mpr rfl),
        rfl, Option.isNone_iff_eq_none.mpr hsink, rfl⟩)

theorem Told.step (h : Told b rs ds) (htokens : Tokens b rs)
    (heffect : Effect workers m b rs ds b' rs' ds') : Told b' rs' ds' := by
  cases heffect with
  | rests => exact h
  | supersedes uri => exact h.mono (b.generation_le_supersede uri) (List.Subset.refl ds)
  | joins r hqueued =>
      intro i q o hq ho
      rcases getElem?_concat_cases hq with hq | rfl
      · exact h i q o hq ho
      · rw [hqueued] at ho
        cases ho
  | acts i r sink hget heffect => exact h.acts htokens hget heffect

end

variable (o : Orchestrator) (workers : Nat) (moves : List Move)

theorem told_run : Told ((start o workers).run moves).board ((start o workers).run moves).passes
    ((start o workers).run moves).deliveries :=
  (run_induction (P := fun b rs ds => Tokens b rs ∧ Told b rs ds) (queueWaits_start o workers)
    ⟨tokens_start, fun i r o hget => by simp [start] at hget⟩ moves
    fun _ h heffect => ⟨h.1.step heffect, h.2.step h.1 heffect⟩).2

end Session

end LintRelay
