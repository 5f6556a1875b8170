import LintRelay.Proofs.Places
import LintRelay.Proofs.Validation.Runs

/-!
# Tokens are in order

A document's generation never goes back, and a pass keeps its token and, once it has
one, its result. No token is ahead of its document's generation, and no two passes
over a document share one.
-/

namespace LintRelay

/-- What stays of a pass that was taken up. -/
structure PassRecord.Becomes (r r' : PassRecord) : Prop where
  document : r'.pass.document = r.pass.document
  pooled : r'.pooled = r.pooled
  begun : r.pass.point ≠ .queued → r'.pass.point ≠ .queued ∧ r'.pass.token = r.pass.token
  isOver : r.pass.point.isOver → r'.pass.point.isOver
  ended : r.pass.result?.isSome → r'.pass = r.pass

theorem PassRecord.Becomes.refl (r : PassRecord) : r.Becomes r :=
  ⟨rfl, rfl, fun h => ⟨h, rfl⟩, id, fun _ => rfl⟩

theorem PassRecord.Becomes.trans {r r' r'' : PassRecord} (h : r.Becomes r')
    (h' : r'.Becomes r'') : r.Becomes r'' := by
  refine ⟨h'.document.trans h.document, h'.pooled.trans h.pooled, fun hbegun => ?_,
    h'.isOver ∘ h.isOver, fun hended => ?_⟩
  · have hfirst := h.begun hbegun
    have hsecond := h'.begun hfirst.1
    exact ⟨hsecond.1, hsecond.2.trans hfirst.2⟩
  · have hfirst := h.ended hended
    exact (h'.ended (hfirst ▸ hended)).trans hfirst

/-- A pass that acts becomes what the action makes of it. -/
theorem Pass.Effect.becomes {sink : Sink} {b b' : Board} {r : PassRecord} {p : Pass}
    {st : List ValidationStage} {xs : List Publication}
    (h : Effect sink b r.pass b' p st xs) :
    r.Becomes { r with pass := p, stages := r.stages ++ st } where
  document := h.document_eq
  pooled := rfl
  begun hbegun := ⟨(h.token_of_begun hbegun).2.2, (h.token_of_begun hbegun).2.1⟩
  isOver hover := (h.isOver hover).1
  ended := h.eq_of_ended

theorem Board.generation_le_supersede (b : Board) (uri u : String) :
    b.generation u ≤ (b.supersede uri).generation u := by
  rw [generation_supersede]
  split <;> omega

theorem Pass.Effect.generation_le {sink : Sink} {b b' : Board} {p p' : Pass}
    {st : List ValidationStage} {xs : List Publication} (h : Effect sink b p b' p' st xs)
    (uri : String) : b.generation uri ≤ b'.generation uri := by
  rcases h.token_cases with ⟨hgeneration, -⟩ | ⟨hgeneration, -⟩
  · exact Nat.le_of_eq (congrFun hgeneration uri).symm
  · rw [hgeneration]
    exact b.generation_le_supersede _ uri

namespace Session

section

variable {workers : Nat} {m : Move} {b b' : Board} {rs rs' : List PassRecord}
  {ds ds' : List Delivery}

theorem Effect.generation_le (h : Effect workers m b rs ds b' rs' ds') (uri : String) :
    b.generation uri ≤ b'.generation uri := by
  cases h with
  | rests => exact Nat.le_refl _
  | supersedes u => exact b.generation_le_supersede u uri
  | joins => exact Nat.le_refl _
  | acts i r sink _ heffect => exact heffect.generation_le uri

theorem Effect.becomes (h : Effect workers m b rs ds b' rs' ds') {i : Nat} {r : PassRecord}
    (hget : rs[i]? = some r) : ∃ r', rs'[i]? = some r' ∧ r.Becomes r' := by
  cases h with
  | rests => exact ⟨r, hget, .refl r⟩
  | supersedes => exact ⟨r, hget, .refl r⟩
  | joins =>
      obtain ⟨hi, -⟩ := List.getElem?_eq_some_iff.mp hget
      exact ⟨r, by rw [List.getElem?_append_left hi, hget], .refl r⟩
  | acts j q sink hj heffect =>
      rw [getElem?_set_of_getElem? hj]
      by_cases hij : i = j
      · subst hij
        obtain rfl := Option.some.inj (hget.symm.trans hj)
        exact ⟨_, if_pos rfl, heffect.becomes⟩
      · exact ⟨r, by rw [if_neg hij, hget], .refl r⟩

/-- No token is ahead of its document's generation, and no two passes over a
document share one. -/
structure Tokens (b : Board) (rs : List PassRecord) : Prop where
  bounded : ∀ (i : Nat) (r : PassRecord), rs[i]? = some r → r.pass.point ≠ .queued →
    r.pass.token ≤ b.generation r.uri
  distinct : ∀ (i j : Nat) (r q : PassRecord), rs[i]? = some r → rs[j]? = some q →
    r.pass.point ≠ .queued → q.pass.point ≠ .queued → r.uri = q.uri →
    r.pass.token = q.pass.token → i = j

theorem tokens_start : Tokens {} [] :=
  ⟨by simp, by simp⟩

/-- With a greater generation, a token still is not ahead. -/
theorem Tokens.of_generation_le (h : Tokens b rs)
    (hle : ∀ uri, b.generation uri ≤ b'.generation uri) : Tokens b' rs :=
  ⟨fun i r hr hbegun => Nat.le_trans (h.bounded i r hr hbegun) (hle r.uri), h.distinct⟩

/-- A pass that has not begun has no token to compare. -/
theorem Tokens.append (h : Tokens b rs) {r : PassRecord} (hqueued : r.pass.point = .queued) :
    Tokens b (rs ++ [r]) := by
  have hold : ∀ (i : Nat) (q : PassRecord), (rs ++ [r])[i]? = some q →
      q.pass.point ≠ .queued → rs[i]? = some q := by
    intro i q hq hbegun
    rcases getElem?_concat_cases hq with hq | rfl
    · exact hq
    · exact absurd hqueued hbegun
  refine ⟨fun i q hq hbegun => h.bounded i q (hold i q hq hbegun) hbegun, ?_⟩
  intro i j q q' hq hq' hbegun hbegun' huri htoken
  exact h.distinct i j q q' (hold i q hq hbegun) (hold j q' hq' hbegun') hbegun hbegun' huri htoken

/-- A pass whose token stays changes nothing in the order of tokens. -/
theorem Tokens.set_same (h : Tokens b rs) {i : Nat} {r r' : PassRecord}
    (hget : rs[i]? = some r) (huri : r'.uri = r.uri) (htoken : r'.pass.token = r.pass.token)
    (hbegun : r'.pass.point ≠ .queued → r.pass.point ≠ .queued) : Tokens b (rs.set i r') := by
  -- whatever stands in the new list has a counterpart with the same token in the old one
  have hold : ∀ (j : Nat) (q : PassRecord), (rs.set i r')[j]? = some q →
      q.pass.point ≠ .queued → ∃ q' : PassRecord, rs[j]? = some q' ∧ q'.uri = q.uri ∧
        q'.pass.token = q.pass.token ∧ q'.pass.point ≠ .queued := by
    intro j q hq hq'
    rcases getElem?_set_cases hget hq with ⟨rfl, rfl⟩ | ⟨-, hq⟩
    · exact ⟨r, hget, huri.symm, htoken.symm, hbegun hq'⟩
    · exact ⟨q, hq, rfl, rfl, hq'⟩
  constructor
  · intro j q hq hq'
    obtain ⟨q₀, hget₀, huri₀, htoken₀, hbegun₀⟩ := hold j q hq hq'
    rw [← huri₀, ← htoken₀]
    exact h.bounded j q₀ hget₀ hbegun₀
  · intro j k q q' hq hq' hb hb' hu ht
    obtain ⟨q₀, hget₀, huri₀, htoken₀, hbegun₀⟩ := hold j q hq hb
    obtain ⟨q₁, hget₁, huri₁, htoken₁, hbegun₁⟩ := hold k q' hq' hb'
    exact h.distinct j k q₀ q₁ hget₀ hget₁ hbegun₀ hbegun₁ (by rw [huri₀, huri₁, hu])
      (by rw [htoken₀, htoken₁, ht])

/-- A pass that takes the next generation as its token has one that no other has. -/
theorem Tokens.set_begun (h : Tokens b rs) {i : Nat} {r r' : PassRecord}
    (hget : rs[i]? = some r) (huri : r'.uri = r.uri)
    (htoken : r'.pass.token = b.generation r.uri + 1)
    (hgeneration : b'.generation = (b.supersede r.uri).generation) :
    Tokens b' (rs.set i r') := by
  have hnext : ∀ uri, b'.generation uri =
      if uri = r.uri then b.generation uri + 1 else b.generation uri := fun uri => by
    rw [hgeneration, Board.generation_supersede]
  -- an older pass over the document has a token that is not ahead of the generation
  have hold : ∀ (j : Nat) (q : PassRecord), rs[j]? = some q → q.pass.point ≠ .queued →
      q.uri = r.uri → q.pass.token ≠ b.generation r.uri + 1 := by
    intro j q hq hbegun hq'
    have hle := h.bounded j q hq hbegun
    rw [hq'] at hle
    omega
  constructor
  · intro j q hq hbegun
    rcases getElem?_set_cases hget hq with ⟨rfl, rfl⟩ | ⟨-, hq⟩
    · exact Nat.le_of_eq (by rw [htoken, hnext, huri, if_pos rfl])
    · have hle := h.bounded j q hq hbegun
      rw [hnext]
      split <;> omega
  · intro j k q q' hq hq' hb hb' hu ht
    rcases getElem?_set_cases hget hq with ⟨rfl, rfl⟩ | ⟨-, hold₁⟩ <;>
      rcases getElem?_set_cases hget hq' with ⟨rfl, rfl⟩ | ⟨-, hold₂⟩
    · rfl
    · exact absurd (ht ▸ htoken) (hold k q' hold₂ hb' (hu ▸ huri))
    · exact absurd (ht.trans htoken) (hold j q hold₁ hb (hu.trans huri))
    · exact h.distinct j k q q' hold₁ hold₂ hb hb' hu ht

theorem Tokens.step (h : Tokens b rs) (heffect : Effect workers m b rs ds b' rs' ds') :
    Tokens b' rs' := by
  cases heffect with
  | rests => exact h
  | supersedes uri => exact h.of_generation_le (b.generation_le_supersede uri)
  | joins r hqueued => exact h.append hqueued
  | acts i r sink hget heffect =>
      have huri := congrArg Document.uri heffect.document_eq
      rcases heffect.token_cases with ⟨hgeneration, htoken, hpoint⟩ | ⟨hgeneration, htoken, -, -⟩
      · refine (h.set_same hget huri htoken fun hb hq => hb (hpoint.mpr hq)).of_generation_le ?_
        exact heffect.generation_le
      · exact h.set_begun hget huri htoken hgeneration

end

/-! ## Runs -/

section

variable {s : Session} (hs : s.QueueWaits)

include hs

theorem becomes_run (moves : List Move) {i : Nat} {r : PassRecord}
    (hget : s.passes[i]? = some r) :
    ∃ r', (s.run moves).passes[i]? = some r' ∧ r.Becomes r' := by
  refine run_induction (P := fun _ rs _ => ∃ r', rs[i]? = some r' ∧ r.Becomes r') hs
    ⟨r, hget, .refl r⟩ moves fun _ h heffect => ?_
  obtain ⟨r', hget', hbecomes⟩ := h
  obtain ⟨r'', hget'', hbecomes'⟩ := heffect.becomes hget'
  exact ⟨r'', hget'', hbecomes.trans hbecomes'⟩

/-- A pass that begins later has a token ahead of the generation that stood before. -/
theorem generation_lt_token_run (moves : List Move) {i : Nat} {r r' : PassRecord}
    (hget : s.passes[i]? = some r) (hqueued : r.pass.point = .queued)
    (hget' : (s.run moves).passes[i]? = some r') (hbegun : r'.pass.point ≠ .queued) :
    s.board.generation r'.uri < r'.pass.token := by
  have hrun := run_induction (P := fun b rs _ =>
    (∀ uri, s.board.generation uri ≤ b.generation uri) ∧
      ∃ q : PassRecord, rs[i]? = some q ∧
        (q.pass.point ≠ .queued → s.board.generation q.uri < q.pass.token)) hs
    ⟨fun _ => Nat.le_refl _, r, hget, absurd hqueued⟩ moves fun _ h heffect => ?_
  · obtain ⟨-, q, hq, hlt⟩ := hrun
    obtain rfl := Option.some.inj (hq.symm.trans hget')
    exact hlt hbegun
  obtain ⟨hle, q, hq, hlt⟩ := h
  refine ⟨fun uri => Nat.le_trans (hle uri) (heffect.generation_le uri), ?_⟩
  cases heffect with
  | rests => exact ⟨q, hq, hlt⟩
  | supersedes => exact ⟨q, hq, hlt⟩
  | joins =>
      obtain ⟨hi, -⟩ := List.getElem?_eq_some_iff.mp hq
      exact ⟨q, by rw [List.getElem?_append_left hi, hq], hlt⟩
  | acts j q' sink hj heffect =>
      rw [getElem?_set_of_getElem? hj]
      by_cases hij : i = j
      · subst hij
        obtain rfl := Option.some.inj (hq.symm.trans hj)
        rw [if_pos rfl]
        refine ⟨_, rfl, fun hb => ?_⟩
        have huri := congrArg Document.uri heffect.document_eq
        rcases heffect.token_cases with ⟨-, htoken, hpoint⟩ | ⟨-, htoken, -⟩
        · simp only [PassRecord.uri, huri, htoken]
          exact hlt fun h => hb (hpoint.mpr h)
        · simp only [PassRecord.uri, huri, htoken]
          exact Nat.lt_succ_of_le (hle _)
      · rw [if_neg hij]
        exact ⟨q, hq, hlt⟩

end

variable (o : Orchestrator) (workers : Nat) (moves : List Move)

theorem queueWaits_run : ((start o workers).run moves).QueueWaits :=
  (run_keeps (queueWaits_start o workers) moves).1

theorem tokens_run :
    Tokens ((start o workers).run moves).board ((start o workers).run moves).passes :=
  run_induction (P := fun b rs _ => Tokens b rs) (queueWaits_start o workers) tokens_start
    moves fun _ h heffect => h.step heffect

end Session

end LintRelay
