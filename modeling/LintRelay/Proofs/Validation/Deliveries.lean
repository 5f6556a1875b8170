import LintRelay.Proofs.Validation.Tokens

/-!
# Superseded passes hand nothing over

Whatever the order in which passes act, sets reach the sink only under the token
that is their document's generation at that moment. So the tokens of a document's
sets increase, a pass hands over one set at most, and what stands for a document is
the set of the greatest token.
-/

namespace LintRelay

theorem Pass.Point.not_isOver {q : Point} (h : q.isUnderWay) : ¬ q.isOver := by
  cases q <;> simp_all [isUnderWay, isOver]

theorem Pass.Point.ne_queued_of_isOver {q : Point} (h : q.isOver) : q ≠ .queued := by
  rintro rfl
  cases h

/-- A pass that has its result made a delivery, under its token. -/
structure Delivery.IsFrom (d : Delivery) (r : PassRecord) : Prop where
  token : r.pass.token = d.token
  uri : r.uri = d.publication.uri
  isOver : r.pass.point.isOver

theorem Delivery.IsFrom.becomes {d : Delivery} {r r' : PassRecord} (h : d.IsFrom r)
    (hbecomes : r.Becomes r') : d.IsFrom r' where
  token := (hbecomes.begun (Pass.Point.ne_queued_of_isOver h.isOver)).2.trans h.token
  uri := (congrArg Document.uri hbecomes.document).trans h.uri
  isOver := hbecomes.isOver h.isOver

namespace Session

/-- What is known of the sets that were handed over. -/
structure Delivered (b : Board) (rs : List PassRecord) (ds : List Delivery) : Prop where
  current : ∀ d ∈ ds, d.token = d.generation
  ofPass : ∀ d ∈ ds, ∃ r, rs[d.pass]? = some r ∧ d.IsFrom r
  increasing : ds.Pairwise fun d e => d.publication.uri = e.publication.uri → d.token < e.token
  once : (ds.map Delivery.pass).Nodup
  history : b.history.events = (ds.filter Delivery.taken).map Delivery.publication

theorem delivered_start : Delivered {} [] [] :=
  ⟨by simp, by simp, .nil, .nil, rfl⟩

section

variable {workers : Nat} {m : Move} {b b' : Board} {rs rs' : List PassRecord}
  {ds ds' : List Delivery}

/-- Without a new delivery, only the passes may have moved. -/
theorem Delivered.same (h : Delivered b rs ds)
    (hbecomes : ∀ {i : Nat} {r : PassRecord}, rs[i]? = some r →
      ∃ r', rs'[i]? = some r' ∧ r.Becomes r')
    (hhistory : b'.history = b.history) : Delivered b' rs' ds := by
  refine ⟨h.current, fun d hd => ?_, h.increasing, h.once, by rw [hhistory, h.history]⟩
  obtain ⟨r, hget, hfrom⟩ := h.ofPass d hd
  obtain ⟨r', hget', hmore⟩ := hbecomes hget
  exact ⟨r', hget', hfrom.becomes hmore⟩

/-- A delivery by a pass under way comes after those of all passes that have their
result, and under a greater token than those for the same document. -/
theorem Delivered.new (h : Delivered b rs ds) (htokens : Tokens b rs) {i : Nat}
    {r : PassRecord} (hget : rs[i]? = some r) (hway : r.pass.point.isUnderWay)
    (hcurrent : b.generation r.uri = r.pass.token) {d : Delivery} (hd : d ∈ ds) :
    d.pass ≠ i ∧ (d.publication.uri = r.uri → d.token < r.pass.token) := by
  obtain ⟨q, hq, hfrom⟩ := h.ofPass d hd
  have hother : d.pass ≠ i := by
    rintro rfl
    obtain rfl := Option.some.inj (hq.symm.trans hget)
    exact Pass.Point.not_isOver hway hfrom.isOver
  refine ⟨hother, fun huri => ?_⟩
  have hbegun : q.pass.point ≠ .queued := Pass.Point.ne_queued_of_isOver hfrom.isOver
  have huri' : q.uri = r.uri := hfrom.uri.trans huri
  have hle : d.token ≤ r.pass.token := by
    rw [← hfrom.token, ← hcurrent, ← huri']
    exact htokens.bounded d.pass q hq hbegun
  refine Nat.lt_of_le_of_ne hle fun heq => hother ?_
  exact htokens.distinct d.pass i q r hq hget hbegun (Pass.Point.ne_queued hway) huri'
    (hfrom.token.trans heq)

theorem Delivered.step (h : Delivered b rs ds) (htokens : Tokens b rs)
    (heffect : Effect workers m b rs ds b' rs' ds') : Delivered b' rs' ds' := by
  have hbecomes : ∀ {i : Nat} {r : PassRecord}, rs[i]? = some r →
      ∃ r', rs'[i]? = some r' ∧ r.Becomes r' := heffect.becomes
  cases heffect with
  | rests => exact h
  | supersedes uri => exact h.same hbecomes (b.history_supersede uri)
  | joins r => exact h.same hbecomes rfl
  | acts i r sink hget heffect =>
      rcases heffect.offer_cases with ⟨rfl, hhistory⟩ | ⟨set, rfl, hcurrent, hway, hover, rfl⟩
      · rw [List.map_nil, List.append_nil]
        exact h.same hbecomes hhistory
      have hnew := fun d hd => h.new htokens hget hway hcurrent (d := d) hd
      rw [List.map_singleton]
      constructor
      case current =>
        intro d hd
        rcases List.mem_append.mp hd with hd | hd
        · exact h.current d hd
        · obtain rfl := List.mem_singleton.mp hd
          exact hcurrent.symm
      case ofPass =>
        intro d hd
        rcases List.mem_append.mp hd with hd | hd
        · obtain ⟨q, hq, hfrom⟩ := h.ofPass d hd
          obtain ⟨q', hq', hmore⟩ := hbecomes hq
          exact ⟨q', hq', hfrom.becomes hmore⟩
        · obtain rfl := List.mem_singleton.mp hd
          refine ⟨_, by rw [getElem?_set_of_getElem? hget, if_pos rfl], ?_⟩
          exact ⟨(heffect.token_of_begun (Pass.Point.ne_queued hway)).2.1,
            congrArg Document.uri heffect.document_eq, hover⟩
      case increasing =>
        refine List.pairwise_append.mpr ⟨h.increasing, List.pairwise_singleton _ _, ?_⟩
        intro d hd e he huri
        obtain rfl := List.mem_singleton.mp he
        exact (hnew d hd).2 huri
      case once =>
        rw [List.map_append, List.nodup_append]
        refine ⟨h.once, List.nodup_cons.mpr ⟨List.not_mem_nil, .nil⟩, ?_⟩
        intro j hj k hk
        obtain ⟨d, hd, rfl⟩ := List.mem_map.mp hj
        obtain rfl := List.mem_singleton.mp hk
        exact (hnew d hd).1
      case history =>
        rw [b.history_publish _ _ _ _ hcurrent, h.history, List.filter_append, List.map_append]
        cases sink ⟨r.pass.document.uri, set⟩ <;> simp

/-- Where tokens increase, the greatest one of a document is the last. -/
theorem greatest_iff_last (h : ds.Pairwise fun d e =>
      d.publication.uri = e.publication.uri → d.token < e.token) (d : Delivery) :
    (d ∈ ds ∧ ∀ e ∈ ds, e.publication.uri = d.publication.uri → e.token ≤ d.token) ↔
      ∃ before after, ds = before ++ d :: after ∧
        ∀ e ∈ after, e.publication.uri ≠ d.publication.uri := by
  constructor
  · rintro ⟨hd, hgreatest⟩
    obtain ⟨before, after, rfl⟩ := List.append_of_mem hd
    refine ⟨before, after, rfl, fun e he huri => ?_⟩
    rw [List.pairwise_append, List.pairwise_cons] at h
    have hlt := h.2.1.1 e he huri.symm
    have hle := hgreatest e (by simp [he]) huri
    omega
  · rintro ⟨before, after, rfl, hlast⟩
    refine ⟨by simp, fun e he huri => ?_⟩
    rw [List.pairwise_append] at h
    rcases List.mem_append.mp he with he | he
    · exact Nat.le_of_lt (h.2.2 e he d List.mem_cons_self huri)
    · rcases List.mem_cons.mp he with rfl | he
      · exact Nat.le_refl _
      · exact absurd huri (hlast e he)

theorem Delivered.current?_eq_some_iff (h : Delivered b rs ds) (uri : String)
    (set : List Diagnostic) : b.history.current? uri = some set ↔
      ∃ d ∈ ds, d.taken ∧ d.publication = ⟨uri, set⟩ ∧
        ∀ e ∈ ds, e.taken → e.publication.uri = uri → e.token ≤ d.token := by
  have hsub : (ds.filter Delivery.taken).Sublist ds := List.filter_sublist
  have hlast := greatest_iff_last (h.increasing.sublist hsub)
  rw [PublicationHistory.current?_eq_some_iff, h.history]
  constructor
  · rintro ⟨before, after, hsplit, hafter⟩
    obtain ⟨front, back, hfilter, -, hback⟩ := List.map_eq_append_iff.mp hsplit
    obtain ⟨d, back, rfl, hd, rfl⟩ := List.map_eq_cons_iff.mp hback
    obtain ⟨hmem, hgreatest⟩ := (hlast d).mpr ⟨front, back, hfilter, fun e he => by
      rw [hd]
      exact hafter _ (List.mem_map_of_mem he)⟩
    obtain ⟨hmem, htaken⟩ := List.mem_filter.mp hmem
    refine ⟨d, hmem, htaken, hd, fun e he htaken' huri => ?_⟩
    exact hgreatest e (List.mem_filter.mpr ⟨he, htaken'⟩) (by rw [huri, hd])
  · rintro ⟨d, hmem, htaken, hd, hgreatest⟩
    obtain ⟨front, back, hfilter, hback⟩ := (hlast d).mp
      ⟨List.mem_filter.mpr ⟨hmem, htaken⟩, fun e he huri => hgreatest e (List.mem_filter.mp he).1
        (List.mem_filter.mp he).2 (by rw [huri, hd])⟩
    refine ⟨front.map Delivery.publication, back.map Delivery.publication,
      by rw [hfilter, List.map_append, List.map_cons, hd], fun x hx => ?_⟩
    obtain ⟨e, he, rfl⟩ := List.mem_map.mp hx
    simpa only [hd] using hback e he

end

/-! ## Runs -/

/-- What a run adds to the deliveries goes under tokens that are not behind the
generations that stood before. -/
theorem deliveries_run {s : Session} (hs : s.QueueWaits) (moves : List Move) :
    ∃ later, (s.run moves).deliveries = s.deliveries ++ later ∧
      ∀ d ∈ later, s.board.generation d.publication.uri ≤ d.token := by
  refine (run_induction (P := fun b _ ds =>
    (∀ uri, s.board.generation uri ≤ b.generation uri) ∧
      ∃ later, ds = s.deliveries ++ later ∧
        ∀ d ∈ later, s.board.generation d.publication.uri ≤ d.token) hs
    ⟨fun _ => Nat.le_refl _, [], by simp⟩ moves fun _ h heffect => ?_).2
  obtain ⟨hle, later, rfl, hlater⟩ := h
  refine ⟨fun uri => Nat.le_trans (hle uri) (heffect.generation_le uri), ?_⟩
  cases heffect with
  | rests => exact ⟨later, rfl, hlater⟩
  | supersedes => exact ⟨later, rfl, hlater⟩
  | joins => exact ⟨later, rfl, hlater⟩
  | acts i r sink hget heffect =>
      refine ⟨later ++ _, (List.append_assoc ..), ?_⟩
      intro d hd
      rcases List.mem_append.mp hd with hd | hd
      · exact hlater d hd
      · obtain ⟨x, hx, rfl⟩ := List.mem_map.mp hd
        rcases heffect.offer_cases with ⟨rfl, -⟩ | ⟨set, rfl, hcurrent, -⟩
        · cases hx
        · obtain rfl := List.mem_singleton.mp hx
          rw [← hcurrent]
          exact hle _

theorem delivered_run (o : Orchestrator) (workers : Nat) (moves : List Move) :
    Delivered ((start o workers).run moves).board ((start o workers).run moves).passes
      ((start o workers).run moves).deliveries :=
  (run_induction (P := fun b rs ds => Tokens b rs ∧ Delivered b rs ds)
    (queueWaits_start o workers) ⟨tokens_start, delivered_start⟩ moves
    fun _ h heffect => ⟨h.1.step heffect, h.2.step h.1 heffect⟩).2

/-- **Superseded passes hand nothing over.** In every run, each set goes to the sink
under the token of its pass, which is the document's generation at that moment; the
tokens of a document's sets increase; no pass hands over two sets; and whenever a
generation has been reached, nothing goes under an earlier token any more. What the
sink keeps of a document is therefore the set of the greatest token it took. A pass
that comes to the sink with the current token does hand its set over. -/
theorem superseded_passes_hand_nothing_over (o : Orchestrator) (workers : Nat)
    (moves : List Move) :
    let s := (start o workers).run moves
    (∀ d ∈ s.deliveries, d.token = d.generation ∧ ∃ r, s.passes[d.pass]? = some r ∧
      r.pass.token = d.token ∧ r.uri = d.publication.uri) ∧
    s.deliveries.Pairwise (fun d e =>
      d.publication.uri = e.publication.uri → d.token < e.token) ∧
    (s.deliveries.map Delivery.pass).Nodup ∧
    (∀ before after, moves = before ++ after →
      ∃ later, s.deliveries = ((start o workers).run before).deliveries ++ later ∧
        ∀ d ∈ later, ((start o workers).run before).board.generation d.publication.uri ≤
          d.token) ∧
    s.board.history.events = (s.deliveries.filter Delivery.taken).map Delivery.publication ∧
    (∀ uri set, s.board.history.current? uri = some set ↔
      ∃ d ∈ s.deliveries, d.taken ∧ d.publication = ⟨uri, set⟩ ∧
        ∀ e ∈ s.deliveries, e.taken → e.publication.uri = uri → e.token ≤ d.token) ∧
    ∀ (i : Nat) (r : PassRecord) (out : PassOutcome) sink, s.passes[i]? = some r →
      r.pass.Offering out → (s.act i sink .proceed).deliveries = s.deliveries ++
        if s.board.generation r.uri = r.pass.token then
          [⟨i, r.pass.token, s.board.generation r.uri, ⟨r.uri, out.diagnostics⟩,
            (sink ⟨r.uri, out.diagnostics⟩).isNone⟩]
        else
          [] := by
  intro s
  have h : Delivered s.board s.passes s.deliveries := delivered_run o workers moves
  refine ⟨fun d hd => ⟨h.current d hd, ?_⟩, h.increasing, h.once, ?_, h.history,
    h.current?_eq_some_iff, ?_⟩
  · obtain ⟨r, hget, hfrom⟩ := h.ofPass d hd
    exact ⟨r, hget, hfrom.token, hfrom.uri⟩
  · rintro before after hmoves
    rw [show s = ((start o workers).run before).run after by rw [← run_append, ← hmoves]]
    exact deliveries_run (queueWaits_run o workers before) after
  · intro i r out sink hget hoffering
    simp only [act, hget]
    rw [Pass.offers_of_offering hoffering]
    change _ ++ List.map _ (if s.board.generation r.uri = r.pass.token then _ else _) = _
    split <;> rfl

end Session

end LintRelay
