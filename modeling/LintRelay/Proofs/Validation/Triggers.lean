import LintRelay.Proofs.Validation.Closing
import LintRelay.Proofs.Validation.Computing
import LintRelay.Proofs.Validation.Scheduling

/-!
# The last trigger

A pass takes its token when it begins, not when it is triggered. So the pass that begins
last owns the last set of its document. With one worker this is the pass of the last
trigger; with more workers another pass may begin later, and its set takes the place of
the one that was triggered last.
-/

namespace LintRelay.Session

/-- A move that lets something other than a trigger take a token for a document: a call
on its own, or one that makes its passes worthless. -/
def Move.Disturbs (m : Move) (uri : String) : Prop :=
  m.Supersedes uri ∨ ∃ d : Document, m = .call d ∧ d.uri = uri

/-- What is known of a document that is only triggered. -/
structure OnlyTriggered (uri : String) (b : Board) (rs : List PassRecord) : Prop where
  /-- The generation is the token of some pass, once there is one. -/
  held : b.generation uri = 0 ∨ ∃ (i : Nat) (r : PassRecord), rs[i]? = some r ∧ r.uri = uri ∧
    r.pass.point ≠ .queued ∧ r.pass.token = b.generation uri
  pooled : ∀ r ∈ rs, r.uri = uri → r.pooled = true

section

variable {workers : Nat} {m : Move} {b b' : Board} {rs rs' : List PassRecord}
  {ds ds' : List Delivery} {uri : String}

theorem OnlyTriggered.held_of_same (h : OnlyTriggered uri b rs)
    (heffect : Effect workers m b rs ds b' rs' ds')
    (hsame : b'.generation uri = b.generation uri) :
    b'.generation uri = 0 ∨ ∃ (i : Nat) (r : PassRecord), rs'[i]? = some r ∧ r.uri = uri ∧
      r.pass.point ≠ .queued ∧ r.pass.token = b'.generation uri := by
  rw [hsame]
  rcases h.held with hzero | ⟨i, r, hget, huri, hbegun, htoken⟩
  · exact .inl hzero
  · obtain ⟨r', hget', hbecomes⟩ := heffect.becomes hget
    obtain ⟨hbegun', htoken'⟩ := hbecomes.begun hbegun
    exact .inr ⟨i, r', hget', (congrArg Document.uri hbecomes.document).trans huri, hbegun',
      htoken'.trans htoken⟩

theorem OnlyTriggered.step (h : OnlyTriggered uri b rs) (hm : ¬ m.Disturbs uri)
    (heffect : Effect workers m b rs ds b' rs' ds') : OnlyTriggered uri b' rs' := by
  have hheld := h.held_of_same heffect
  cases heffect with
  | rests => exact h
  | supersedes u hmove =>
      refine ⟨hheld ?_, h.pooled⟩
      rw [Board.generation_supersede, if_neg]
      rintro rfl
      exact hm (.inl hmove)
  | joins r _ _ hmove =>
      refine ⟨hheld rfl, fun q hq huri => ?_⟩
      rcases List.mem_append.mp hq with hq | hq
      · exact h.pooled q hq huri
      · obtain rfl := List.mem_singleton.mp hq
        rcases hmove with ⟨rfl, -⟩ | ⟨hpooled, -⟩
        · exact absurd (.inr ⟨_, rfl, huri⟩) hm
        · exact hpooled
  | acts i r sink hget heffect =>
      have hdocument := heffect.document_eq
      refine ⟨?_, fun q hq huri => ?_⟩
      · rcases heffect.token_cases with ⟨hgeneration, -⟩ | ⟨hgeneration, htoken, -, hpoint⟩
        · exact hheld (by rw [hgeneration])
        by_cases hu : uri = r.uri
        · subst hu
          refine .inr ⟨i, _, by rw [getElem?_set_of_getElem? hget, if_pos rfl],
            congrArg Document.uri hdocument, by rw [hpoint]; exact Pass.Point.noConfusion, ?_⟩
          rw [hgeneration, Board.generation_supersede, if_pos rfl]
          exact htoken
        · exact hheld (by rw [hgeneration, Board.generation_supersede, if_neg hu])
      · rcases List.mem_or_eq_of_mem_set hq with hq | rfl
        · exact h.pooled q hq huri
        · exact h.pooled r (List.mem_of_getElem? hget)
            ((congrArg Document.uri hdocument.symm).trans huri)

end

/-- A pass ended well: the linter did not fail, and nothing was raised. -/
def EndedWell (r : PassRecord) : Prop :=
  ∃ o, r.pass.result? = some (.ok o) ∧ o.status ≠ .linterFailed ∧ o.status ≠ .cleared

/-- A pass of the pool is the last one for a document. The pool takes passes up in the
order of their triggers, so it is the pass of the last trigger once none waits. -/
def IsLastTriggered (s : Session) (uri : String) (i : Nat) (r : PassRecord) : Prop :=
  s.passes[i]? = some r ∧ r.uri = uri ∧ r.pooled = true ∧
    ∀ (j : Nat) (q : PassRecord), i < j → s.passes[j]? = some q → q.pooled = true → q.uri ≠ uri

/-- A pass owns the last set of its document: it published a set that comes of what the
linter answered it, the sink took it, no other set of the document went to the sink after
it, and it stands. -/
def OwnsLastSet (s : Session) (moves : List Move) (i : Nat) (r : PassRecord) : Prop :=
  ∃ x sink output before d after,
    r.pass.result? = some (.ok x) ∧ x.status = .published ∧
    .act i sink (.linted (.ok output)) ∈ moves ∧
    r.pass.document.Yields s.orchestrator.context output x.diagnostics ∧
    s.deliveries = before ++ d :: after ∧ d.pass = i ∧ d.taken ∧
    d.publication = ⟨r.uri, x.diagnostics⟩ ∧ (∀ e ∈ after, e.publication.uri ≠ r.uri) ∧
    s.board.history.current? r.uri = some x.diagnostics

/-- The last trigger wins with a number of workers: in every run in which a document is
only triggered, once all passes have ended, the pass of its last trigger owns its last
set, if it ended well. -/
def LastTriggerWins (workers : Nat) : Prop :=
  ∀ (o : Orchestrator) (uri : String) (moves : List Move), (∀ m ∈ moves, ¬ m.Disturbs uri) →
    ((start o workers).run moves).Settled →
    ∀ (i : Nat) (r : PassRecord), IsLastTriggered ((start o workers).run moves) uri i r →
      EndedWell r → OwnsLastSet ((start o workers).run moves) moves i r

section

variable (o : Orchestrator) (workers : Nat) (uri : String) (moves : List Move)

theorem onlyTriggered_run (hmoves : ∀ m ∈ moves, ¬ m.Disturbs uri) :
    OnlyTriggered uri ((start o workers).run moves).board
      ((start o workers).run moves).passes :=
  run_induction (P := fun b rs _ => OnlyTriggered uri b rs) (queueWaits_start o workers)
    ⟨.inl rfl, by simp [start]⟩ moves fun hm h heffect => h.step (hmoves _ hm) heffect

/-- The pass of a document that has the greatest token has published if it ended well. -/
theorem published_of_greatest (hmoves : ∀ m ∈ moves, ¬ m.Disturbs uri) {i : Nat}
    {r : PassRecord} (hget : ((start o workers).run moves).passes[i]? = some r)
    (huri : r.uri = uri)
    (hgreatest : ∀ (j : Nat) (q : PassRecord),
      ((start o workers).run moves).passes[j]? = some q → q.uri = uri →
        q.pass.token ≤ r.pass.token)
    (hended : EndedWell r) :
    ∃ x, r.pass.result? = some (.ok x) ∧ x.status = .published ∧
      ∃ d ∈ ((start o workers).run moves).deliveries,
        d.pass = i ∧ d.taken ∧ d.publication = ⟨r.uri, x.diagnostics⟩ := by
  obtain ⟨x, hresult, hfailed, hcleared⟩ := hended
  -- the greatest token is the generation, so the pass was not superseded
  have hcurrent : ((start o workers).run moves).board.generation r.uri ≤ r.pass.token := by
    rw [huri]
    rcases (onlyTriggered_run o workers uri moves hmoves).held with
      hzero | ⟨j, q, hq, hquri, -, htoken⟩
    · rw [hzero]
      exact Nat.zero_le _
    · rw [← htoken]
      exact hgreatest j q hq hquri
  rcases told_run o workers moves i r x hget (Pass.outcome?_of_result? hresult) with
    ⟨-, hlt⟩ | hstatus | ⟨hstatus, hdelivery⟩
  · exact absurd hcurrent (Nat.not_le_of_lt hlt)
  · exact absurd hstatus hfailed
  · exact ⟨x, hresult, hstatus.resolve_right hcleared, hdelivery⟩

/-- The pass of a document that begins last owns its last set, if it ends well. -/
theorem ownsLastSet_of_greatest (hmoves : ∀ m ∈ moves, ¬ m.Disturbs uri) {i : Nat}
    {r : PassRecord} (hget : ((start o workers).run moves).passes[i]? = some r)
    (huri : r.uri = uri)
    (hgreatest : ∀ (j : Nat) (q : PassRecord),
      ((start o workers).run moves).passes[j]? = some q → q.uri = uri →
        q.pass.token ≤ r.pass.token)
    (hended : EndedWell r) : OwnsLastSet ((start o workers).run moves) moves i r := by
  obtain ⟨x, hresult, hstatus, d, hd, rfl, htaken, hpublication⟩ :=
    published_of_greatest o workers uri moves hmoves hget huri hgreatest hended
  obtain ⟨sink, output, hlinted, hyields⟩ :=
    yields_of_published o workers moves hget hresult hstatus
  have hdelivered := delivered_run o workers moves
  have hlast : ∀ e ∈ ((start o workers).run moves).deliveries, e.publication.uri = r.uri →
      e.token ≤ d.token := by
    intro e he heuri
    obtain ⟨q, hq, hfrom⟩ := hdelivered.ofPass e he
    obtain ⟨q', hq', hfrom'⟩ := hdelivered.ofPass d hd
    obtain rfl := Option.some.inj (hq'.symm.trans hget)
    rw [← hfrom.token, ← hfrom'.token]
    exact hgreatest e.pass q hq ((hfrom.uri.trans heuri).trans huri)
  obtain ⟨before, after, hsplit, hafter⟩ := (greatest_iff_last hdelivered.increasing d).mp
    ⟨hd, fun e he heuri => hlast e he (by rw [heuri, hpublication])⟩
  rw [hpublication] at hafter
  exact ⟨x, sink, output, before, d, after, hresult, hstatus, hlinted, hyields, hsplit, rfl,
    htaken, hpublication, hafter, (hdelivered.current?_eq_some_iff r.uri x.diagnostics).mpr
      ⟨d, hd, htaken, hpublication, fun e he _ => hlast e he⟩⟩

theorem OwnsLastSet.greatest {i : Nat} {r : PassRecord}
    (h : OwnsLastSet ((start o workers).run moves) moves i r) :
    ∃ d ∈ ((start o workers).run moves).deliveries, d.pass = i ∧ d.publication.uri = r.uri ∧
      ∀ e ∈ ((start o workers).run moves).deliveries, e.publication.uri = r.uri →
        e.token ≤ d.token := by
  obtain ⟨x, -, -, before, d, after, -, -, -, -, hsplit, hpass, -, hd, hafter, -⟩ := h
  obtain ⟨hmem, hgreatest⟩ := (greatest_iff_last (delivered_run o workers moves).increasing d).mpr
    ⟨before, after, hsplit, by rw [hd]; exact hafter⟩
  rw [hd] at hgreatest
  exact ⟨d, hmem, hpass, by rw [hd], hgreatest⟩

/-- Only one pass owns the last set of a document. -/
theorem OwnsLastSet.unique {i j : Nat} {r q : PassRecord}
    (h : OwnsLastSet ((start o workers).run moves) moves i r)
    (h' : OwnsLastSet ((start o workers).run moves) moves j q) (huri : r.uri = q.uri) :
    i = j := by
  obtain ⟨d, hd, rfl, hduri, hgreatest⟩ := h.greatest
  obtain ⟨d', hd', rfl, hduri', hgreatest'⟩ := h'.greatest
  have htoken : d.token = d'.token :=
    Nat.le_antisymm (hgreatest' d hd (hduri.trans huri)) (hgreatest d' hd' (hduri'.trans huri.symm))
  obtain ⟨r₁, hget, hfrom⟩ := (delivered_run o workers moves).ofPass d hd
  obtain ⟨r₂, hget', hfrom'⟩ := (delivered_run o workers moves).ofPass d' hd'
  refine (tokens_run o workers moves).distinct d.pass d'.pass r₁ r₂ hget hget'
    (Pass.Point.ne_queued_of_isOver hfrom.isOver)
    (Pass.Point.ne_queued_of_isOver hfrom'.isOver) ?_ ?_
  · rw [hfrom.uri, hfrom'.uri, hduri, hduri', huri]
  · rw [hfrom.token, hfrom'.token, htoken]

end

/-! ## Two workers -/

theorem not_disturbs_act {m : Move} {i : Nat} (h : ∃ a, m = .act i .keeping a) (uri : String) :
    ¬ m.Disturbs uri := by
  obtain ⟨a, rfl⟩ := h
  simp [Move.Disturbs, Move.Supersedes]

/-- A pass that a worker has taken up and that has not begun. -/
def takenUp (d : Document) : PassRecord :=
  ⟨{ document := d }, true, []⟩

theorem run_twice {workers : Nat} (hworkers : 2 ≤ workers) (d₁ d₂ : Document) :
    ((start {} workers).run [.trigger d₁, .trigger d₂, .take, .take]).orchestrator =
        (start {} workers).orchestrator ∧
      ((start {} workers).run [.trigger d₁, .trigger d₂, .take, .take]).passes =
        [takenUp d₁, takenUp d₂] := by
  have hone : 0 < workers := by omega
  have htwo : 1 < workers := by omega
  simp [run, step, host, start, Orchestrator.trigger, take, busy, takenUp, PassRecord.isBusy,
    Pass.result?, hone, htwo]

/-- Of two passes that two workers have taken up, the second can begin and publish before
the first begins. -/
theorem can_overtake {workers : Nat} (hworkers : 2 ≤ workers) (d₁ d₂ : Document)
    {x y : String} {xs ys : List FileReport} (hx : (Report.parse x).reports = .ok xs)
    (hy : (Report.parse y).reports = .ok ys) :
    ∃ moves r₁ r₂, (∀ m ∈ moves, ∀ uri, ¬ m.Disturbs uri) ∧
      ((start {} workers).run moves).orchestrator.queue = [] ∧
      ((start {} workers).run moves).passes = [r₁, r₂] ∧
      r₁.pooled = true ∧ r₂.pooled = true ∧ r₁.pass.document = d₁ ∧ r₂.pass.document = d₂ ∧
      r₁.pass.point = .ended (.ok ⟨d₁.uri, .published,
        Diagnostic.ofFindings d₁.uri true (d₁.findings xs), none⟩) ∧
      r₂.pass.point = .ended (.ok ⟨d₂.uri, .published,
        Diagnostic.ofFindings d₂.uri true (d₂.findings ys), none⟩) ∧
      (d₁.uri = d₂.uri → r₂.pass.token < r₁.pass.token) := by
  let s := start {} workers
  let front : List Move := [.trigger d₁, .trigger d₂, .take, .take]
  obtain ⟨hfront, hpasses⟩ : (s.run front).orchestrator = s.orchestrator ∧
      (s.run front).passes = [takenUp d₁, takenUp d₂] := run_twice hworkers d₁ d₂
  -- the second pass runs to its end
  have hget₂ : (s.run front).passes[1]? = some (takenUp d₂) := by
    rw [hpasses]
    rfl
  obtain ⟨moves₂, sh₂, r₂, hmoves₂, horchestrator₂, hprovider₂, hpasses₂, hpooled₂, hdocument₂,
    hpoint₂⟩ := can_publish hget₂ rfl (by rw [hfront]; exact fun h => by cases h) hy
      (.inl (by rw [hfront]; rfl))
  rw [← run_append, hpasses] at hpasses₂
  rw [← run_append, hfront] at horchestrator₂
  rw [hfront] at hprovider₂ hpoint₂
  -- then the first
  have hget₁ : (s.run (front ++ moves₂)).passes[0]? = some (takenUp d₁) := by
    rw [hpasses₂]
    rfl
  obtain ⟨moves₁, sh₁, r₁, hmoves₁, horchestrator₁, -, hpasses₁, hpooled₁, hdocument₁,
    hpoint₁⟩ := can_publish hget₁ rfl
      (by rw [horchestrator₂, hprovider₂]; exact fun h => by cases h) hx
      (.inl (by rw [horchestrator₂]; rfl))
  have hget₁' : ((s.run (front ++ moves₂)).run moves₁).passes[0]? = some r₁ := by
    rw [hpasses₁, hpasses₂]
    rfl
  rw [← run_append, hpasses₂] at hpasses₁
  rw [← run_append, horchestrator₂] at horchestrator₁
  rw [horchestrator₂] at hpoint₁
  refine ⟨front ++ moves₂ ++ moves₁, r₁, r₂, ?_, ?_, hpasses₁, hpooled₁, hpooled₂, hdocument₁,
    hdocument₂, hpoint₁, hpoint₂, fun huri => ?_⟩
  · intro m hm uri
    rcases List.mem_append.mp hm with hm | hm
    · rcases List.mem_append.mp hm with hm | hm
      · simp only [front, List.mem_cons, List.not_mem_nil, or_false] at hm
        rcases hm with rfl | rfl | rfl | rfl <;> simp [Move.Disturbs, Move.Supersedes]
      · exact not_disturbs_act (hmoves₂ m hm) uri
    · exact not_disturbs_act (hmoves₁ m hm) uri
  · rw [horchestrator₁]
    rfl
  · -- the first pass begins when the second has its token
    have hbegun₁ : r₁.pass.point ≠ .queued := by
      rw [hpoint₁]
      exact Pass.Point.noConfusion
    have hbegun₂ : r₂.pass.point ≠ .queued := by
      rw [hpoint₂]
      exact Pass.Point.noConfusion
    have hle := (tokens_run {} workers (front ++ moves₂)).bounded 1 r₂
      (by rw [hpasses₂]; rfl) hbegun₂
    have hlt := generation_lt_token_run (queueWaits_run {} workers (front ++ moves₂)) moves₁ hget₁
      rfl hget₁' hbegun₁
    have huri' : r₁.uri = r₂.uri := by
      rw [PassRecord.uri, PassRecord.uri, hdocument₁, hdocument₂]
      exact huri
    rw [huri'] at hlt
    exact Nat.lt_of_le_of_lt hle hlt

/-- With two workers, the pass that was triggered first can own the last set. -/
theorem first_can_own_last_set {workers : Nat} (hworkers : 2 ≤ workers) {d₁ d₂ : Document}
    (huri : d₁.uri = d₂.uri) {x y : String} {xs ys : List FileReport}
    (hx : (Report.parse x).reports = .ok xs) (hy : (Report.parse y).reports = .ok ys) :
    ∃ moves r₁ r₂, (∀ m ∈ moves, ¬ m.Disturbs d₂.uri) ∧
      ((start {} workers).run moves).Settled ∧ (start {} workers).triggered moves = [d₁, d₂] ∧
      IsLastTriggered ((start {} workers).run moves) d₂.uri 1 r₂ ∧ EndedWell r₂ ∧
      OwnsLastSet ((start {} workers).run moves) moves 0 r₁ ∧ r₁.uri = d₂.uri ∧
      ((start {} workers).run moves).board.history.current? d₂.uri =
        some (Diagnostic.ofFindings d₂.uri true (d₁.findings xs)) := by
  obtain ⟨moves, r₁, r₂, hmoves, hqueue, hpasses, hpooled₁, hpooled₂, rfl, rfl, hpoint₁, hpoint₂,
    htoken⟩ := can_overtake hworkers d₁ d₂ hx hy
  have hresult₁ := Pass.result?_of_ended hpoint₁
  have hresult₂ := Pass.result?_of_ended hpoint₂
  have hsettled : ((start {} workers).run moves).Settled := by
    refine ⟨hqueue, fun r hr => ?_⟩
    rw [hpasses, List.mem_cons, List.mem_singleton] at hr
    rcases hr with rfl | rfl
    · rw [hresult₁]
      rfl
    · rw [hresult₂]
      rfl
  have htriggered : (start {} workers).triggered moves = [r₁.pass.document, r₂.pass.document] := by
    have h := scheduled_run (start {} workers) moves
    rw [scheduled_start, List.nil_append, scheduled, hqueue, hpasses] at h
    simpa [hpooled₁, hpooled₂] using h.symm
  have hlast : IsLastTriggered ((start {} workers).run moves) r₂.uri 1 r₂ := by
    refine ⟨by rw [hpasses]; rfl, rfl, hpooled₂, fun j q hj hq => ?_⟩
    rw [hpasses, List.getElem?_eq_none hj] at hq
    cases hq
  have howns : OwnsLastSet ((start {} workers).run moves) moves 0 r₁ := by
    refine ownsLastSet_of_greatest {} workers r₂.uri moves (fun m hm => hmoves m hm _)
      (by rw [hpasses]; rfl) huri (fun j q hq _ => ?_)
      ⟨_, hresult₁, PassStatus.noConfusion, PassStatus.noConfusion⟩
    have hmem := List.mem_of_getElem? hq
    rw [hpasses, List.mem_cons, List.mem_singleton] at hmem
    rcases hmem with rfl | rfl
    · exact Nat.le_refl _
    · exact Nat.le_of_lt (htoken huri)
  refine ⟨moves, r₁, r₂, fun m hm => hmoves m hm _, hsettled, htriggered, hlast,
    ⟨_, hresult₂, PassStatus.noConfusion, PassStatus.noConfusion⟩, howns, huri, ?_⟩
  obtain ⟨o, -, -, -, -, -, hresult, -, -, -, -, -, -, -, -, hstands⟩ := howns
  rw [hresult₁] at hresult
  obtain rfl := Except.ok.inj (Option.some.inj hresult)
  simpa only [PassRecord.uri, huri] using hstands

theorem lastTriggerWins_of_le_one {workers : Nat} (hworkers : workers ≤ 1) :
    LastTriggerWins workers := by
  intro o uri moves hmoves _ i r hlast hended
  obtain ⟨hget, huri, hpooled, hafter⟩ := hlast
  have htriggered := onlyTriggered_run o workers uri moves hmoves
  refine ownsLastSet_of_greatest o workers uri moves hmoves hget huri (fun j q hq hquri => ?_)
    hended
  have hpooled' := htriggered.pooled q (List.mem_of_getElem? hq) hquri
  rcases Nat.lt_trichotomy j i with hlt | rfl | hgt
  · obtain ⟨x, hresult, -⟩ := hended
    exact Nat.le_of_lt ((sequential_run o hworkers moves).ordered j i q r hlt hq hget hpooled'
      hpooled (hquri.trans huri.symm) (ne_queued_of_ended (by rw [hresult]; rfl)))
  · obtain rfl := Option.some.inj (hq.symm.trans hget)
    exact Nat.le_refl _
  · exact absurd hquri (hafter j q hgt hq hpooled')

theorem not_lastTriggerWins_of_two_le {workers : Nat} (hworkers : 2 ≤ workers) :
    ¬ LastTriggerWins workers := by
  intro hwins
  let d : Document := { uri := "" }
  obtain ⟨moves, r₁, r₂, hmoves, hsettled, -, hlast, hended, howns, huri, -⟩ :=
    first_can_own_last_set hworkers (rfl : d.uri = d.uri) Report.reports_parse_empty
      Report.reports_parse_empty
  have howns' := hwins {} _ moves hmoves hsettled 1 r₂ hlast hended
  exact absurd (howns.unique _ _ _ howns' (huri.trans hlast.2.1.symm)) (by decide)

/-- **The last trigger wins with one worker, and only then.** The pool takes passes up in
the order of their triggers. If it has one worker, the pass of the last trigger owns the
last set of its document; if it has more, there are runs in which it does not. With any
number of workers, the pass of a document that begins last owns its last set; so whatever
is triggered and reported, two workers can leave standing what was triggered first. -/
theorem last_trigger_wins_iff_one_worker (workers : Nat) :
    (LastTriggerWins workers ↔ workers ≤ 1) ∧
    (∀ o moves, ((start o workers).run moves).scheduled = (start o workers).triggered moves) ∧
    (∀ o uri moves, (∀ m ∈ moves, ¬ m.Disturbs uri) → ∀ (i : Nat) (r : PassRecord),
      ((start o workers).run moves).passes[i]? = some r → r.uri = uri →
      (∀ (j : Nat) (q : PassRecord), ((start o workers).run moves).passes[j]? = some q →
        q.uri = uri → q.pass.token ≤ r.pass.token) →
      EndedWell r → OwnsLastSet ((start o workers).run moves) moves i r) ∧
    (2 ≤ workers → ∀ d₁ d₂ : Document, d₁.uri = d₂.uri →
      ∀ x y xs ys, (Report.parse x).reports = .ok xs → (Report.parse y).reports = .ok ys →
      ∃ moves r₁ r₂, (∀ m ∈ moves, ¬ m.Disturbs d₂.uri) ∧
        ((start {} workers).run moves).Settled ∧
        (start {} workers).triggered moves = [d₁, d₂] ∧
        IsLastTriggered ((start {} workers).run moves) d₂.uri 1 r₂ ∧ EndedWell r₂ ∧
        OwnsLastSet ((start {} workers).run moves) moves 0 r₁ ∧ r₁.uri = d₂.uri ∧
        ((start {} workers).run moves).board.history.current? d₂.uri =
          some (Diagnostic.ofFindings d₂.uri true (d₁.findings xs))) := by
  refine ⟨⟨fun hwins => ?_, lastTriggerWins_of_le_one⟩, ?_, ?_, ?_⟩
  · refine Nat.le_of_not_lt fun hmany => ?_
    exact not_lastTriggerWins_of_two_le hmany hwins
  · intro o moves
    rw [scheduled_run, scheduled_start, List.nil_append]
  · intro o uri moves hmoves i r hget huri hgreatest hended
    exact ownsLastSet_of_greatest o workers uri moves hmoves hget huri hgreatest hended
  · intro hworkers d₁ d₂ huri x y xs ys hx hy
    exact first_can_own_last_set hworkers huri hx hy

end LintRelay.Session
