import LintRelay.Proofs.Validation.Tokens
import LintRelay.Validation.Alone

/-!
# Passes that nothing disturbs

While all else rests, every pass can be brought to its end, and a pass that has not
begun can be brought to publish what the linter reports, whatever happened before it.
So a session can always go on until all its passes have ended, and then with any pass
that waits in the queue.
-/

namespace LintRelay.Pass

variable (ctx : PassContext)

/-- What an action makes of a pass and of what it shares, with a sink that refuses
nothing. -/
def after (x : Shared × Pass) (a : PassAction) : Shared × Pass :=
  ((x.2.act ctx .keeping x.1 a).shared, (x.2.act ctx .keeping x.1 a).pass)

/-- Some actions, with nothing in between, lead from here to there. -/
def Leads (x y : Shared × Pass) : Prop :=
  ∃ actions : List PassAction, actions.foldl (after ctx) x = y

variable {ctx}

theorem Leads.refl (x : Shared × Pass) : Leads ctx x x :=
  ⟨[], rfl⟩

theorem Leads.trans {x y z : Shared × Pass} (h : Leads ctx x y) (h' : Leads ctx y z) :
    Leads ctx x z := by
  obtain ⟨actions, rfl⟩ := h
  obtain ⟨actions', rfl⟩ := h'
  exact ⟨actions ++ actions', List.foldl_append⟩

theorem Leads.of_act {sh : Shared} {p : Pass} {change : Change} (a : PassAction)
    (h : p.act ctx .keeping sh a = change) : Leads ctx (sh, p) (change.shared, change.pass) :=
  ⟨[a], by rw [← h]; rfl⟩

/-! ## Every pass can be brought to its end -/

/-- The action that brings a pass nearer to its end: its own step, or an answer that
breaks it off. -/
def breakingOff : Point → PassAction
  | .dozing | .reading _ | .enriching _ => .interrupted default
  | .linting _ => .linted (.error (.unexpected default))
  | _ => .proceed

theorem act_breakingOff (sh : Shared) (p : Pass) (h : p.result? = none) :
    (p.act ctx .keeping sh (breakingOff p.point)).pass.point.distance.1 < p.point.distance.1 ∧
      (p.act ctx .keeping sh (breakingOff p.point)).shared.settings = sh.settings := by
  cases hpoint : p.point with
  | ended r => simp [result?, hpoint] at h
  | begun | woken | failed =>
      simp only [breakingOff, act, proceed, hpoint]
      split <;> simp [stay, supersededChange, move, Point.distance]
  | settled | linted | parsed =>
      simp only [breakingOff, act, proceed, hpoint, enter]
      split <;> simp [supersededChange, move, Point.distance]
  | parsing =>
      simp only [breakingOff, act, proceed, hpoint, read]
      split <;> simp [move, Point.distance]
  | publishing | clearing =>
      simp only [breakingOff, act, proceed, hpoint, publishAs]
      split <;> simp [supersededChange, move, Point.distance]
  | _ => simp [breakingOff, act, proceed, hpoint, stay, move, Point.distance]

/-- **Every pass can be brought to its end**, whatever it shares with others, and
without the settings being touched. -/
theorem leads_to_end (sh : Shared) (p : Pass) :
    ∃ sh' p', Leads ctx (sh, p) (sh', p') ∧ p'.result?.isSome ∧ sh'.settings = sh.settings := by
  induction hn : p.point.distance.1 using Nat.strongRecOn generalizing sh p with
  | ind n ih =>
    subst hn
    cases hresult : p.result? with
    | some r => exact ⟨sh, p, .refl _, by rw [hresult]; rfl, rfl⟩
    | none =>
        obtain ⟨hnearer, hsettings⟩ := act_breakingOff sh p hresult
        obtain ⟨sh', p', hleads, hended, hsame⟩ := ih _ hnearer _ _ rfl
        exact ⟨sh', p', (Leads.of_act _ rfl).trans hleads, hended, hsame.trans hsettings⟩

/-! ## A pass that has not begun can publish -/

/-- A pass with the current token can get to a point. -/
def Gets (ctx : PassContext) (sh : Shared) (p : Pass) (q : Point) : Prop :=
  ∃ sh' : Shared, sh'.board.generation = sh.board.generation ∧
    sh'.settings.hasProvider = sh.settings.hasProvider ∧ Leads ctx (sh, p) (sh', p.move q)

theorem Gets.of_act {sh : Shared} {p : Pass} {q : Point} {change : Change} (a : PassAction)
    (h : p.act ctx .keeping sh a = change) (hpass : change.pass = p.move q)
    (hgeneration : change.shared.board.generation = sh.board.generation)
    (hsettings : change.shared.settings = sh.settings) : Gets ctx sh p q :=
  ⟨change.shared, hgeneration, by rw [hsettings], hpass ▸ .of_act a h⟩

theorem Gets.trans {sh : Shared} {p : Pass} {q q' : Point} (h : Gets ctx sh p q)
    (h' : ∀ sh' : Shared, sh'.board.generation = sh.board.generation →
      Gets ctx sh' (p.move q) q') : Gets ctx sh p q' := by
  obtain ⟨sh₁, hgeneration, hprovider, hleads⟩ := h
  obtain ⟨sh₂, hgeneration', hprovider', hleads'⟩ := h' sh₁ hgeneration
  exact ⟨sh₂, hgeneration'.trans hgeneration, hprovider'.trans hprovider, hleads.trans hleads'⟩

section

variable {sh : Shared} {p : Pass}

theorem gets_of_enter {s : ValidationStage} {q : Point}
    (hact : p.act ctx .keeping sh .proceed = enter sh p s q)
    (hcurrent : sh.board.generation p.document.uri = p.token) : Gets ctx sh p q :=
  .of_act .proceed (hact.trans (enter_of_current hcurrent s q)) rfl rfl rfl

theorem gets_of_publishAs {ds : List Diagnostic} {o : PassOutcome} {log : List LogRecord}
    (hact : p.act ctx .keeping sh .proceed = publishAs .keeping sh p ds o log)
    (hcurrent : sh.board.generation p.document.uri = p.token) :
    Gets ctx sh p (.leaving (.ok o)) :=
  .of_act .proceed (hact.trans (publishAs_of_current hcurrent ds o log)) rfl
    (Board.generation_publish ..) rfl

/-- A pass sleeps before it reads settings if there is a delay. -/
theorem leads_to_reading (hpoint : p.point = .begun)
    (hcurrent : sh.board.generation p.document.uri = p.token) :
    Leads ctx (sh, p) (sh, p.move (.reading { key := p.document.uri })) := by
  by_cases hdelay : ctx.debounce.isPositive
  · have hdozes : p.act ctx .keeping sh .proceed = stay sh p .dozing := by
      simp only [act, proceed, hpoint, if_pos hdelay]
    have hwakes : (p.move .dozing).act ctx .keeping sh .wake = stay sh p .woken := rfl
    have hreads : (p.move .woken).act ctx .keeping sh .proceed =
        stay sh p (.reading { key := p.document.uri }) := by
      simp only [act, proceed, move, (Board.isCurrent_eq_true_iff ..).mpr hcurrent, if_true, stay]
    exact (Leads.of_act _ hdozes).trans ((Leads.of_act _ hwakes).trans (.of_act _ hreads))
  · have hreads : p.act ctx .keeping sh .proceed =
        stay sh p (.reading { key := p.document.uri }) := by
      simp only [act, proceed, hpoint, if_neg hdelay]
    exact .of_act _ hreads

/-- Without an entry for its key, a reader gets settings: at once, or by a fetch of its
own that the provider answers. -/
theorem gets_settled {key : String} (hpoint : p.point = .reading { key })
    (hfree : sh.settings.hasProvider = true → sh.settings.entry key = none) :
    ∃ s, Gets ctx sh p (.settled s) := by
  cases hprovider : sh.settings.hasProvider with
  | false =>
      refine ⟨sh.settings.global, sh, rfl, rfl, [.proceed, .proceed], ?_⟩
      simp [after, act, proceed, hpoint, SettingsRead.step, hprovider, stay, move]
  | true =>
      let filled := (sh.settings.open' key).setFetch sh.settings.tickets (.ready default)
      refine ⟨default, ⟨sh.board, filled⟩, rfl, rfl,
        [.proceed, .proceed, .fetched (.ok default), .proceed, .proceed, .proceed], ?_⟩
      simp [after, act, proceed, hpoint, SettingsRead.step, SettingsRead.fetched, hprovider,
        hfree hprovider, SettingsCache.setFetch, stay, move, filled]

theorem isOver_start {enabled : Bool} {findings : List Finding}
    (hquiet : enabled = false ∨ findings = []) (text : String) (limit : Int) :
    (Enrichment.start enabled findings text limit).isOver = true ∧
      (Enrichment.start enabled findings text limit).collected = .ok ⟨findings, 0, [], []⟩ := by
  have hbudget : Enrichment.budget enabled limit findings.length = 0 := by
    rcases hquiet with rfl | rfl
    · rfl
    · simp [Enrichment.budget]
  simp [Enrichment.start, Enrichment.isOver, Enrichment.collected, Enrichment.result,
    Enrichment.logOf, hbudget]

/-- With its settings, a pass publishes what the linter reports. -/
theorem gets_published {s : DocumentSettings} (hpoint : p.point = .settled s)
    (hcurrent : sh.board.generation p.document.uri = p.token) {output : String}
    {reports : List FileReport} (hparse : (Report.parse output).reports = .ok reports)
    (hquiet : ctx.suggestions = false ∨ p.document.findings reports = []) :
    Gets ctx sh p (.ended (.ok ⟨p.document.uri, .published, Diagnostic.ofFindings p.document.uri
      ctx.relatedInformation (p.document.findings reports), none⟩)) := by
  have hlinting : Gets ctx sh p (.linting s) :=
    gets_of_enter (s := .linting) (by simp only [act, proceed, hpoint]) hcurrent
  refine hlinting.trans fun sh₁ h₁ => ?_
  have hlinted : Gets ctx sh₁ (p.move (.linting s)) (.linted s output) :=
    .of_act (.linted (.ok output)) rfl rfl rfl rfl
  refine hlinted.trans fun sh₂ h₂ => ?_
  have hcurrent₂ : sh₂.board.generation p.document.uri = p.token := by
    rw [h₂, h₁, hcurrent]
  have hparsing : Gets ctx sh₂ (p.move (.linted s output)) (.parsing s output) :=
    gets_of_enter rfl hcurrent₂
  refine hparsing.trans fun sh₃ h₃ => ?_
  have hread : (p.move (.parsing s output)).act ctx .keeping sh₃ .proceed =
      ⟨sh₃, p.move (.parsed s (p.document.findings reports)),
        (Report.parse output).notices.map Report.Notice.log⟩ := by
    simp only [act, proceed, move, read, hparse]
  have hparsed : Gets ctx sh₃ (p.move (.parsing s output))
      (.parsed s (p.document.findings reports)) := .of_act .proceed hread rfl rfl rfl
  refine hparsed.trans fun sh₄ h₄ => ?_
  have hcurrent₄ : sh₄.board.generation p.document.uri = p.token := by
    rw [h₄, h₃, hcurrent₂]
  let e := Enrichment.start ctx.suggestions (p.document.findings reports) p.document.text
    s.maxProblems
  have henriching : Gets ctx sh₄ (p.move (.parsed s (p.document.findings reports)))
      (.enriching e) := gets_of_enter rfl hcurrent₄
  refine henriching.trans fun sh₅ h₅ => ?_
  obtain ⟨hover, hcollected⟩ : e.isOver = true ∧
      e.collected = .ok ⟨p.document.findings reports, 0, [], []⟩ := isOver_start hquiet _ _
  let ds := Diagnostic.ofFindings p.document.uri ctx.relatedInformation
    (p.document.findings reports)
  have hcollect : (p.move (.enriching e)).act ctx .keeping sh₅ .proceed =
      ⟨sh₅, p.move (.publishing ds), []⟩ := by
    simp only [act, proceed, move, collect, hover, hcollected, if_true, ds]
  have hpublishing : Gets ctx sh₅ (p.move (.enriching e)) (.publishing ds) :=
    .of_act .proceed hcollect rfl rfl rfl
  refine hpublishing.trans fun sh₆ h₆ => ?_
  have hcurrent₆ : sh₆.board.generation p.document.uri = p.token := by
    rw [h₆, h₅, hcurrent₄]
  have hleaving : Gets ctx sh₆ (p.move (.publishing ds))
      (.leaving (.ok ⟨p.document.uri, .published, ds, none⟩)) := gets_of_publishAs rfl hcurrent₆
  refine hleaving.trans fun sh₇ _ => ?_
  exact .of_act .proceed rfl rfl (Board.generation_finish ..) rfl

end

/-- **A pass that has not begun can publish** what the linter reports, whatever happened
before; only a fetch of settings that another reader has not ended can keep it back. -/
theorem leads_to_published (sh : Shared) (p : Pass) (hqueued : p.point = .queued)
    (hfree : sh.settings.hasProvider = true → sh.settings.entry p.document.uri = none)
    {output : String} {reports : List FileReport}
    (hparse : (Report.parse output).reports = .ok reports)
    (hquiet : ctx.suggestions = false ∨ p.document.findings reports = []) :
    ∃ sh' p', Leads ctx (sh, p) (sh', p') ∧ p'.document = p.document ∧
      p'.point = .ended (.ok ⟨p.document.uri, .published, Diagnostic.ofFindings p.document.uri
        ctx.relatedInformation (p.document.findings reports), none⟩) ∧
      sh'.settings.hasProvider = sh.settings.hasProvider := by
  let sh₀ : Shared := { sh with board := sh.board.supersede p.document.uri }
  let p₀ : Pass :=
    { p with token := sh.board.generation p.document.uri + 1, point := .begun }
  have hbegins : p.act ctx .keeping sh .proceed = ⟨sh₀, p₀, []⟩ := by
    simp only [act, proceed, hqueued, Board.begin', sh₀, p₀]
  have hcurrent : sh₀.board.generation p.document.uri = p₀.token := by
    simp [sh₀, p₀, Board.generation_supersede]
  let p₁ := p₀.move (.reading { key := p.document.uri })
  obtain ⟨s, sh₂, hgeneration, hprovider, hsettled⟩ : ∃ s, Gets ctx sh₀ p₁ (.settled s) :=
    gets_settled rfl hfree
  obtain ⟨sh₃, -, hprovider', hpublished⟩ : Gets ctx sh₂ (p₁.move (.settled s)) _ :=
    gets_published rfl (by rw [hgeneration]; exact hcurrent) hparse hquiet
  refine ⟨sh₃, p₀.move (.ended _), ?_, rfl, rfl, hprovider'.trans hprovider⟩
  exact (Leads.of_act _ hbegins).trans ((leads_to_reading rfl hcurrent).trans
    (hsettled.trans hpublished))

end LintRelay.Pass

namespace LintRelay.Session

/-! ## Sessions that go on -/

theorem run_alone {s : Session} {i : Nat} {r : PassRecord} (hget : s.passes[i]? = some r)
    {sh : Shared} {p : Pass}
    (h : Pass.Leads s.orchestrator.context (s.orchestrator.shared, r.pass) (sh, p)) :
    ∃ moves r', (∀ m ∈ moves, ∃ a, m = .act i .keeping a) ∧
      (s.run moves).orchestrator = { s.orchestrator with shared := sh } ∧
      (s.run moves).passes = s.passes.set i r' ∧ r'.pass = p ∧ r'.pooled = r.pooled := by
  obtain ⟨actions, h⟩ := h
  induction actions generalizing s r with
  | nil =>
      obtain ⟨rfl, rfl⟩ := Prod.mk.inj h
      refine ⟨[], r, by simp, rfl, List.ext_getElem? fun j => ?_, rfl, rfl⟩
      rw [getElem?_set_of_getElem? hget]
      split
      next hj => rw [hj, run_nil, hget]
      next => rfl
  | cons a actions ih =>
      let r₁ : PassRecord := { r with
        pass := (r.pass.act s.orchestrator.context .keeping s.orchestrator.shared a).pass
        stages := r.stages ++ r.pass.stores s.orchestrator.context s.orchestrator.shared a }
      have hpasses : (s.act i .keeping a).passes = s.passes.set i r₁ := by
        simp only [act, hget]
        rfl
      have horchestrator : (s.act i .keeping a).orchestrator = { s.orchestrator with shared :=
          (r.pass.act s.orchestrator.context .keeping s.orchestrator.shared a).shared } := by
        simp only [act, hget]
        rfl
      have hget₁ : (s.act i .keeping a).passes[i]? = some r₁ := by
        rw [hpasses, getElem?_set_of_getElem? hget, if_pos rfl]
      obtain ⟨moves, r', hmoves, horchestrator', hpasses', hpass, hpooled⟩ :=
        ih hget₁ (by rw [horchestrator]; exact h)
      refine ⟨.act i .keeping a :: moves, r', ?_, ?_, ?_, hpass, hpooled⟩
      · intro m hm
        rcases List.mem_cons.mp hm with rfl | hm
        · exact ⟨a, rfl⟩
        · exact hmoves m hm
      · rw [run_cons, step, horchestrator', horchestrator]
      · rw [run_cons, step, hpasses', hpasses, List.set_set]

/-- A pass that is taken up and has not begun can publish what the linter reports, unless
another reader holds the settings of its document back. -/
theorem can_publish {s : Session} {i : Nat} {r : PassRecord} (hget : s.passes[i]? = some r)
    (hqueued : r.pass.point = .queued)
    (hfree : s.orchestrator.shared.settings.hasProvider = true →
      s.orchestrator.shared.settings.entry r.uri = none)
    {output : String} {reports : List FileReport}
    (hparse : (Report.parse output).reports = .ok reports)
    (hquiet : s.orchestrator.context.suggestions = false ∨
      r.pass.document.findings reports = []) :
    ∃ moves sh r', (∀ m ∈ moves, ∃ a, m = .act i .keeping a) ∧
      (s.run moves).orchestrator = { s.orchestrator with shared := sh } ∧
      sh.settings.hasProvider = s.orchestrator.shared.settings.hasProvider ∧
      (s.run moves).passes = s.passes.set i r' ∧ r'.pooled = r.pooled ∧
      r'.pass.document = r.pass.document ∧
      r'.pass.point = .ended (.ok ⟨r.uri, .published, Diagnostic.ofFindings r.uri
        s.orchestrator.context.relatedInformation (r.pass.document.findings reports), none⟩) := by
  obtain ⟨sh, p, hleads, hdocument, hpoint, hprovider⟩ :=
    Pass.leads_to_published _ r.pass hqueued hfree hparse hquiet
  obtain ⟨moves, r', hmoves, horchestrator, hpasses, rfl, hpooled⟩ := run_alone hget hleads
  exact ⟨moves, sh, r', hmoves, horchestrator, hprovider, hpasses, hpooled, hdocument, hpoint⟩

/-- What stays of a session while its passes are brought to their ends. -/
structure Calms (s t : Session) : Prop where
  queue : t.orchestrator.queue = s.orchestrator.queue
  settings : t.orchestrator.shared.settings = s.orchestrator.shared.settings
  length : t.passes.length = s.passes.length

/-- All passes that were taken up can be brought to their ends. -/
theorem can_calm (s : Session) :
    ∃ moves, s.Calms (s.run moves) ∧ ∀ r ∈ (s.run moves).passes, r.pass.result?.isSome := by
  -- one pass after another, in the order in which they were taken up
  have hfirst : ∀ n ≤ s.passes.length, ∃ moves, s.Calms (s.run moves) ∧
      ∀ i r, i < n → (s.run moves).passes[i]? = some r → r.pass.result?.isSome := by
    intro n
    induction n with
    | zero => exact fun _ => ⟨[], ⟨rfl, rfl, rfl⟩, by simp⟩
    | succ n ih =>
        intro hn
        obtain ⟨moves, hcalms, hended⟩ := ih (Nat.le_of_succ_le hn)
        have hget := List.getElem?_eq_getElem (l := (s.run moves).passes) (i := n)
          (by rw [hcalms.length]; exact hn)
        obtain ⟨sh, p, hleads, hresult, hsettings⟩ := Pass.leads_to_end _ _
        obtain ⟨more, r', -, horchestrator, hpasses, rfl, -⟩ := run_alone hget hleads
        refine ⟨moves ++ more, ⟨?_, ?_, ?_⟩, ?_⟩
        · rw [run_append, horchestrator, hcalms.queue]
        · rw [run_append, horchestrator, hsettings, hcalms.settings]
        · rw [run_append, hpasses, List.length_set, hcalms.length]
        · intro i r hi hr
          rw [run_append, hpasses] at hr
          rcases getElem?_set_cases hget hr with ⟨-, rfl⟩ | ⟨hne, hr⟩
          · exact hresult
          · exact hended i r (by omega) hr
  obtain ⟨moves, hcalms, hended⟩ := hfirst s.passes.length (Nat.le_refl _)
  refine ⟨moves, hcalms, fun r hr => ?_⟩
  obtain ⟨i, hi, rfl⟩ := List.getElem_of_mem hr
  exact hended i _ (by rw [← hcalms.length]; exact hi) (List.getElem?_eq_getElem hi)

/-- When all passes have ended, a worker is free for the next one. -/
theorem take_of_calm {s : Session} (hworkers : 0 < s.workers) {p : Pass} {queue : List Pass}
    (hqueue : s.orchestrator.queue = p :: queue)
    (hended : ∀ r ∈ s.passes, r.pass.result?.isSome) :
    s.take = { s with
      orchestrator := { s.orchestrator with queue }
      passes := s.passes ++ [⟨p, true, []⟩] } := by
  have hidle : s.busy = 0 := by
    refine List.countP_eq_zero.mpr fun r hr hbusy => ?_
    have h := hended r hr
    simp [PassRecord.isBusy] at hbusy
    rw [hbusy.2] at h
    cases h
  simp only [take, hqueue, hidle, if_pos hworkers]

/-- With a worker, a session can go on until any pass of its queue is the next. -/
theorem can_come_to {s : Session} (hs : s.QueueWaits) (hworkers : 0 < s.workers)
    (front rest : List Pass) (hqueue : s.orchestrator.queue = front ++ rest) :
    ∃ moves, (s.run moves).orchestrator.queue = rest ∧
      (s.run moves).orchestrator.shared.settings = s.orchestrator.shared.settings ∧
      (s.run moves).passes.length = s.passes.length + front.length ∧
      ∀ r ∈ (s.run moves).passes, r.pass.result?.isSome := by
  induction front generalizing s with
  | nil =>
      obtain ⟨moves, hcalms, hended⟩ := s.can_calm
      exact ⟨moves, hcalms.queue.trans hqueue, hcalms.settings, hcalms.length, hended⟩
  | cons p front ih =>
      obtain ⟨moves, hcalms, hended⟩ := s.can_calm
      obtain ⟨hwaits, hkept, -⟩ := run_keeps hs moves
      have hqueue₁ : (s.run moves).orchestrator.queue = p :: (front ++ rest) :=
        hcalms.queue.trans hqueue
      have htake := take_of_calm (by rw [hkept]; exact hworkers) hqueue₁ hended
      have hsteps := steps_take hwaits .take
      obtain ⟨more, hqueue', hsettings, hlength, hended'⟩ :=
        ih hsteps.waits (by rw [hsteps.workers, hkept]; exact hworkers) (by rw [htake])
      refine ⟨moves ++ .take :: more, ?_⟩
      rw [run_append, run_cons]
      refine ⟨hqueue', hsettings.trans ?_, hlength.trans ?_, hended'⟩
      · rw [htake, hcalms.settings]
      · rw [htake, List.length_append, hcalms.length, List.length_singleton, List.length_cons]
        omega

/-- With a worker, every pass of the queue can be taken up, in its turn. -/
theorem can_take_up {s : Session} (hs : s.QueueWaits) (hworkers : 0 < s.workers) {k : Nat}
    {p : Pass} (hp : s.orchestrator.queue[k]? = some p) :
    ∃ moves, (s.run moves).passes[s.passes.length + k]? = some ⟨p, true, []⟩ ∧
      (s.run moves).orchestrator.shared.settings = s.orchestrator.shared.settings := by
  obtain ⟨hk, rfl⟩ := List.getElem?_eq_some_iff.mp hp
  obtain ⟨moves, hqueue, hsettings, hlength, hended⟩ := can_come_to hs hworkers
    (s.orchestrator.queue.take k) (s.orchestrator.queue.drop k) (List.take_append_drop ..).symm
  rw [List.drop_eq_getElem_cons hk] at hqueue
  rw [List.length_take_of_le (Nat.le_of_lt hk)] at hlength
  have htake := take_of_calm (by rwa [(run_keeps hs moves).2.1]) hqueue hended
  have hrun : s.run (moves ++ [.take]) = (s.run moves).take := run_append ..
  refine ⟨moves ++ [.take], ?_, ?_⟩
  · rw [hrun, htake, ← hlength]
    exact List.getElem?_concat_length
  · rw [hrun, htake, ← hsettings]

end LintRelay.Session
