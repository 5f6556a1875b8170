import Mathlib.Logic.Relation
import LintRelay.Proofs.Report.Scanning
import LintRelay.Proofs.Report.Written

/-!
# Layout does not matter

A report says the same however its lines are laid out: blanks around a line, lines of blanks
alone, and whether a key stands behind other text or opens a line of its own change none of
its tokens. Where a line may be cut is said without a search: where a key stands that counts,
its list dash included.
-/

namespace LintRelay.Report

open LintRelay.Text

/-! ## Where keys begin -/

/-- A list dash and blanks at the end of a text, which wait for a key; `fresh` says whether a
key may start where the text does. -/
def OpenDash (fresh : Bool) (cs : List Char) : Prop :=
  ∃ pre bs, bs ≠ [] ∧ Blanks bs ∧ cs = pre ++ '-' :: bs ∧ EndsFresh fresh pre

/-- A key of the line `head ++ tail` begins where `tail` does: one that counts stands there, at
the start of the line or behind a blank, and the list dash that it may have is not cut off. -/
def KeyBegins (head tail : List Char) : Prop :=
  EndsFresh true head ∧ ∃ m dashed rest, KeyAt m dashed tail rest ∧
    (m ∈ inlineKeys ∨ dashed = true ∧ m ∈ itemKeys ∨ m = .problems ∧ Blanks head) ∧
    (dashed = false → ¬ OpenDash true head)

/-- One change to the layout of lines: blanks around one of them, a line of blanks, or a line
that is cut in two where a key of it begins. -/
inductive Relaid : List String → List String → Prop where
  | blanks (before after : List String) (a line b : String) (ha : Blanks a.toList)
      (hb : Blanks b.toList) :
      Relaid (before ++ line :: after) (before ++ (a ++ line ++ b) :: after)
  | blankLine (before after : List String) (line : String) (h : Blanks line.toList) :
      Relaid (before ++ after) (before ++ line :: after)
  | cut (before after : List String) (head tail : String) (h : KeyBegins head.toList tail.toList) :
      Relaid (before ++ (head ++ tail) :: after) (before ++ head :: tail :: after)

/-! ## Ends of texts -/

theorem endsFresh_append {fresh : Bool} {a b : List Char} (hb : b ≠ []) :
    EndsFresh fresh (a ++ b) ↔ EndsFresh false b := by
  obtain ⟨c, hc⟩ := Option.ne_none_iff_exists'.mp (mt List.getLast?_eq_none_iff.mp hb)
  rw [EndsFresh, EndsFresh, List.getLast?_append_of_ne_nil _ hb, hc]

theorem endsFresh_of_blanks {a : List Char} (ha : Blanks a) : EndsFresh true a :=
  endsFresh_true_iff.mpr fun c hc => ha c (List.mem_of_mem_getLast? hc)

theorem endsFresh_blanks_append {a cs : List Char} (ha : Blanks a) :
    EndsFresh true (a ++ cs) ↔ EndsFresh true cs := by
  cases cs with
  | nil =>
      rw [List.append_nil]
      exact iff_of_true (endsFresh_of_blanks ha) rfl
  | cons c cs =>
      have hcs : EndsFresh true ([] ++ c :: cs) ↔ EndsFresh false (c :: cs) :=
        endsFresh_append (by simp)
      rw [endsFresh_append (by simp), ← hcs, List.nil_append]

/-- Blanks before a text leave no dash open that is not open without them. -/
theorem openDash_blanks_append {a cs : List Char} (ha : Blanks a) :
    OpenDash true (a ++ cs) ↔ OpenDash true cs := by
  constructor
  · rintro ⟨pre, bs, hne, hbs, hcs, hpre⟩
    rcases List.append_eq_append_iff.mp hcs with ⟨p, hp, htail⟩ | ⟨p, hp, htail⟩
    · subst hp
      exact ⟨p, bs, hne, hbs, htail, (endsFresh_blanks_append ha).mp hpre⟩
    · cases p with
      | nil => exact ⟨[], bs, hne, hbs, htail.symm, rfl⟩
      | cons c p =>
          -- the dash would be one of the blanks
          obtain ⟨rfl, -⟩ := List.cons.inj htail
          exact absurd (ha '-' (by simp [hp])) (by decide)
  · rintro ⟨pre, bs, hne, hbs, rfl, hpre⟩
    exact ⟨a ++ pre, bs, hne, hbs, by simp, (endsFresh_blanks_append ha).mpr hpre⟩

/-! ## What a key is made of -/

/-- What stands before the colon of a key: its name, behind a dash and blanks if it has one. -/
def BeforeColon (m : Marker) (dashed : Bool) (x : List Char) : Prop :=
  if dashed then ∃ bs, bs ≠ [] ∧ Blanks bs ∧ x = '-' :: (bs ++ m.name.toList)
  else x = m.name.toList

theorem keyAt_iff {m : Marker} {dashed : Bool} {cs rest : List Char} :
    KeyAt m dashed cs rest ↔ (∀ c ∈ rest.head?, isBlank c = true) ∧
      ∃ x, BeforeColon m dashed x ∧ cs = x ++ ':' :: rest := by
  rw [KeyAt]
  refine and_congr_right fun _ => ?_
  cases dashed with
  | false => simp [BeforeColon]
  | true => simp [BeforeColon, and_assoc]

theorem name_not_blank (m : Marker) : ∀ c ∈ m.name.toList, isBlank c = false := by
  have hall : (m.name.toList.all fun c => !isBlank c) = true := by
    cases m <;> decide
  simpa using hall

theorem BeforeColon.head {m : Marker} {dashed : Bool} {x : List Char}
    (h : BeforeColon m dashed x) : x ≠ [] ∧ ∀ c ∈ x.head?, isBlank c = false := by
  cases dashed with
  | false =>
      obtain rfl : x = m.name.toList := h
      exact ⟨name_ne_nil m, fun c hc => name_not_blank m c (List.mem_of_mem_head? hc)⟩
  | true =>
      obtain ⟨bs, _, _, rfl⟩ := h
      simp [isBlank]

theorem KeyAt.head {m : Marker} {dashed : Bool} {cs rest : List Char}
    (h : KeyAt m dashed cs rest) : cs ≠ [] ∧ ∀ c ∈ cs.head?, isBlank c = false := by
  obtain ⟨_, x, hx, rfl⟩ := keyAt_iff.mp h
  rw [List.head?_append_of_ne_nil _ hx.head.1]
  exact ⟨by simp, hx.head.2⟩

/-- What begins with a name has no dash before it. -/
theorem KeyAt.not_dashed {m n : Marker} {dashed : Bool} {rest more : List Char}
    (h : KeyAt m dashed (n.name.toList ++ more) rest) : dashed = false := by
  cases dashed with
  | false => rfl
  | true =>
      obtain ⟨-, bs, _, _, hdash⟩ := h
      have hhead : '-' ∈ (n.name.toList ++ more).head? := by
        rw [hdash]
        rfl
      rw [List.head?_append_of_ne_nil _ (name_ne_nil n)] at hhead
      exact absurd rfl (head_name n '-' hhead).1

/-- Blanks stand in a key only behind its dash, so a part of it that ends with one is that
dash with blanks. -/
theorem BeforeColon.cut {m : Marker} {dashed : Bool} {x y : List Char} (hx : x ≠ [])
    (hblank : EndsFresh false x) (h : BeforeColon m dashed (x ++ y)) :
    ∃ a b, a ≠ [] ∧ Blanks a ∧ Blanks b ∧ x = '-' :: a ∧ y = b ++ m.name.toList := by
  have hlast : ∃ c ∈ x, isBlank c = true := by
    obtain ⟨c, hc⟩ := Option.ne_none_iff_exists'.mp (mt List.getLast?_eq_none_iff.mp hx)
    rw [EndsFresh, hc] at hblank
    exact ⟨c, List.mem_of_mem_getLast? hc, hblank⟩
  cases dashed with
  | false =>
      have hname : x ++ y = m.name.toList := h
      obtain ⟨c, hc, hblank⟩ := hlast
      have hplain := name_not_blank m c (hname ▸ List.mem_append_left _ hc)
      rw [hblank] at hplain
      cases hplain
  | true =>
      obtain ⟨bs, hne, hbs, hdash⟩ := h
      obtain ⟨d, a, rfl⟩ := List.exists_cons_of_ne_nil hx
      obtain ⟨rfl, hrest⟩ := List.cons.inj hdash
      have ha : a ≠ [] := by
        rintro rfl
        have hdash : isBlank '-' ≠ true := by decide
        exact hdash hblank
      have hends : EndsFresh false a := (endsFresh_append (a := ['-']) ha).mp hblank
      rcases List.append_eq_append_iff.mp hrest with ⟨b, rfl, rfl⟩ | ⟨z, rfl, hz⟩
      · exact ⟨a, b, ha, fun c hc => hbs c (List.mem_append_left _ hc),
          fun c hc => hbs c (List.mem_append_right _ hc), rfl, rfl⟩
      · -- the cut is in the name, unless it is right before it
        cases z with
        | nil =>
            exact ⟨bs ++ [], [], ha, by simpa using hbs, Blanks.nil, rfl, by simpa using hz.symm⟩
        | cons c z =>
            rw [endsFresh_append (by simp)] at hends
            obtain ⟨d, hd⟩ : ∃ d, (c :: z).getLast? = some d :=
              Option.ne_none_iff_exists'.mp (by simp)
            rw [EndsFresh, hd] at hends
            have hplain := name_not_blank m d
              (hz ▸ List.mem_append_left _ (List.mem_of_mem_getLast? hd))
            rw [hends] at hplain
            cases hplain

/-- Behind a colon it does not matter what is before it. -/
theorem endsFresh_behind_colon {fresh : Bool} (x rest : List Char) :
    EndsFresh fresh (x ++ ':' :: rest) ↔ EndsFresh false rest := by
  cases rest with
  | nil =>
      have hcolon : ¬ EndsFresh false [':'] := by
        have hblank : isBlank ':' ≠ true := by decide
        exact hblank
      rw [endsFresh_append (by simp)]
      exact iff_of_false hcolon Bool.noConfusion
  | cons c rest => rw [List.append_cons, endsFresh_append (by simp)]

/-! ## A text behind another -/

/-- No key that starts in `cs` goes on into `more`. -/
def EndsKeys (fresh : Bool) (cs more : List Char) : Prop :=
  ∀ pre suf, cs = pre ++ suf → suf ≠ [] → EndsFresh fresh pre →
    ∀ first m rest, keyAt? first (suf ++ more) = some (m, rest) →
      ∃ r, keyAt? first suf = some (m, r)

/-- A key that starts in a text ends there, or has its colon in the text behind. -/
theorem keyAt?_append_cases {first : Bool} {cs more rest : List Char} {m : Marker}
    (h : keyAt? first (cs ++ more) = some (m, rest)) :
    (∃ r, keyAt? first cs = some (m, r)) ∨
      ∃ dashed y, BeforeColon m dashed (cs ++ y) ∧ more = y ++ ':' :: rest := by
  obtain ⟨hm, dashed, hcounts, hat⟩ := keyAt?_eq_some_iff.mp h
  obtain ⟨hblank, x, hx, hcs⟩ := keyAt_iff.mp hat
  rcases List.append_eq_append_iff.mp hcs with ⟨y, rfl, hmore⟩ | ⟨y, rfl, hrest⟩
  · exact .inr ⟨dashed, y, hx, hmore⟩
  · cases y with
    | nil => exact .inr ⟨dashed, [], by simpa using hx, by simpa using hrest.symm⟩
    | cons c y =>
        obtain ⟨rfl, rfl⟩ := List.cons.inj hrest
        refine .inl ⟨y, keyAt?_eq_some_iff.mpr
          ⟨hm, dashed, hcounts, keyAt_iff.mpr ⟨?_, x, hx, rfl⟩⟩⟩
        exact fun c hc => hblank c (List.mem_head?_append_of_mem_head? hc)

theorem EndsKeys.of_cons {fresh : Bool} {c : Char} {cs more : List Char}
    (h : EndsKeys fresh (c :: cs) more) : EndsKeys (isBlank c) cs more := by
  intro pre suf hcs hne hpre
  exact h (c :: pre) suf (by rw [hcs]; rfl) hne hpre.cons

theorem EndsKeys.behind_colon {fresh : Bool} {x rest more : List Char}
    (h : EndsKeys fresh (x ++ ':' :: rest) more) : EndsKeys false rest more := by
  intro pre suf hrest hne hpre
  refine h (x ++ ':' :: pre) suf ?_ hne ((endsFresh_behind_colon x pre).mpr hpre)
  rw [hrest, List.append_assoc, List.cons_append]

/-- Where no key goes on from a text into another one, which opens with blanks and then keys,
the two are cut one after the other. -/
theorem cutAtKeys_append {first fresh : Bool} {cs more lead : List Char} {ts : List Token}
    (hlead : Blanks lead)
    (hfresh : more ≠ [] → EndsFresh fresh cs ∨ ∀ c ∈ more.head?, isBlank c = true)
    (hends : EndsKeys fresh cs more)
    (hmore : ∀ first' fresh', (EndsFresh fresh cs ↔ fresh' = true) →
      cutAtKeys first' fresh' more = (lead, ts)) :
    ∃ b, Blanks b ∧ cutAtKeys first fresh (cs ++ more) =
      ((cutAtKeys first fresh cs).1 ++ b, (cutAtKeys first fresh cs).2 ++ ts) := by
  induction first, fresh, cs using cutAtKeys_induction with
  | nil first fresh =>
      refine ⟨lead, hlead, ?_⟩
      rw [cutAtKeys_nil]
      exact hmore first fresh Iff.rfl
  | key first cs m rest hkey ih =>
      obtain ⟨-, dashed, -, hat⟩ := keyAt?_eq_some_iff.mp hkey
      obtain ⟨-, x, -, rfl⟩ := keyAt_iff.mp hat
      have hsame : EndsFresh true (x ++ ':' :: rest) ↔ EndsFresh false rest :=
        endsFresh_behind_colon x rest
      have hnext : keyAt? first (x ++ ':' :: rest ++ more) = some (m, rest ++ more) := by
        refine keyAt?_append hkey fun hnil c hc => ?_
        have hne : more ≠ [] := by
          rintro rfl
          cases hc
        rcases hfresh hne with h | h
        · rw [hsame, hnil] at h
          cases h
        · exact h c hc
      obtain ⟨b, hb, hcut⟩ := ih (fun hne => (hfresh hne).imp_left hsame.mp) hends.behind_colon
        fun first' fresh' h => hmore first' fresh' (hsame.trans h)
      have hvalue : trim ((cutAtKeys false false rest).1 ++ b) =
          trim (cutAtKeys false false rest).1 := trim_append_of_blanks Blanks.nil hb _
      refine ⟨[], Blanks.nil, ?_⟩
      rw [cutAtKeys_of_key hkey, cutAtKeys_of_key hnext, hcut]
      simp only [hvalue, List.append_nil, List.cons_append]
  | skip first fresh c cs hnone ih =>
      have hsame : EndsFresh fresh (c :: cs) ↔ EndsFresh (isBlank c) cs :=
        ⟨EndsFresh.of_cons, EndsFresh.cons⟩
      have hnext : fresh = true → keyAt? first (c :: (cs ++ more)) = none := by
        intro hf
        by_contra hsome
        obtain ⟨⟨m, rest⟩, hsome⟩ := Option.ne_none_iff_exists'.mp hsome
        obtain ⟨r, hr⟩ := hends [] (c :: cs) rfl (by simp) hf first m rest hsome
        rw [hnone hf] at hr
        cases hr
      obtain ⟨b, hb, hcut⟩ := ih (fun hne => (hfresh hne).imp_left hsame.mp) hends.of_cons
        fun first' fresh' h => hmore first' fresh' (hsame.trans h)
      refine ⟨b, hb, ?_⟩
      rw [List.cons_append, cutAtKeys_cons hnone, cutAtKeys_cons hnext, hcut]
      rfl

/-! ## Blanks at the end -/

theorem colon_not_mem_of_blanks {b : List Char} (hb : Blanks b) : ':' ∉ b :=
  fun h => absurd (hb ':' h) (by decide)

theorem keyless_of_blanks {first fresh : Bool} {b : List Char} (hb : Blanks b) :
    Keyless first fresh b := by
  induction b generalizing first fresh with
  | nil => trivial
  | cons c b ih =>
      refine ⟨fun _ => ?_, ih fun d hd => hb d (List.mem_cons_of_mem _ hd)⟩
      rw [keyAt?_eq_none_iff]
      exact fun m dashed rest _ _ hat => colon_not_mem_of_blanks hb hat.colon_mem

/-- A key has its colon before the blanks at the end. -/
theorem endsKeys_blanks {fresh : Bool} {cs b : List Char} (hb : Blanks b) :
    EndsKeys fresh cs b := by
  intro pre suf _ _ _ first m rest hkey
  rcases keyAt?_append_cases hkey with h | ⟨dashed, y, -, rfl⟩
  · exact h
  · exact absurd (by simp) (colon_not_mem_of_blanks hb)

/-- The tokens of a line, when only the blanks before it have been dropped. -/
theorem lineTokens_eq_trimStart (line : String) :
    lineTokens line =
      (if trim (cutAtKeys true true (trimStart line.toList)).1 = [] then []
        else [⟨.text, String.ofList (trim (cutAtKeys true true (trimStart line.toList)).1)⟩]) ++
      (cutAtKeys true true (trimStart line.toList)).2 := by
  obtain ⟨b, hb, hline, -⟩ := exists_blanks_trimEnd (trimStart line.toList)
  have hends : EndsKeys true (trim line.toList) b := endsKeys_blanks hb
  obtain ⟨b', hb', hcut⟩ := @cutAtKeys_append true true (trim line.toList) b b [] hb
    (fun _ => .inr fun c hc => hb c (List.mem_of_mem_head? hc)) hends
    fun first' fresh' _ => cutAtKeys_of_keyless (keyless_of_blanks hb)
  have hlead : trim ((cutAtKeys true true (trim line.toList)).1 ++ b') =
      trim (cutAtKeys true true (trim line.toList)).1 := trim_append_of_blanks Blanks.nil hb' _
  rw [lineTokens_eq, hline]
  change _ = (if trim (cutAtKeys true true (trim line.toList ++ b)).1 = [] then []
        else [⟨.text, String.ofList (trim (cutAtKeys true true (trim line.toList ++ b)).1)⟩]) ++
      (cutAtKeys true true (trim line.toList ++ b)).2
  rw [hcut, hlead, List.append_nil]

theorem lineTokens_of_blanks {line : String} (h : Blanks line.toList) : lineTokens line = [] := by
  have htrim : trim line.toList = trim "".toList := by
    simpa using trim_append_of_blanks h Blanks.nil []
  rw [lineTokens_congr htrim, lineTokens_empty]

/-! ## Cutting a line where a key begins -/

theorem trimStart_append_of_not_blanks {cs more : List Char} (h : ¬ Blanks cs) :
    trimStart (cs ++ more) = trimStart cs ++ more := by
  obtain ⟨a, ha, hcs, hfirst⟩ := exists_blanks_trimStart cs
  have hne : trimStart cs ≠ [] := by
    intro hnil
    rw [hnil, List.append_nil] at hcs
    exact h (hcs ▸ ha)
  have hself : trimStart (trimStart cs ++ more) = trimStart cs ++ more := by
    apply trimStart_eq_self
    rwa [List.head?_append_of_ne_nil _ hne]
  conv_lhs => rw [hcs, List.append_assoc, trimStart_append_of_blanks ha, hself]

/-- Before a key with its dash no other key goes on. -/
theorem endsKeys_of_keyAt {m : Marker} {dashed : Bool} {cs tail rest : List Char}
    (hat : KeyAt m dashed tail rest) (hends : EndsFresh true cs)
    (hdash : dashed = false → ¬ OpenDash true cs) : EndsKeys true cs tail := by
  intro pre suf hcs hne hpre first n rest' hkey
  rcases keyAt?_append_cases hkey with h | ⟨d, y, hbefore, htail⟩
  · exact h
  · rw [hcs, endsFresh_append hne] at hends
    obtain ⟨a, b, ha, hab, hb, rfl, rfl⟩ := hbefore.cut hne hends
    cases b with
    | nil =>
        have hname : tail = n.name.toList ++ ':' :: rest' := htail
        subst hname
        exact absurd ⟨pre, a, ha, hab, hcs, hpre⟩ (hdash hat.not_dashed)
    | cons c b =>
        -- the key would begin with a blank
        have hblank := hat.head.2 c (by rw [htail]; rfl)
        rw [hb c List.mem_cons_self] at hblank
        cases hblank

/-- A line is cut in two where a key begins, and so are its tokens. -/
theorem lineTokens_append {head tail : String} (h : KeyBegins head.toList tail.toList) :
    lineTokens (head ++ tail) = lineTokens head ++ lineTokens tail := by
  obtain ⟨hends, m, dashed, rest, hat, hcounts, hdash⟩ := h
  by_cases hblank : Blanks head.toList
  · have htrim : trim (head ++ tail).toList = trim tail.toList := by
      simpa using trim_append_of_blanks hblank Blanks.nil tail.toList
    rw [lineTokens_congr htrim, lineTokens_of_blanks hblank, List.nil_append]
  · have hinline : m ∈ inlineKeys ∨ dashed = true ∧ m ∈ itemKeys := by
      rcases hcounts with h | h | h
      · exact .inl h
      · exact .inr h
      · exact absurd h.2 hblank
    have hm : m ∈ Marker.keys := mem_keys_of_inline_or_item (hinline.imp_right And.right)
    have hkey : ∀ first, keyAt? first tail.toList = some (m, rest) := by
      intro first
      have hcounts := (counts_false_iff hm dashed).mpr hinline
      cases first with
      | false => exact keyAt?_eq_some_iff.mpr ⟨hm, dashed, hcounts, hat⟩
      | true => exact keyAt?_eq_some_iff.mpr ⟨hm, dashed, counts_of_not_first hcounts, hat⟩
    obtain ⟨a, ha, hhead, -⟩ := exists_blanks_trimStart head.toList
    have hstart : trimStart (head ++ tail).toList = trimStart head.toList ++ tail.toList := by
      rw [String.toList_append, trimStart_append_of_not_blanks hblank]
    have hends' : EndsFresh true (trimStart head.toList) := by
      rwa [hhead, endsFresh_blanks_append ha] at hends
    have hdash' : dashed = false → ¬ OpenDash true (trimStart head.toList) := by
      rwa [hhead, openDash_blanks_append ha] at hdash
    have hmore : ∀ first' fresh', (EndsFresh true (trimStart head.toList) ↔ fresh' = true) →
        cutAtKeys first' fresh' tail.toList = ([], _) := fun first' fresh' hfresh => by
      rw [hfresh.mp hends', cutAtKeys_of_key (hkey first')]
    obtain ⟨b, hb, hcut⟩ := @cutAtKeys_append true _ _ _ _ _ Blanks.nil (fun _ => .inl hends')
      (endsKeys_of_keyAt hat hends' hdash') hmore
    have hlead : trim ((cutAtKeys true true (trimStart head.toList)).1 ++ b) =
        trim (cutAtKeys true true (trimStart head.toList)).1 :=
      trim_append_of_blanks Blanks.nil hb _
    have htail : trimStart tail.toList = tail.toList := trimStart_eq_self hat.head.2
    rw [lineTokens_eq_trimStart (head ++ tail), lineTokens_eq_trimStart head,
      lineTokens_eq_trimStart tail, hstart, htail, hcut, hlead, cutAtKeys_of_key (hkey true),
      List.append_assoc]
    rfl

/-! ## Every key has its place -/

/-- A dash is open behind a key only if it is open in what follows the key's colon. -/
theorem OpenDash.of_behind_colon {fresh : Bool} {x rest : List Char}
    (h : OpenDash fresh (x ++ ':' :: rest)) : OpenDash false rest := by
  obtain ⟨pre, bs, hne, hbs, hcs, hpre⟩ := h
  rcases List.append_eq_append_iff.mp hcs with ⟨p, rfl, hp⟩ | ⟨p, rfl, hp⟩
  · cases p with
    | nil => cases hp
    | cons c p =>
        obtain ⟨rfl, rfl⟩ := List.cons.inj hp
        exact ⟨p, bs, hne, hbs, rfl, (endsFresh_behind_colon x p).mp hpre⟩
  · -- the colon would be one of the blanks
    have hcolon : ':' ∈ '-' :: bs := by
      rw [hp]
      simp
    rcases List.mem_cons.mp hcolon with h | h
    · exact absurd h (by decide)
    · exact absurd h (colon_not_mem_of_blanks hbs)

theorem OpenDash.cons {fresh : Bool} {c : Char} {cs : List Char}
    (h : OpenDash fresh (c :: cs)) :
    OpenDash (isBlank c) cs ∨ fresh = true ∧ c = '-' ∧ cs ≠ [] ∧ Blanks cs := by
  obtain ⟨pre, bs, hne, hbs, hcs, hpre⟩ := h
  cases pre with
  | nil =>
      obtain ⟨rfl, rfl⟩ := List.cons.inj hcs
      exact .inr ⟨hpre, rfl, hne, hbs⟩
  | cons d pre =>
      obtain ⟨rfl, rfl⟩ := List.cons.inj hcs
      exact .inl ⟨pre, bs, hne, hbs, rfl, hpre.of_cons⟩

/-- Where each key begins that the cutting finds. -/
theorem exists_place {first fresh : Bool} {cs : List Char} {ts us : List Token} {t : Token}
    (h : (cutAtKeys first fresh cs).2 = ts ++ t :: us) :
    ∃ pre suf, cs = pre ++ suf ∧ EndsFresh fresh pre ∧
      (∃ dashed rest, t.marker ∈ Marker.keys ∧
        t.marker.counts (first && pre.isEmpty) dashed = true ∧ KeyAt t.marker dashed suf rest ∧
        (dashed = false → ¬ OpenDash fresh pre)) ∧
      cutAtKeys true true suf = ([], t :: us) := by
  induction first, fresh, cs using cutAtKeys_induction generalizing ts with
  | nil first fresh =>
      rw [cutAtKeys_nil] at h
      simp at h
  | key first cs m rest hkey ih =>
      rw [cutAtKeys_of_key hkey] at h
      obtain ⟨hm, dashed, hcounts, hat⟩ := keyAt?_eq_some_iff.mp hkey
      cases ts with
      | nil =>
          obtain ⟨rfl, rfl⟩ := List.cons.inj h
          have hkey' : keyAt? true cs = some (m, rest) := by
            refine keyAt?_eq_some_iff.mpr ⟨hm, dashed, ?_, hat⟩
            cases first with
            | false => exact counts_of_not_first hcounts
            | true => exact hcounts
          refine ⟨[], cs, rfl, rfl, ⟨dashed, rest, hm, by simpa using hcounts, hat, ?_⟩,
            cutAtKeys_of_key hkey'⟩
          rintro - ⟨pre, bs, -, -, hnil, -⟩
          simp at hnil
      | cons t₀ ts =>
          obtain ⟨-, htail⟩ := List.cons.inj h
          obtain ⟨pre, suf, rfl, hends, ⟨d, r, hm', hcounts', hat', hdash⟩, hcut⟩ := ih htail
          obtain ⟨-, x, -, rfl⟩ := keyAt_iff.mp hat
          refine ⟨x ++ ':' :: pre, suf, by simp, (endsFresh_behind_colon x pre).mpr hends,
            ⟨d, r, hm', ?_, hat', fun hd hopen => hdash hd hopen.of_behind_colon⟩, hcut⟩
          have hne : (x ++ ':' :: pre).isEmpty = false := by simp
          rwa [hne, Bool.and_false]
  | skip first fresh c cs hnone ih =>
      rw [cutAtKeys_cons hnone] at h
      obtain ⟨pre, suf, rfl, hends, ⟨d, r, hm, hcounts, hat, hdash⟩, hcut⟩ := ih h
      refine ⟨c :: pre, suf, rfl, hends.cons,
        ⟨d, r, hm, by simpa using hcounts, hat, fun hd hopen => ?_⟩, hcut⟩
      rcases hopen.cons with hopen | ⟨hfresh, rfl, hne, hbs⟩
      · exact hdash hd hopen
      · -- with this dash the key would have begun before
        subst hd
        have hcounts : t.marker.counts first true = true := by
          revert hcounts
          cases t.marker <;> simp [Marker.counts]
        have hkey : keyAt? first ('-' :: (pre ++ suf)) = some (t.marker, r) := by
          refine keyAt?_eq_some_iff.mpr ⟨hm, true, hcounts, hat.1, pre, hne, hbs, ?_⟩
          obtain ⟨-, rfl⟩ : _ ∧ suf = t.marker.name.toList ++ ':' :: r := hat
          rfl
        rw [hnone hfresh] at hkey
        cases hkey

/-- What the cutting finds in a trimmed line is a key of the line with the blanks around it. -/
theorem keyBegins_of_place {a b pre suf rest : List Char} {m : Marker} {dashed : Bool}
    (ha : Blanks a) (hb : Blanks b) (hends : EndsFresh true pre) (hm : m ∈ Marker.keys)
    (hcounts : m.counts pre.isEmpty dashed = true) (hat : KeyAt m dashed suf rest)
    (hdash : dashed = false → ¬ OpenDash true pre) : KeyBegins (a ++ pre) (suf ++ b) := by
  obtain ⟨hblank, x, hx, rfl⟩ := keyAt_iff.mp hat
  refine ⟨(endsFresh_blanks_append ha).mpr hends, m, dashed, rest ++ b, ?_, ?_, ?_⟩
  · refine keyAt_iff.mpr ⟨fun c hc => ?_, x, hx, by simp⟩
    cases rest with
    | nil => exact hb c (List.mem_of_mem_head? hc)
    | cons d rest => exact hblank c hc
  · by_cases hfirst : m = .problems ∧ pre = []
    · obtain ⟨rfl, rfl⟩ := hfirst
      exact .inr (.inr ⟨rfl, by simpa using ha⟩)
    · -- what is not `problems` at the start counts anywhere
      have hcounts' : m.counts false dashed = true := by
        revert hcounts hfirst
        cases m <;> simp [Marker.counts]
      exact ((counts_false_iff hm dashed).mp hcounts').imp_right .inl
  · rwa [openDash_blanks_append ha]

/-- Every token of a line that is a key begins at a place where the line can be cut. -/
theorem exists_keyBegins {line : String} {ts us : List Token} {t : Token}
    (h : lineTokens line = ts ++ t :: us) (ht : t.marker ≠ .text) :
    ∃ head tail, line = head ++ tail ∧ KeyBegins head.toList tail.toList ∧
      lineTokens head = ts ∧ lineTokens tail = t :: us := by
  obtain ⟨ts', hkeys⟩ : ∃ ts', (cutAtKeys true true (trim line.toList)).2 = ts' ++ t :: us := by
    rw [lineTokens_eq] at h
    split_ifs at h with hempty
    · exact ⟨ts, h⟩
    · cases ts with
      | nil => exact absurd (List.cons.inj h).1.symm (by rintro rfl; exact ht rfl)
      | cons t₀ ts => exact ⟨ts, (List.cons.inj h).2⟩
  obtain ⟨pre, suf, htrim, hends, ⟨dashed, rest, hm, hcounts, hat, hdash⟩, hcut⟩ :=
    exists_place hkeys
  obtain ⟨a, b, ha, hb, hline, -⟩ := exists_blanks_trim line.toList
  have hbegins : KeyBegins (String.ofList (a ++ pre)).toList (String.ofList (suf ++ b)).toList := by
    rw [String.toList_ofList, String.toList_ofList]
    exact keyBegins_of_place ha hb hends hm hcounts hat hdash
  have hsplit : line = String.ofList (a ++ pre) ++ String.ofList (suf ++ b) := by
    rw [← String.ofList_append, ← String.ofList_toList (s := line), hline, htrim]
    simp
  have htail : lineTokens (String.ofList (suf ++ b)) = t :: us := by
    have htrimmed : Trimmed suf := by
      refine ⟨hat.head.2, fun c hc => (trimmed_trim line.toList).2 c ?_⟩
      rwa [htrim, List.getLast?_append_of_ne_nil _ hat.head.1]
    have hsuf : trim (String.ofList (suf ++ b)).toList = suf := by
      rw [String.toList_ofList]
      exact trim_surrounded Blanks.nil htrimmed hb
    rw [lineTokens_eq, hsuf, hcut]
    rfl
  have htokens := lineTokens_append hbegins
  rw [← hsplit, h, htail] at htokens
  exact ⟨_, _, hsplit, hbegins, (List.append_cancel_right htokens).symm, htail⟩

/-! ## Lines laid out anew -/

theorem tokens_eq_of_relaid {xs ys : List String} (h : Relaid xs ys) :
    xs.flatMap lineTokens = ys.flatMap lineTokens := by
  cases h with
  | blanks before after a line b ha hb =>
      have htrim : trim (a ++ line ++ b).toList = trim line.toList := by
        simpa using trim_append_of_blanks ha hb line.toList
      simp only [List.flatMap_append, List.flatMap_cons, lineTokens_congr htrim]
  | blankLine before after line h =>
      simp only [List.flatMap_append, List.flatMap_cons, lineTokens_of_blanks h, List.nil_append]
  | cut before after head tail h =>
      simp only [List.flatMap_append, List.flatMap_cons, lineTokens_append h, List.append_assoc]

theorem tokens_eq_of_eqvGen {xs ys : List String} (h : Relation.EqvGen Relaid xs ys) :
    xs.flatMap lineTokens = ys.flatMap lineTokens := by
  induction h with
  | rel xs ys h => exact tokens_eq_of_relaid h
  | refl xs => rfl
  | symm xs ys _ ih => exact ih.symm
  | trans xs ys zs _ _ ih ih' => exact ih.trans ih'

/-- **Layout does not matter.** Lines that come from each other by adding and removing blanks
around lines, by inserting and removing lines of blanks, and by cutting lines in two where keys
of them begin, or joining them again, give the same reports; and every token of a line that is
a key begins at such a place, where the cut leaves the tokens before it on one line and the
others on the next. -/
theorem reports_ignore_layout :
    (∀ xs ys : List String, Relation.EqvGen Relaid xs ys →
      (parseLines xs).reports = (parseLines ys).reports) ∧
    ∀ (line : String) (ts : List Token) (t : Token) (us : List Token),
      lineTokens line = ts ++ t :: us → t.marker ≠ .text →
        ∃ head tail, line = head ++ tail ∧ KeyBegins head.toList tail.toList ∧
          lineTokens head = ts ∧ lineTokens tail = t :: us := by
  refine ⟨fun xs ys h => ?_, fun line ts t us h ht => exists_keyBegins h ht⟩
  rw [reports_parseLines, reports_parseLines, map_snd_indexedTokens, map_snd_indexedTokens,
    tokens_eq_of_eqvGen h]

/-- A line of two keys, cut before the dash of the second one, a line of blanks between the
halves and blanks around the first. -/
theorem reports_ignore_layout_joined :
    Relation.EqvGen Relaid ["- file_path: a.proto - message: one"]
        [" - file_path: a.proto \t", "", "- message: one"] ∧
      (parseLines ["- file_path: a.proto - message: one"]).reports =
        (parseLines [" - file_path: a.proto \t", "", "- message: one"]).reports ∧
      ∃ head tail, "- file_path: a.proto - message: one" = head ++ tail ∧
        KeyBegins head.toList tail.toList ∧ lineTokens head = [⟨.filePath, "a.proto"⟩] ∧
        lineTokens tail = [⟨.message, "one"⟩] := by
  have hkey : KeyBegins "- file_path: a.proto ".toList "- message: one".toList := by
    refine ⟨endsFresh_true_iff.mpr ?_, .message, true, " one".toList, ⟨?_, [' '], by simp,
      blanks_replicate 1, by decide +kernel⟩, .inr (.inl ⟨rfl, by decide⟩), nofun⟩
    · simp [isBlank]
    · simp [isBlank]
  have hlaid : Relation.EqvGen Relaid ["- file_path: a.proto - message: one"]
      [" - file_path: a.proto \t", "", "- message: one"] := by
    refine .trans _ ["- file_path: a.proto ", "- message: one"] _
      (.rel _ _ (.cut [] [] _ _ hkey)) ?_
    refine .trans _ ["- file_path: a.proto ", "", "- message: one"] _
      (.rel _ _ (.blankLine ["- file_path: a.proto "] ["- message: one"] "" (by simp [Blanks]))) ?_
    exact .rel _ _ (.blanks [] ["", "- message: one"] " " "- file_path: a.proto " "\t"
      (by simp [Blanks, isBlank]) (by simp [Blanks, isBlank]))
  refine ⟨hlaid, reports_ignore_layout.1 _ _ hlaid,
    reports_ignore_layout.2 _ [⟨.filePath, "a.proto"⟩] ⟨.message, "one"⟩ [] ?_ (by decide)⟩
  decide +kernel

end LintRelay.Report
