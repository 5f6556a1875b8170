import LintRelay.Proofs.Report.Keys

/-!
# Cutting a line at its keys

The tokens of a line carry plain texts, and a plain text stays whole when it is
written behind a key, or alone, and the line is cut again. Both rest on one
property of the texts between keys: no key counts at any place in them.
-/

namespace LintRelay.Report

open LintRelay.Text

/-! ## Texts without keys -/

/-- No key counts anywhere in the text. `first` and `fresh` are those of
`cutAtKeys`. -/
def Keyless (first fresh : Bool) : List Char → Prop
  | [] => True
  | c :: cs => (fresh = true → keyAt? first (c :: cs) = none) ∧ Keyless false (isBlank c) cs

instance decidableKeyless : ∀ (first fresh : Bool) (cs : List Char),
    Decidable (Keyless first fresh cs)
  | _, _, [] => isTrue trivial
  | first, fresh, c :: cs =>
    have := decidableKeyless false (isBlank c) cs
    inferInstanceAs
      (Decidable ((fresh = true → keyAt? first (c :: cs) = none) ∧ Keyless false (isBlank c) cs))

/-- Blanks come before a key, or nothing does where a key may start. -/
def EndsFresh (fresh : Bool) (cs : List Char) : Prop :=
  match cs.getLast? with
  | none => fresh = true
  | some c => isBlank c = true

theorem EndsFresh.cons {c : Char} {cs : List Char} {fresh : Bool}
    (h : EndsFresh (isBlank c) cs) : EndsFresh fresh (c :: cs) := by
  rw [EndsFresh, List.getLast?_cons]
  rw [EndsFresh] at h
  cases hlast : cs.getLast? with
  | none =>
      rw [hlast] at h
      exact h
  | some d =>
      rw [hlast] at h
      exact h

theorem EndsFresh.of_cons {c : Char} {cs : List Char} {fresh : Bool}
    (h : EndsFresh fresh (c :: cs)) : EndsFresh (isBlank c) cs := by
  rw [EndsFresh, List.getLast?_cons] at h
  rw [EndsFresh]
  cases hlast : cs.getLast? with
  | none =>
      rw [hlast] at h
      exact h
  | some d =>
      rw [hlast] at h
      exact h

/-- A text has no key where it begins if a longer one has none, provided it ends
where a key may start or a blank follows. -/
theorem keyAt?_eq_none_of_append {first : Bool} (fresh : Bool) {cs more : List Char}
    (h : keyAt? first (cs ++ more) = none)
    (hmore : more ≠ [] → EndsFresh fresh cs ∨ ∀ c ∈ more.head?, isBlank c = true) :
    keyAt? first cs = none := by
  by_contra hkey
  obtain ⟨⟨m, rest⟩, hkey⟩ := Option.ne_none_iff_exists'.mp hkey
  have hblank : rest = [] → ∀ d ∈ more.head?, isBlank d = true := by
    rintro rfl d hd
    have hne : more ≠ [] := by
      rintro rfl
      simp at hd
    rcases hmore hne with hends | hhead
    · -- the text ends with the colon, which is no blank
      rw [EndsFresh, getLast?_of_keyAt? hkey] at hends
      have hcolon : isBlank ':' = true := hends
      exact absurd hcolon (by decide)
    · exact hhead d hd
  rw [keyAt?_append hkey hblank] at h
  cases h

theorem Keyless.of_append {first fresh : Bool} {cs more : List Char}
    (h : Keyless first fresh (cs ++ more))
    (hmore : more ≠ [] → EndsFresh fresh cs ∨ ∀ c ∈ more.head?, isBlank c = true) :
    Keyless first fresh cs := by
  induction cs generalizing first fresh with
  | nil => trivial
  | cons c cs ih =>
      refine ⟨fun hfresh => ?_, ih h.2 fun hne => (hmore hne).imp EndsFresh.of_cons id⟩
      have hnone : keyAt? first (c :: cs ++ more) = none := h.1 hfresh
      exact keyAt?_eq_none_of_append fresh hnone hmore

theorem Keyless.of_append_blanks {first fresh : Bool} {cs b : List Char} (hb : Blanks b)
    (h : Keyless first fresh (cs ++ b)) : Keyless first fresh cs :=
  h.of_append fun _ => Or.inr fun c hc => hb c (List.mem_of_mem_head? hc)

/-- Behind blanks a key may start. -/
theorem Keyless.of_blanks_append {a cs : List Char} {fresh : Bool} (ha : Blanks a) (hne : a ≠ [])
    (h : Keyless false fresh (a ++ cs)) : Keyless false true cs := by
  induction a generalizing fresh with
  | nil => exact absurd rfl hne
  | cons c a ih =>
      have hc : isBlank c = true := ha c List.mem_cons_self
      have htail : Keyless false true (a ++ cs) := by
        have h2 := h.2
        rwa [hc] at h2
      by_cases hnil : a = []
      · subst hnil
        exact htail
      · exact ih (fun d hd => ha d (List.mem_cons_of_mem _ hd)) hnil htail

theorem Keyless.of_first {fresh : Bool} {cs : List Char} (h : Keyless true fresh cs) :
    Keyless false fresh cs := by
  cases cs with
  | nil => trivial
  | cons c cs =>
      refine ⟨fun hfresh => ?_, h.2⟩
      rw [keyAt?_eq_none_iff]
      intro m dashed rest hm hcounts
      exact keyAt?_eq_none_iff.mp (h.1 hfresh) m dashed rest hm (counts_of_not_first hcounts)

/-- Said of places instead of characters. -/
theorem keyless_iff {cs : List Char} {fresh : Bool} :
    Keyless false fresh cs ↔
      ∀ pre suf, cs = pre ++ suf → EndsFresh fresh pre → keyAt? false suf = none := by
  induction cs generalizing fresh with
  | nil =>
      refine ⟨fun _ pre suf hcs _ => ?_, fun _ => trivial⟩
      obtain ⟨-, rfl⟩ := List.append_eq_nil_iff.mp hcs.symm
      exact keyAt?_nil false
  | cons c cs ih =>
      constructor
      · intro h pre suf hcs hpre
        cases pre with
        | nil =>
            obtain rfl : c :: cs = suf := hcs
            exact h.1 hpre
        | cons d pre =>
            obtain ⟨rfl, htail⟩ := List.cons.inj hcs
            exact ih.mp h.2 pre suf htail hpre.of_cons
      · intro h
        refine ⟨fun hfresh => h [] (c :: cs) rfl hfresh, ih.mpr fun pre suf hcs hpre => ?_⟩
        exact h (c :: pre) suf (by rw [hcs]; rfl) hpre.cons

theorem endsFresh_true_iff {cs : List Char} :
    EndsFresh true cs ↔ ∀ c ∈ cs.getLast?, isBlank c = true := by
  rw [EndsFresh]
  cases cs.getLast? <;> simp

/-- Plain texts, as the cutting of lines sees them. -/
theorem plain_iff {s : String} :
    Plain s ↔ Trimmed s.toList ∧ Unbroken s.toList ∧ Keyless false true s.toList := by
  constructor
  · rintro ⟨htrim, hunbroken, hkeyless⟩
    refine ⟨htrim, hunbroken, keyless_iff.mpr fun pre suf hcs hpre => ?_⟩
    rw [keyAt?_eq_none_iff]
    intro m dashed rest hm hcounts hat
    obtain ⟨hinline, hitem⟩ :=
      hkeyless pre suf hcs (endsFresh_true_iff.mp hpre) m dashed rest hat
    rcases (counts_false_iff hm dashed).mp hcounts with h | h
    · exact hinline h
    · exact hitem h
  · rintro ⟨htrim, hunbroken, hkeyless⟩
    refine ⟨htrim, hunbroken, fun pre suf hcs hpre m dashed rest hat => ?_⟩
    have hnone := keyless_iff.mp hkeyless pre suf hcs (endsFresh_true_iff.mpr hpre)
    have hcounts : m ∈ inlineKeys ∨ dashed = true ∧ m ∈ itemKeys → False := by
      intro h
      have hm := mem_keys_of_inline_or_item (h.imp_right And.right)
      have hcounts := (counts_false_iff hm dashed).mpr h
      exact keyAt?_eq_none_iff.mp hnone m dashed rest hm hcounts hat
    exact ⟨fun h => hcounts (Or.inl h), fun h => hcounts (Or.inr h)⟩

instance (s : String) : Decidable (Plain s) :=
  decidable_of_iff _ plain_iff.symm

/-! ## Cutting a line -/

theorem cutAtKeys_nil (first fresh : Bool) : cutAtKeys first fresh [] = ([], []) := by
  rw [cutAtKeys]
  split
  · rename_i hfound
    split_ifs at hfound
    rw [keyAt?_nil] at hfound
    cases hfound
  · rfl

theorem cutAtKeys_of_key {first : Bool} {cs rest : List Char} {m : Marker}
    (h : keyAt? first cs = some (m, rest)) :
    cutAtKeys first true cs =
      ([], ⟨m, String.ofList (trim (cutAtKeys false false rest).1)⟩ ::
        (cutAtKeys false false rest).2) := by
  rw [cutAtKeys]
  split
  · rename_i m' rest' hfound
    rw [if_pos rfl, h] at hfound
    obtain ⟨rfl, rfl⟩ := Prod.mk.inj (Option.some.inj hfound)
    rfl
  · rename_i hfound
    rw [if_pos rfl, h] at hfound
    cases hfound

theorem cutAtKeys_cons {first fresh : Bool} {c : Char} {cs : List Char}
    (h : fresh = true → keyAt? first (c :: cs) = none) :
    cutAtKeys first fresh (c :: cs) =
      (c :: (cutAtKeys false (isBlank c) cs).1, (cutAtKeys false (isBlank c) cs).2) := by
  rw [cutAtKeys]
  split
  · rename_i hfound
    split_ifs at hfound with hfresh
    rw [h hfresh] at hfound
    cases hfound
  · rfl

/-- Cutting goes on behind a key, or at the next character where there is none. -/
@[elab_as_elim]
theorem cutAtKeys_induction {motive : Bool → Bool → List Char → Prop}
    (nil : ∀ first fresh, motive first fresh [])
    (key : ∀ first cs m rest, keyAt? first cs = some (m, rest) → motive false false rest →
      motive first true cs)
    (skip : ∀ first fresh c cs, (fresh = true → keyAt? first (c :: cs) = none) →
      motive false (isBlank c) cs → motive first fresh (c :: cs))
    (first fresh : Bool) (cs : List Char) : motive first fresh cs := by
  induction hn : cs.length using Nat.strongRecOn generalizing first fresh cs with
  | _ n ih =>
      subst hn
      by_cases hkey : ∃ m rest, fresh = true ∧ keyAt? first cs = some (m, rest)
      · obtain ⟨m, rest, rfl, hkey⟩ := hkey
        exact key first cs m rest hkey (ih rest.length (keyAt?_length hkey) false false rest rfl)
      · cases cs with
        | nil => exact nil first fresh
        | cons c cs =>
            refine skip first fresh c cs (fun hfresh => ?_)
              (ih cs.length (by simp) false (isBlank c) cs rfl)
            by_contra hsome
            obtain ⟨⟨m, rest⟩, hsome⟩ := Option.ne_none_iff_exists'.mp hsome
            exact hkey ⟨m, rest, hfresh, hsome⟩

theorem cutAtKeys_of_keyless {first fresh : Bool} {cs : List Char} (h : Keyless first fresh cs) :
    cutAtKeys first fresh cs = (cs, []) := by
  induction cs generalizing first fresh with
  | nil => exact cutAtKeys_nil first fresh
  | cons c cs ih => rw [cutAtKeys_cons h.1, ih h.2]

/-- What a token of a cut text carries: a text without keys, from a blank or the
end on, that has been trimmed. -/
def CutFrom (cs : List Char) (t : Token) : Prop :=
  t.marker ∈ Marker.keys ∧
    ∃ w, t.value = String.ofList (trim w) ∧ w ⊆ cs ∧ Keyless false false w ∧
      ∀ c ∈ w.head?, isBlank c = true

theorem CutFrom.mono {cs cs' : List Char} {t : Token} (hsub : cs ⊆ cs') (h : CutFrom cs t) :
    CutFrom cs' t := by
  obtain ⟨hm, w, hv, hw, hkeyless, hhead⟩ := h
  exact ⟨hm, w, hv, fun c hc => hsub (hw hc), hkeyless, hhead⟩

/-- The text before the first key holds none and ends where a key may start;
each token carries a text that holds none either. -/
theorem cutAtKeys_spec (first fresh : Bool) (cs : List Char) :
    (∃ more, cs = (cutAtKeys first fresh cs).1 ++ more ∧
        (more ≠ [] → EndsFresh fresh (cutAtKeys first fresh cs).1)) ∧
      Keyless first fresh (cutAtKeys first fresh cs).1 ∧
      ∀ t ∈ (cutAtKeys first fresh cs).2, CutFrom cs t := by
  induction first, fresh, cs using cutAtKeys_induction with
  | nil first fresh =>
      rw [cutAtKeys_nil]
      exact ⟨⟨[], rfl, fun h => absurd rfl h⟩, trivial, fun t ht => absurd ht List.not_mem_nil⟩
  | key first cs m rest hkey ih =>
      obtain ⟨hm, dashed, _, hblank, hcs⟩ := keyAt?_eq_some_iff.mp hkey
      have hsub : rest ⊆ cs := by
        cases dashed with
        | false =>
            obtain rfl : cs = m.name.toList ++ ':' :: rest := hcs
            intro c hc
            simp [hc]
        | true =>
            obtain ⟨bs, _, _, rfl⟩ := hcs
            intro c hc
            simp [hc]
      obtain ⟨⟨more, hrest, _⟩, hvalue, htokens⟩ := ih
      rw [cutAtKeys_of_key hkey]
      refine ⟨⟨cs, rfl, fun _ => rfl⟩, trivial, ?_⟩
      intro t ht
      rcases List.mem_cons.mp ht with rfl | ht
      · refine ⟨hm, _, rfl, ?_, hvalue, ?_⟩
        · intro c hc
          apply hsub
          rw [hrest]
          exact List.mem_append_left _ hc
        · intro c hc
          apply hblank
          rw [hrest]
          exact List.mem_head?_append_of_mem_head? hc
      · exact (htokens t ht).mono hsub
  | skip first fresh c cs hnone ih =>
      obtain ⟨⟨more, hcs, hends⟩, hlead, htokens⟩ := ih
      rw [cutAtKeys_cons hnone]
      refine ⟨⟨more, ?_, fun hne => (hends hne).cons⟩, ⟨fun hfresh => ?_, hlead⟩, ?_⟩
      · rw [List.cons_append, ← hcs]
      · -- `hnone` speaks of the whole rest, a key in the lead would stand there too
        have hlonger := hnone hfresh
        rw [hcs, ← List.cons_append] at hlonger
        exact keyAt?_eq_none_of_append fresh hlonger fun hne => Or.inl (hends hne).cons
      · intro t ht
        exact (htokens t ht).mono (List.subset_cons_self c cs)

/-! ## The tokens of a line -/

theorem lineTokens_eq (line : String) :
    lineTokens line =
      (if trim (cutAtKeys true true (trim line.toList)).1 = [] then []
        else [⟨.text, String.ofList (trim (cutAtKeys true true (trim line.toList)).1)⟩]) ++
      (cutAtKeys true true (trim line.toList)).2 := by
  simp only [lineTokens, List.isEmpty_iff]
  split_ifs <;> rfl

theorem lineTokens_congr {l l' : String} (h : trim l.toList = trim l'.toList) :
    lineTokens l = lineTokens l' := by
  rw [lineTokens, lineTokens, h]

theorem keyless_trim_of_cut {w : List Char} (h : Keyless false false w)
    (hhead : ∀ c ∈ w.head?, isBlank c = true) : Keyless false true (trim w) := by
  obtain ⟨a, b, ha, hb, hw, htrim⟩ := exists_blanks_trim w
  by_cases hempty : trim w = []
  · rw [hempty]
    trivial
  · have hne : a ≠ [] := by
      rintro rfl
      obtain ⟨c, v, hv⟩ := List.exists_cons_of_ne_nil hempty
      rw [hv] at hw htrim
      have hblank := hhead c (by rw [hw]; rfl)
      rw [htrim.1 c rfl] at hblank
      cases hblank
    rw [hw, List.append_assoc] at h
    exact (h.of_blanks_append ha hne).of_append_blanks hb

theorem keyless_trim_of_lead {cs more : List Char} (htrim : Trimmed (cs ++ more))
    (h : Keyless true true cs) : Keyless true true (trim cs) := by
  obtain ⟨a, b, ha, hb, hcs, _⟩ := exists_blanks_trim cs
  have hnil : a = [] := by
    cases a with
    | nil => rfl
    | cons c a =>
        have hblank := htrim.1 c (by rw [hcs]; rfl)
        rw [ha c List.mem_cons_self] at hblank
        cases hblank
  rw [hcs, hnil, List.nil_append] at h
  exact h.of_append_blanks hb

theorem not_opensProblems_of_keyless {s : String} (h : Keyless true true s.toList) :
    ¬ OpensProblems s := by
  rw [opensProblems_iff]
  cases hs : s.toList with
  | nil =>
      rw [keyAt?_nil]
      simp
  | cons c cs =>
      rw [hs] at h
      rw [h.1 rfl]
      simp

/-- What the tokens of any line carry: trimmed texts without a key, which free text has not
even at its start. -/
structure Uncut (line : String) (t : Token) : Prop where
  trimmed : Trimmed t.value.toList
  subset : t.value.toList ⊆ line.toList
  keyless : Keyless false true t.value.toList
  text : t.marker = .text → t.value ≠ "" ∧ Keyless true true t.value.toList

theorem uncut_of_mem_lineTokens {line : String} {t : Token} (ht : t ∈ lineTokens line) :
    Uncut line t := by
  obtain ⟨⟨more, hcs, _⟩, hlead, htokens⟩ := cutAtKeys_spec true true (trim line.toList)
  rw [lineTokens_eq] at ht
  rcases List.mem_append.mp ht with ht | ht
  · split_ifs at ht with hempty
    · exact absurd ht List.not_mem_nil
    · obtain rfl := List.mem_singleton.mp ht
      have hkeyless : Keyless true true (trim (cutAtKeys true true (trim line.toList)).1) :=
        keyless_trim_of_lead (hcs ▸ trimmed_trim line.toList) hlead
      refine ⟨?_, ?_, ?_, fun _ => ⟨?_, ?_⟩⟩
      · rw [String.toList_ofList]
        exact trimmed_trim _
      · rw [String.toList_ofList]
        intro c hc
        apply mem_of_mem_trim
        rw [hcs]
        exact List.mem_append_left _ (mem_of_mem_trim hc)
      · rw [String.toList_ofList]
        exact hkeyless.of_first
      · intro h
        apply hempty
        simpa using congrArg String.toList h
      · rw [String.toList_ofList]
        exact hkeyless
  · obtain ⟨hm, w, hv, hsub, hkeyless, hhead⟩ := htokens t ht
    have hvalue : t.value.toList = trim w := by rw [hv, String.toList_ofList]
    refine ⟨?_, ?_, ?_, fun htext => ?_⟩
    · rw [hvalue]
      exact trimmed_trim w
    · rw [hvalue]
      exact fun c hc => mem_of_mem_trim (hsub (mem_of_mem_trim hc))
    · rw [hvalue]
      exact keyless_trim_of_cut hkeyless hhead
    · rw [htext] at hm
      exact absurd hm (by decide)

/-- What the tokens of a line carry: plain texts, and free text that is not empty
and would not be taken for a key at the start of a line. -/
structure Clean (t : Token) : Prop where
  plain : Plain t.value
  text : t.marker = .text → t.value ≠ "" ∧ ¬ OpensProblems t.value

theorem clean_of_mem_lineTokens {line : String} (hline : Unbroken line.toList) {t : Token}
    (ht : t ∈ lineTokens line) : Clean t := by
  have h := uncut_of_mem_lineTokens ht
  refine ⟨plain_iff.mpr ⟨h.trimmed, hline.sublist h.subset, h.keyless⟩, fun htext => ?_⟩
  exact ⟨(h.text htext).1, not_opensProblems_of_keyless (h.text htext).2⟩

/-- A plain text holds no key at its start either, unless it begins with
`problems`. -/
theorem Plain.keyless_first {s : String} (h : Plain s) (hopens : ¬ OpensProblems s) :
    Keyless true true s.toList := by
  have hkeyless := (plain_iff.mp h).2.2
  cases hs : s.toList with
  | nil => trivial
  | cons c cs =>
      rw [hs] at hkeyless
      refine ⟨fun _ => ?_, hkeyless.2⟩
      rw [keyAt?_eq_none_iff]
      intro m dashed rest hm hcounts hat
      -- only `problems` counts at the start and nowhere else
      by_cases hproblems : m = .problems
      · subst hproblems
        exact hopens ⟨dashed, rest, hs ▸ hat⟩
      · have hcounts' : m.counts false dashed = true := by
          revert hcounts
          cases m <;> simp_all [Marker.counts]
        exact keyAt?_eq_none_iff.mp (hkeyless.1 rfl) m dashed rest hm hcounts' hat

/-- The written form of a key, before its colon. -/
def keyText (m : Marker) (dashed : Bool) : List Char :=
  (if dashed then ['-', ' '] else []) ++ m.name.toList

theorem keyAt_keyText {m : Marker} {dashed : Bool} {rest : List Char}
    (h : ∀ c ∈ rest.head?, isBlank c = true) :
    KeyAt m dashed (keyText m dashed ++ ':' :: rest) rest := by
  refine ⟨h, ?_⟩
  cases dashed with
  | false => rfl
  | true => exact ⟨[' '], by simp, blanks_replicate 1, rfl⟩

theorem head_keyText (m : Marker) (dashed : Bool) :
    keyText m dashed ≠ [] ∧ ∀ c ∈ (keyText m dashed).head?, isBlank c = false := by
  cases dashed with
  | false => exact ⟨name_ne_nil m, fun c hc => (head_name m c hc).2⟩
  | true => exact ⟨by simp [keyText], by simp [keyText, isBlank]⟩

/-- A trimmed line that begins with a key and holds no other. -/
theorem lineTokens_of_trim {line : String} {m : Marker} {dashed : Bool} {rest : List Char}
    (hline : trim line.toList = keyText m dashed ++ ':' :: rest) (hm : m ∈ Marker.keys)
    (hcounts : m.counts true dashed = true) (hblank : ∀ c ∈ rest.head?, isBlank c = true)
    (hrest : Keyless false false rest) :
    lineTokens line = [⟨m, String.ofList (trim rest)⟩] := by
  have hkey : keyAt? true (keyText m dashed ++ ':' :: rest) = some (m, rest) :=
    keyAt?_eq_some_iff.mpr ⟨hm, dashed, hcounts, keyAt_keyText hblank⟩
  rw [lineTokens_eq, hline, cutAtKeys_of_key hkey, cutAtKeys_of_keyless hrest]
  rfl

/-- A line that holds a key with a text behind it that is trimmed and has none. -/
theorem lineTokens_key_of_keyless {line : String} {m : Marker} {dashed : Bool} {pad : List Char}
    {v : String} (hline : line.toList = pad ++ (keyText m dashed ++ ':' :: ' ' :: v.toList))
    (hpad : Blanks pad) (hm : m ∈ Marker.keys) (hcounts : m.counts true dashed = true)
    (htrim : Trimmed v.toList) (hkeyless : Keyless false true v.toList) :
    lineTokens line = [⟨m, v⟩] := by
  obtain ⟨hne, hhead⟩ := head_keyText m dashed
  by_cases hempty : v.toList = []
  · have hbody : Trimmed (keyText m dashed ++ [':']) := by
      refine ⟨fun c hc => hhead c ?_, by simp [isBlank]⟩
      rwa [List.head?_append_of_ne_nil _ hne] at hc
    have hcut : trim line.toList = keyText m dashed ++ ':' :: [] := by
      have h := trim_surrounded hpad hbody (blanks_replicate 1)
      rw [hline, hempty]
      simpa using h
    rw [lineTokens_of_trim hcut hm hcounts (by simp) trivial]
    rw [← String.ofList_toList (s := v), hempty]
    rfl
  · have hbody : Trimmed (keyText m dashed ++ ':' :: ' ' :: v.toList) := by
      refine ⟨fun c hc => hhead c ?_, fun c hc => htrim.2 c ?_⟩
      · rwa [List.head?_append_of_ne_nil _ hne] at hc
      · rw [← List.getLast?_append_of_ne_nil (keyText m dashed ++ [':', ' ']) hempty]
        simpa using hc
    have hcut : trim line.toList = keyText m dashed ++ ':' :: ' ' :: v.toList := by
      have h := trim_surrounded hpad hbody Blanks.nil
      rwa [List.append_nil, ← hline] at h
    rw [lineTokens_of_trim hcut hm hcounts (by simp [isBlank]) ⟨by simp, hkeyless⟩]
    have hvalue : trim (' ' :: v.toList) = v.toList := by
      have h := trim_surrounded (blanks_replicate 1) htrim Blanks.nil
      rwa [List.append_nil] at h
    rw [hvalue, String.ofList_toList]

/-- A line that holds a key with a plain text behind it. -/
theorem lineTokens_key {line : String} {m : Marker} {dashed : Bool} {pad : List Char} {v : String}
    (hline : line.toList = pad ++ (keyText m dashed ++ ':' :: ' ' :: v.toList))
    (hpad : Blanks pad) (hm : m ∈ Marker.keys) (hcounts : m.counts true dashed = true)
    (hv : Plain v) : lineTokens line = [⟨m, v⟩] := by
  obtain ⟨htrim, -, hkeyless⟩ := plain_iff.mp hv
  exact lineTokens_key_of_keyless hline hpad hm hcounts htrim hkeyless

/-- A line that holds a trimmed text only, which has no key even at its start. -/
theorem lineTokens_text_of_keyless {line : String} {pad : List Char} {v : String}
    (hline : line.toList = pad ++ v.toList) (hpad : Blanks pad) (htrim : Trimmed v.toList)
    (hne : v ≠ "") (hkeyless : Keyless true true v.toList) : lineTokens line = [⟨.text, v⟩] := by
  have hcut : trim line.toList = v.toList := by
    rw [hline, ← List.append_nil (pad ++ v.toList)]
    exact trim_surrounded hpad htrim Blanks.nil
  rw [lineTokens_eq, hcut, cutAtKeys_of_keyless hkeyless, trim_eq_self htrim,
    if_neg (by simpa using hne), String.ofList_toList]
  rfl

theorem lineTokens_text {line : String} {pad : List Char} {v : String}
    (hline : line.toList = pad ++ v.toList) (hpad : Blanks pad) (hv : Plain v) (hne : v ≠ "")
    (hopens : ¬ OpensProblems v) : lineTokens line = [⟨.text, v⟩] :=
  lineTokens_text_of_keyless hline hpad hv.trimmed hne (hv.keyless_first hopens)

end LintRelay.Report
