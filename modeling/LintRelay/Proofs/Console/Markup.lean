import Mathlib.Data.List.Basic
import Mathlib.Data.List.TakeWhile
import Mathlib.Tactic.SplitIfs
import LintRelay.Console.Markup
import LintRelay.Proofs.Results

/-!
# What markup leaves of a text

Markup keeps the characters of a text in their order, and takes out the tags and some of the
backslashes. So it leaves a text as it is exactly if there is nothing to be taken out. A text
whose first tag closes cannot be read as markup at all.
-/

namespace LintRelay.Console

open LintRelay.Text

/-- Markup sees a tag in the text: two brackets with none between them, and a character behind
the first that a tag can begin with. -/
def HoldsTag (cs : List Char) : Prop :=
  ∃ before c body after, cs = before ++ '[' :: c :: (body ++ ']' :: after) ∧
    isTagStart c = true ∧ ∀ d ∈ body, isTagChar d = true

/-- The text has a bracket with a backslash before it. -/
def HoldsEscape (cs : List Char) : Prop :=
  ∃ before after, cs = before ++ '\\' :: '[' :: after

/-- There is nothing in the text that markup takes out. -/
structure IsUnmarked (cs : List Char) : Prop where
  noTag : ¬ HoldsTag cs
  noEscape : ¬ HoldsEscape cs

/-! ## Tags -/

theorem tagAt?_eq_some_iff {cs name rest : List Char} :
    tagAt? cs = some (name, rest) ↔
      ∃ c body, name = c :: body ∧ cs = '[' :: c :: (body ++ ']' :: rest) ∧
        isTagStart c = true ∧ ∀ d ∈ body, isTagChar d = true := by
  constructor
  · intro h
    unfold tagAt? at h
    split at h
    next c cs =>
      split_ifs at h with hc
      split at h
      next rest' hdrop =>
        cases h
        refine ⟨c, cs.takeWhile isTagChar, rfl, ?_, hc, fun d hd => List.mem_takeWhile_imp hd⟩
        rw [← hdrop, List.takeWhile_append_dropWhile]
      next => cases h
    next => cases h
  · rintro ⟨c, body, rfl, rfl, hc, hbody⟩
    have hbracket : isTagChar ']' = false := by decide
    have htake : (body ++ ']' :: rest).takeWhile isTagChar = body := by
      rw [List.takeWhile_append_of_pos hbody, List.takeWhile_cons_of_neg (by simp [hbracket]),
        List.append_nil]
    have hdrop : (body ++ ']' :: rest).dropWhile isTagChar = ']' :: rest := by
      rw [List.dropWhile_append_of_pos hbody, List.dropWhile_cons_of_neg (by simp [hbracket])]
    rw [tagAt?, if_pos hc, hdrop, htake]
    rfl

theorem not_holdsTag_nil : ¬ HoldsTag [] := by
  rintro ⟨before, c, body, after, h, -⟩
  simp at h

theorem holdsTag_cons (c : Char) (cs : List Char) :
    HoldsTag (c :: cs) ↔ (tagAt? (c :: cs)).isSome = true ∨ HoldsTag cs := by
  constructor
  · rintro ⟨before, d, body, after, h, hd, hbody⟩
    cases before with
    | nil =>
        rw [List.nil_append] at h
        rw [h]
        exact .inl (Option.isSome_of_eq_some
          (tagAt?_eq_some_iff.mpr ⟨d, body, rfl, rfl, hd, hbody⟩))
    | cons b before =>
        cases h
        exact .inr ⟨before, d, body, after, rfl, hd, hbody⟩
  · rintro (h | ⟨before, d, body, after, rfl, hd, hbody⟩)
    · obtain ⟨⟨name, rest⟩, hsome⟩ := Option.isSome_iff_exists.mp h
      obtain ⟨d, body, -, hcs, hd, hbody⟩ := tagAt?_eq_some_iff.mp hsome
      exact ⟨[], d, body, rest, hcs, hd, hbody⟩
    · exact ⟨c :: before, d, body, after, rfl, hd, hbody⟩

instance decidableHoldsTag : (cs : List Char) → Decidable (HoldsTag cs)
  | [] => .isFalse not_holdsTag_nil
  | c :: cs =>
    have := decidableHoldsTag cs
    decidable_of_iff _ (holdsTag_cons c cs).symm

theorem tagAt?_eq_none_of_ne {c : Char} (hc : c ≠ '[') (cs : List Char) :
    tagAt? (c :: cs) = none := by
  rw [tagAt?.eq_2]
  rintro c' cs' h
  cases h
  exact hc rfl

/-- Before a tag nothing counts that has no opening bracket. -/
theorem holdsTag_append_of_not_mem {pre : List Char} (h : '[' ∉ pre) (cs : List Char) :
    HoldsTag (pre ++ cs) ↔ HoldsTag cs := by
  induction pre with
  | nil => rfl
  | cons c pre ih =>
      rw [List.mem_cons, not_or] at h
      rw [List.cons_append, holdsTag_cons, tagAt?_eq_none_of_ne (Ne.symm h.1), ih h.2]
      simp

/-- Behind a tag nothing counts that has no closing bracket. -/
theorem holdsTag_append_of_not_mem_right {post : List Char} (h : ']' ∉ post) (cs : List Char) :
    HoldsTag (cs ++ post) ↔ HoldsTag cs := by
  constructor
  · rintro ⟨before, c, body, after, heq, hc, hbody⟩
    have hsplit : cs ++ post = (before ++ '[' :: c :: body) ++ ']' :: after := by
      rw [heq]
      simp
    rcases List.append_eq_append_iff.mp hsplit with ⟨rest, -, hpost⟩ | ⟨rest, hcs, hafter⟩
    · exact absurd (by rw [hpost]; simp) h
    · cases rest with
      | nil =>
          rw [List.nil_append] at hafter
          exact absurd (by rw [← hafter]; simp) h
      | cons d rest =>
          cases hafter
          exact ⟨before, c, body, rest, by rw [hcs]; simp, hc, hbody⟩
  · rintro ⟨before, c, body, after, rfl, hc, hbody⟩
    exact ⟨before, c, body, after ++ post, by simp, hc, hbody⟩

/-! ## Escapes -/

theorem holdsEscape_cons (c : Char) (cs : List Char) :
    HoldsEscape (c :: cs) ↔ (c = '\\' ∧ cs.head? = some '[') ∨ HoldsEscape cs := by
  constructor
  · rintro ⟨before, after, h⟩
    cases before with
    | nil =>
        cases h
        exact .inl ⟨rfl, rfl⟩
    | cons b before =>
        cases h
        exact .inr ⟨before, after, rfl⟩
  · rintro (⟨rfl, h⟩ | ⟨before, after, rfl⟩)
    · obtain ⟨after, rfl⟩ := List.head?_eq_some_iff.mp h
      exact ⟨[], after, rfl⟩
    · exact ⟨c :: before, after, rfl⟩

theorem holdsEscape_append_of_not_mem {pre : List Char} (h : '\\' ∉ pre) (cs : List Char) :
    HoldsEscape (pre ++ cs) ↔ HoldsEscape cs := by
  induction pre with
  | nil => rfl
  | cons c pre ih =>
      rw [List.mem_cons, not_or] at h
      rw [List.cons_append, holdsEscape_cons, ih h.2]
      simp [Ne.symm h.1]

theorem holdsEscape_append_of_not_mem_right {post : List Char} (h : '[' ∉ post) (cs : List Char) :
    HoldsEscape (cs ++ post) ↔ HoldsEscape cs := by
  induction cs with
  | nil =>
      refine iff_of_false ?_ ?_
      · rintro ⟨before, after, rfl⟩
        exact h (by simp)
      · rintro ⟨before, after, hnil⟩
        simp at hnil
  | cons c cs ih =>
      rw [List.cons_append, holdsEscape_cons, holdsEscape_cons, ih]
      cases cs with
      | nil =>
          have hpost : post.head? ≠ some '[' := fun hhead => h (List.mem_of_mem_head? hhead)
          simp [hpost]
      | cons d cs => rfl

theorem plainText_sublist (cs : List Char) : (plainText cs).Sublist cs := by
  fun_induction plainText cs with
  | case1 cs ih => exact (ih.cons_cons '[').cons '\\'
  | case2 c cs hc ih => exact ih.cons_cons c
  | case3 => exact List.Sublist.refl _

theorem plainText_eq_self_iff (cs : List Char) : plainText cs = cs ↔ ¬ HoldsEscape cs := by
  fun_induction plainText cs with
  | case1 cs ih =>
      refine iff_of_false ?_ (not_not.mpr ⟨[], cs, rfl⟩)
      intro heq
      have hlen := congrArg List.length heq
      have hle := (plainText_sublist cs).length_le
      simp only [List.length_cons] at hlen
      omega
  | case2 c cs hc ih =>
      have hhead : ¬ (c = '\\' ∧ cs.head? = some '[') := by
        rintro ⟨rfl, h⟩
        obtain ⟨after, rfl⟩ := List.head?_eq_some_iff.mp h
        exact hc after rfl rfl
      rw [holdsEscape_cons, List.cons.injEq, ih]
      simp [hhead]
  | case3 =>
      refine iff_of_true rfl ?_
      rintro ⟨before, after, h⟩
      simp at h

/-- What stands around a text is of no account if it has no brackets and no backslash before the
text. -/
theorem isUnmarked_append {pre post : List Char} (hopen : '[' ∉ pre) (hescape : '\\' ∉ pre)
    (hopen' : '[' ∉ post) (hclose : ']' ∉ post) (cs : List Char) :
    IsUnmarked (pre ++ cs ++ post) ↔ IsUnmarked cs := by
  constructor
  · rintro ⟨htag, hescaped⟩
    rw [holdsTag_append_of_not_mem_right hclose, holdsTag_append_of_not_mem hopen] at htag
    rw [holdsEscape_append_of_not_mem_right hopen', holdsEscape_append_of_not_mem hescape]
      at hescaped
    exact ⟨htag, hescaped⟩
  · rintro ⟨htag, hescaped⟩
    constructor
    · rwa [holdsTag_append_of_not_mem_right hclose, holdsTag_append_of_not_mem hopen]
    · rwa [holdsEscape_append_of_not_mem_right hopen', holdsEscape_append_of_not_mem hescape]

instance (cs : List Char) : Decidable (HoldsEscape cs) :=
  decidable_of_iff (plainText cs ≠ cs) (by rw [Ne, plainText_eq_self_iff, not_not])

instance (cs : List Char) : Decidable (IsUnmarked cs) :=
  decidable_of_iff (¬ HoldsTag cs ∧ ¬ HoldsEscape cs)
    ⟨fun h => ⟨h.1, h.2⟩, fun h => ⟨h.noTag, h.noEscape⟩⟩

/-! ## Parts -/

/-- The characters that a part adds to a text. -/
def MarkupPart.text : MarkupPart → List Char
  | .plain cs => shown (plainText cs)
  | .tag .. => []

/-- The characters that parts add to a text. -/
def partsText (parts : List MarkupPart) : List Char :=
  parts.flatMap (·.text)

@[simp] theorem partsText_nil : partsText [] = [] := by
  rfl

@[simp] theorem partsText_cons_plain (cs : List Char) (parts : List MarkupPart) :
    partsText (.plain cs :: parts) = shown (plainText cs) ++ partsText parts := by
  rfl

@[simp] theorem partsText_append (parts parts' : List MarkupPart) :
    partsText (parts ++ parts') = partsText parts ++ partsText parts' :=
  List.flatMap_append

@[simp] theorem partsText_tagOf (position : Nat) (body : List Char) :
    partsText [tagOf position body] = [] := by
  unfold tagOf
  split <;> rfl

theorem shown_plainText_sublist (cs : List Char) : (shown (plainText cs)).Sublist cs :=
  List.filter_sublist.trans (plainText_sublist cs)

/-- A tag takes its brackets or one of the backslashes before it out of the text. -/
theorem partsText_escapedTag (position escapes : Nat) (body : List Char) :
    (partsText (escapedTag position escapes body)).Sublist
        (List.replicate escapes '\\' ++ '[' :: body ++ [']']) ∧
      (partsText (escapedTag position escapes body)).length < escapes + body.length + 2 := by
  have hbackslashes : (shown (plainText (List.replicate (escapes / 2) '\\'))).Sublist
      (List.replicate (escapes / 2) '\\') := shown_plainText_sublist _
  have hhalf : (List.replicate (escapes / 2) '\\').Sublist (List.replicate escapes '\\') :=
    List.replicate_sublist_iff.mpr (by rw [List.count_replicate_self]; omega)
  have hfew := hbackslashes.length_le
  rw [List.length_replicate] at hfew
  rw [escapedTag]
  split_ifs with hodd
  · have htag := shown_plainText_sublist ('[' :: body ++ [']'])
    have hshort := htag.length_le
    simp only [List.length_append, List.length_cons, List.length_nil] at hshort
    simp only [partsText_cons_plain, partsText_nil, List.append_nil, List.length_append]
    exact ⟨by simpa using (hbackslashes.trans hhalf).append htag, by omega⟩
  · rw [partsText_cons_plain, partsText_tagOf, List.append_nil]
    have hnil := List.nil_sublist ('[' :: body ++ [']'])
    exact ⟨by simpa using (hbackslashes.trans hhalf).append hnil, by omega⟩

theorem markupParts_sublist (fuel position escapes : Nat) (pending cs : List Char) :
    (partsText (markupParts fuel position escapes pending cs)).Sublist
      (pending ++ List.replicate escapes '\\' ++ cs) := by
  fun_induction markupParts fuel position escapes pending cs with
  | case1 position escapes pending cs =>
      rw [partsText_cons_plain, partsText_nil, List.append_nil]
      exact (shown_plainText_sublist _).trans (List.sublist_append_left _ cs)
  | case2 fuel position escapes pending =>
      simpa using shown_plainText_sublist _
  | case3 fuel position escapes pending cs ih =>
      simpa [List.replicate_succ'] using ih
  | case4 fuel position escapes pending c cs hc body rest htag ih =>
      obtain ⟨d, body, rfl, hcs, -⟩ := tagAt?_eq_some_iff.mp htag
      rw [hcs]
      have htagged := (partsText_escapedTag (position - escapes) escapes (d :: body)).1
      simpa using (shown_plainText_sublist pending).append (htagged.append ih)
  | case5 fuel position escapes pending c cs hc htag ih =>
      simpa using ih

theorem markupParts_of_not_holdsTag {fuel position escapes : Nat} {pending cs : List Char}
    (hfuel : cs.length < fuel) (h : ¬ HoldsTag cs) :
    markupParts fuel position escapes pending cs =
      [.plain (pending ++ List.replicate escapes '\\' ++ cs)] := by
  fun_induction markupParts fuel position escapes pending cs with
  | case1 => omega
  | case2 => simp
  | case3 fuel position escapes pending cs ih =>
      rw [holdsTag_cons, not_or] at h
      rw [ih (by simpa using hfuel) h.2]
      simp [List.replicate_succ']
  | case4 fuel position escapes pending c cs hc body rest htag ih =>
      rw [holdsTag_cons, htag] at h
      simp at h
  | case5 fuel position escapes pending c cs hc htag ih =>
      rw [holdsTag_cons, not_or] at h
      rw [ih (by simpa using hfuel) h.2]
      simp

theorem HoldsTag.length_partsText_lt {fuel position escapes : Nat} {pending cs : List Char}
    (hfuel : cs.length < fuel) (h : HoldsTag cs) :
    (partsText (markupParts fuel position escapes pending cs)).length <
      pending.length + escapes + cs.length := by
  fun_induction markupParts fuel position escapes pending cs with
  | case1 => omega
  | case2 => exact absurd h not_holdsTag_nil
  | case3 fuel position escapes pending cs ih =>
      rw [holdsTag_cons, tagAt?_eq_none_of_ne (by decide)] at h
      have := ih (by simpa using hfuel) (by simpa using h)
      rw [List.length_cons]
      omega
  | case4 fuel position escapes pending c cs hc body rest htag ih =>
      obtain ⟨d, body, rfl, hcs, -⟩ := tagAt?_eq_some_iff.mp htag
      have hpending := (shown_plainText_sublist pending).length_le
      have htagged := (partsText_escapedTag (position - escapes) escapes (d :: body)).2
      have hrest :=
        (markupParts_sublist fuel (position + (d :: body).length + 2) 0 [] rest).length_le
      simp only [hcs, List.length_append, List.length_cons, partsText_append, partsText_cons_plain,
        List.length_nil, List.length_replicate] at *
      omega
  | case5 fuel position escapes pending c cs hc htag ih =>
      rw [holdsTag_cons, htag] at h
      have := ih (by simpa using hfuel) (by simpa using h)
      simp only [List.length_append, List.length_cons, List.length_nil, List.length_replicate]
        at this ⊢
      omega

/-! ## Whole texts -/

namespace MarkupState

theorem close_chars {m m' : MarkupState} {tag : OpenTag} (h : m.close tag = .ok m') :
    m'.chars = m.chars := by
  rw [close] at h
  obtain ⟨span, -, hm'⟩ := bind_eq_ok_iff.mp h
  cases hm'
  rfl

theorem tag_chars {m m' : MarkupState} {position : Nat} {name : List Char}
    {parameters : Option (List Char)} (h : m.tag position name parameters = .ok m') :
    m'.chars = m.chars := by
  unfold tag at h
  split at h
  · obtain ⟨normal, -, hm'⟩ := bind_eq_ok_iff.mp h
    cases hm'
    rfl
  · split at h
    · exact close_chars h
    · cases h
  · obtain ⟨normal, -, hfound⟩ := bind_eq_ok_iff.mp h
    split at hfound
    · exact close_chars hfound
    · cases hfound

theorem part_chars {m m' : MarkupState} {part : MarkupPart} (h : m.part part = .ok m') :
    m'.chars = m.chars ++ part.text := by
  cases part with
  | plain cs =>
      cases h
      rfl
  | tag position name parameters =>
      rw [MarkupPart.text, List.append_nil]
      exact tag_chars h

theorem foldlM_part_chars {parts : List MarkupPart} {m m' : MarkupState}
    (h : parts.foldlM (·.part) m = .ok m') : m'.chars = m.chars ++ partsText parts := by
  induction parts generalizing m with
  | nil =>
      cases h
      simp
  | cons part parts ih =>
      obtain ⟨next, hpart, hrest⟩ := bind_eq_ok_iff.mp h
      rw [ih hrest, part_chars hpart, List.append_assoc]
      rfl

end MarkupState

theorem markupText_of_not_holdsTag {cs : List Char} (h : ¬ HoldsTag cs) :
    markupText cs = .ok ⟨shown (plainText cs), []⟩ := by
  have hsorted : MarkupState.allSpans { chars := shown (plainText cs) } = [] :=
    List.mergeSort_nil
  rw [markupText, markupParts_of_not_holdsTag (Nat.lt_succ_self _) h]
  exact congrArg (fun spans => Except.ok (StyledText.mk (shown (plainText cs)) spans)) hsorted

theorem markupText_chars {cs : List Char} {t : StyledText} (h : markupText cs = .ok t) :
    t.chars = partsText (markupParts (cs.length + 1) 0 0 [] cs) := by
  obtain ⟨m, hfold, ht⟩ := bind_eq_ok_iff.mp h
  cases ht
  exact MarkupState.foldlM_part_chars hfold

theorem markupText_sublist {cs : List Char} {t : StyledText} (h : markupText cs = .ok t) :
    t.chars.Sublist cs := by
  rw [markupText_chars h]
  exact markupParts_sublist _ 0 0 [] cs

theorem shown_plainText {cs : List Char} (hshown : ∀ c ∈ cs, isHidden c = false) :
    shown (plainText cs) = plainText cs := by
  refine List.filter_eq_self.mpr fun c hc => ?_
  rw [hshown c ((plainText_sublist cs).subset hc)]
  rfl

theorem IsUnmarked.markupText_eq {cs : List Char} (h : IsUnmarked cs)
    (hshown : ∀ c ∈ cs, isHidden c = false) : markupText cs = .ok ⟨cs, []⟩ := by
  rw [markupText_of_not_holdsTag h.noTag, shown_plainText hshown,
    (plainText_eq_self_iff cs).mpr h.noEscape]

/-- **Markup keeps a text as it is** exactly if there is nothing in it to take out. -/
theorem markupText_verbatim_iff {cs : List Char} (hshown : ∀ c ∈ cs, isHidden c = false) :
    (∃ t, markupText cs = .ok t ∧ t.chars = cs) ↔ IsUnmarked cs := by
  constructor
  · rintro ⟨t, ht, hchars⟩
    by_cases htag : HoldsTag cs
    · have hlt : t.chars.length < 0 + 0 + cs.length := by
        rw [markupText_chars ht]
        exact htag.length_partsText_lt (Nat.lt_succ_self _)
      rw [hchars] at hlt
      omega
    · refine ⟨htag, (plainText_eq_self_iff cs).mp ?_⟩
      rw [markupText_of_not_holdsTag htag, shown_plainText hshown] at ht
      rw [← Except.ok.inj ht] at hchars
      exact hchars
  · exact fun h => ⟨_, h.markupText_eq hshown, rfl⟩

example : IsUnmarked "a[1].proto".toList ∧ ¬ IsUnmarked "[a].proto".toList := by decide

/-! ## Tags that close nothing -/

/-- The first tag of the text closes, and there is no backslash before it. -/
def ClosesFirst (cs : List Char) : Prop :=
  ∃ before body after, cs = before ++ '[' :: '/' :: (body ++ ']' :: after) ∧
    ¬ HoldsTag before ∧ before.getLast? ≠ some '\\' ∧ ∀ d ∈ body, isTagChar d = true

theorem ClosesFirst.append {pre cs : List Char} (hopen : '[' ∉ pre) (hescape : '\\' ∉ pre)
    (post : List Char) (h : ClosesFirst cs) : ClosesFirst (pre ++ cs ++ post) := by
  obtain ⟨before, body, after, rfl, hbefore, hlast, hbody⟩ := h
  refine ⟨pre ++ before, body, after ++ post, by simp, ?_, ?_, hbody⟩
  · rwa [holdsTag_append_of_not_mem hopen]
  · cases hend : before.getLast? with
    | none =>
        rw [List.getLast?_eq_none_iff.mp hend, List.append_nil]
        exact fun hpre => hescape (List.mem_of_getLast? hpre)
    | some c =>
        rw [List.getLast?_append, hend, Option.some_or]
        rwa [hend] at hlast

/-- Behind its first character a tag has no bracket that opens. -/
theorem bracket_not_mem_tag {c : Char} {body : List Char} (hc : isTagStart c = true)
    (hbody : ∀ d ∈ body, isTagChar d = true) : '[' ∉ c :: body ++ [']'] := by
  intro hmem
  rw [List.cons_append, List.mem_cons, List.mem_append, List.mem_singleton] at hmem
  rcases hmem with rfl | hmem | hmem
  · exact absurd hc (by decide)
  · exact absurd (hbody _ hmem) (by decide)
  · exact absurd hmem (by decide)

/-- A tag does not reach over a bracket that opens. -/
theorem tagAt?_append_eq_none {cs rest : List Char} (hne : cs ≠ []) (h : tagAt? cs = none) :
    tagAt? (cs ++ '[' :: rest) = none := by
  rw [Option.eq_none_iff_forall_ne_some]
  rintro ⟨name, after⟩ hsome
  obtain ⟨c, body, rfl, heq, hc, hbody⟩ := tagAt?_eq_some_iff.mp hsome
  have hsplit : cs ++ '[' :: rest = ('[' :: c :: body ++ [']']) ++ after := by
    rw [heq]
    simp
  rcases List.append_eq_append_iff.mp hsplit with ⟨left, htag, hrest⟩ | ⟨left, hcs, -⟩
  · cases left with
    | nil =>
        rw [List.append_nil] at htag
        have hwhole : tagAt? cs = some (c :: body, []) :=
          tagAt?_eq_some_iff.mpr ⟨c, body, rfl, by simp [← htag], hc, hbody⟩
        cases h.symm.trans hwhole
    | cons d left =>
        cases hrest
        obtain ⟨b, cs, rfl⟩ := List.exists_cons_of_ne_nil hne
        have htail : c :: body ++ [']'] = cs ++ '[' :: left := (List.cons.inj htag).2
        exact absurd (by rw [htail]; simp) (bracket_not_mem_tag hc hbody)
  · have hwithin : tagAt? cs = some (c :: body, left) :=
      tagAt?_eq_some_iff.mpr ⟨c, body, rfl, by rw [hcs]; simp, hc, hbody⟩
    cases h.symm.trans hwithin

/-- The parts of a text begin with plain text up to its first tag. -/
theorem exists_markupParts {fuel position escapes : Nat}
    {pending before rest body after : List Char}
    (hfuel : (before ++ '[' :: rest).length < fuel) (hbefore : ¬ HoldsTag before)
    (hlast : before.getLast? ≠ some '\\') (hescapes : escapes = 0 ∨ before ≠ [])
    (htag : tagAt? ('[' :: rest) = some (body, after)) :
    ∃ plain start parts, markupParts fuel position escapes pending (before ++ '[' :: rest) =
      .plain plain :: (escapedTag start 0 body ++ parts) := by
  -- Each character that is read uses up some fuel.
  obtain ⟨fuel, rfl⟩ := Nat.exists_eq_add_one.mpr (Nat.zero_lt_of_lt hfuel)
  induction before generalizing fuel position escapes pending with
  | nil =>
      obtain rfl | hne := hescapes
      · rw [List.nil_append, markupParts, if_neg (by decide), htag]
        exact ⟨_, _, _, rfl⟩
      · exact absurd rfl hne
  | cons c before ih =>
      rw [holdsTag_cons, not_or, Option.not_isSome_iff_eq_none] at hbefore
      have hlater : before.getLast? ≠ some '\\' := by
        intro h
        rw [List.getLast?_cons, h] at hlast
        exact hlast rfl
      have hlong : (before ++ '[' :: rest).length < fuel := by
        simpa only [List.cons_append, List.length_cons, Nat.add_lt_add_iff_right] using hfuel
      obtain ⟨fuel, rfl⟩ := Nat.exists_eq_add_one.mpr (Nat.zero_lt_of_lt hlong)
      rw [List.cons_append, markupParts]
      split_ifs with hc
      · have hne : before ≠ [] := by
          rintro rfl
          exact hlast (by rw [hc]; rfl)
        exact ih hbefore.2 hlater (.inr hne) fuel hlong
      · rw [← List.cons_append, tagAt?_append_eq_none (List.cons_ne_nil _ _) hbefore.1]
        exact ih hbefore.2 hlater (.inl rfl) fuel hlong

/-- Where no tag is open there is none to be closed. -/
theorem MarkupState.exists_error_of_closing {m : MarkupState} (hm : m.opened = [])
    {name style : List Char} (hname : closing? name = some style) (position : Nat)
    (parameters : Option (List Char)) : ∃ e, m.tag position name parameters = .error e := by
  rw [MarkupState.tag, hname]
  cases style with
  | nil => exact ⟨.nothingOpen position, by rw [hm]; rfl⟩
  | cons c style =>
      dsimp only
      rw [hm]
      cases Style.normalName (String.ofList (c :: style)) with
      | error e => exact ⟨.style e, rfl⟩
      | ok normal => exact ⟨.unmatched (tagText name parameters) position, rfl⟩

theorem exists_escapedTag_closing (start : Nat) (body : List Char) :
    ∃ name parameters, escapedTag start 0 ('/' :: body) =
      [.plain [], .tag start ('/' :: name) parameters] := by
  have hname : ∃ name parameters,
      tagOf start ('/' :: body) = .tag start ('/' :: name) parameters := by
    rw [tagOf]
    split <;> exact ⟨_, _, rfl⟩
  obtain ⟨name, parameters, hname⟩ := hname
  refine ⟨name, parameters, ?_⟩
  rw [← hname]
  rfl

/-- **A text whose first tag closes cannot be read.** -/
theorem ClosesFirst.exists_error {cs : List Char} (h : ClosesFirst cs) :
    ∃ e, markupText cs = .error e := by
  obtain ⟨before, body, after, rfl, hbefore, hlast, hbody⟩ := h
  have htag : tagAt? ('[' :: '/' :: (body ++ ']' :: after)) = some ('/' :: body, after) :=
    tagAt?_eq_some_iff.mpr ⟨'/', body, rfl, rfl, by decide, hbody⟩
  obtain ⟨plain, start, parts, hparts⟩ :=
    exists_markupParts (Nat.lt_succ_self _) hbefore hlast (.inl rfl) htag
  obtain ⟨name, parameters, hescaped⟩ := exists_escapedTag_closing start body
  -- No tag is open behind plain text.
  let m : MarkupState := { chars := shown (plainText plain) ++ shown (plainText []) }
  have hname : closing? ('/' :: name) = some (trim name) := rfl
  obtain ⟨e, he⟩ := MarkupState.exists_error_of_closing (m := m) rfl hname start parameters
  refine ⟨e, ?_⟩
  have hfold : (MarkupPart.plain plain :: (escapedTag start 0 ('/' :: body) ++ parts)).foldlM
      (·.part) ({} : MarkupState) = .error e := by
    rw [hescaped]
    exact bind_eq_error_iff.mpr (.inr ⟨_, rfl, bind_eq_error_iff.mpr (.inr ⟨_, rfl,
      bind_eq_error_iff.mpr (.inl he)⟩)⟩)
  rw [markupText, hparts, hfold]
  rfl

end LintRelay.Console
