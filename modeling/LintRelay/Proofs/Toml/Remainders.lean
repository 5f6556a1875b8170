import LintRelay.Proofs.Text.Remainders
import LintRelay.Toml.Reader

/-!
# What readers of TOML leave

A reader takes something from the start of a text, so what it leaves is an end of that
text. That is what carries a failure from the place where it happens to the whole: a
numeral that is refused has all its digits in the text, and a reader that goes down too
far has an opening bracket or brace there for every list and table that it is in.
-/

namespace LintRelay.Toml

open LintRelay LintRelay.Decimal
open LintRelay.Text (leaves_pure leaves_consed suffix_of_some suffix_of_bind getD_suffix)

/-- The levels that a reader would go down if every opening bracket and brace of a text
were inside those before it. -/
def openings (cs : List Char) : Nat :=
  2 * cs.count '[' + 3 * cs.count '{'

/-- What a failure says about a text and the levels that there are for it. -/
def ReadError.ArisesIn (room : Nat) (cs : List Char) : ReadError → Prop
  | .malformed => True
  | .oversized numeral =>
    maxDigits < numeral.digits ∧ numeral.digits ≤ cs.countP Char.isDigit
  | .tooDeep => room < openings cs

/-- How a reader with so much room may come out of a text; `rest` is what it leaves. -/
abbrev Leaves {α : Type} (room : Nat) (cs : List Char) (rest : α → List Char) :
    Except ReadError α → Prop :=
  Text.Leaves (ReadError.ArisesIn room) cs rest

variable {α β : Type} {room : Nat} {cs ds : List Char} {rest : α → List Char}
  {left : β → List Char}

theorem openings_le (h : cs.Sublist ds) : openings cs ≤ openings ds := by
  have hlist := h.count_le '['
  have htable := h.count_le '{'
  simp only [openings]
  omega

theorem openings_bracket (cs : List Char) : openings ('[' :: cs) = 2 + openings cs := by
  rw [openings, openings, List.count_cons_self, List.count_cons_of_ne (by decide)]
  omega

theorem openings_brace (cs : List Char) : openings ('{' :: cs) = 3 + openings cs := by
  rw [openings, openings, List.count_cons_self, List.count_cons_of_ne (by decide)]
  omega

/-- A failure on a part of a text is one on the text. -/
theorem ReadError.ArisesIn.mono {e : ReadError} (h : e.ArisesIn room cs)
    (hpart : cs.Sublist ds) : e.ArisesIn room ds := by
  cases e with
  | malformed => trivial
  | oversized numeral => exact ⟨h.1, Nat.le_trans h.2 hpart.countP_le⟩
  | tooDeep => exact Nat.lt_of_lt_of_le h (openings_le hpart)

theorem leaves_malformed : Leaves room cs rest malformed :=
  trivial

instance : Text.Carried (ReadError.ArisesIn room) :=
  ⟨fun h hends => h.mono hends.sublist⟩

/-! ## Blanks and comments -/

theorem skipSpace_suffix (cs : List Char) : skipSpace cs <:+ cs :=
  List.dropWhile_suffix _

theorem skipComment_leaves (cs : List Char) : Leaves room cs id (skipComment cs) := by
  unfold skipComment
  split
  · split
    · exact leaves_malformed
    · exact (List.dropWhile_suffix _).trans (List.suffix_cons ..)
  · exact List.suffix_rfl

theorem skipFiller_leaves (fuel : Nat) (cs : List Char) :
    Leaves room cs id (skipFiller fuel cs) := by
  induction fuel generalizing cs with
  | zero => exact List.suffix_rfl
  | succ fuel ih =>
    have hends : cs.dropWhile isSpaceOrFeed <:+ cs := List.dropWhile_suffix _
    rw [skipFiller]
    split
    · rename_i heq
      rw [heq] at hends
      exact ((skipComment_leaves _).bind fun a _ => ih a).mono hends
    · exact hends

/-! ## Strings and keys -/

theorem codePoint_leaves (count : Nat) (cs : List Char) :
    Leaves room cs Prod.snd (codePoint count cs) := by
  unfold codePoint
  split
  · split
    · exact List.drop_suffix ..
    · exact leaves_malformed
  · exact leaves_malformed

theorem escape_leaves (cs : List Char) : Leaves room cs Prod.snd (escape cs) := by
  unfold escape
  split
  · exact (codePoint_leaves ..).mono (List.suffix_cons ..)
  · exact (codePoint_leaves ..).mono (List.suffix_cons ..)
  · split
    · exact List.suffix_cons ..
    · exact leaves_malformed
  · exact leaves_malformed

theorem continuation_suffix (h : continuation? cs = some ds) : ds <:+ cs := by
  have hends := skipSpace_suffix cs
  unfold continuation? at h
  split at h
  · injection h with h
    exact h ▸ List.nil_suffix
  · rename_i heq
    injection h with h
    rw [heq] at hends
    exact h ▸ ((List.dropWhile_suffix _).trans (List.suffix_cons ..)).trans hends
  · cases h

theorem basicBody_leaves (fuel : Nat) (cs : List Char) :
    Leaves room cs Prod.snd (basicBody fuel cs) := by
  fun_induction basicBody fuel cs with
  | case1 => exact leaves_malformed
  | case2 => exact leaves_malformed
  | case3 => exact List.suffix_cons ..
  | case4 fuel rest ih =>
    refine ((escape_leaves rest).bind fun a _ => ?_).mono (List.suffix_cons ..)
    exact leaves_consed _ (ih _)
  | case5 => exact leaves_malformed
  | case6 fuel c rest _ _ _ ih => exact (leaves_consed c ih).mono (List.suffix_cons ..)

theorem multilineBody_leaves (fuel : Nat) (cs : List Char) :
    Leaves room cs Prod.snd (multilineBody fuel cs) := by
  fun_induction multilineBody fuel cs with
  | case1 => exact leaves_malformed
  | case2 => exact leaves_malformed
  | case3 fuel rest => exact (List.suffix_append ['"', '"', '"'] rest)
  | case4 fuel c rest _ after hcontinued ih =>
    exact ih.mono ((continuation_suffix hcontinued).trans (List.suffix_cons ..))
  | case5 => exact leaves_malformed
  | case6 fuel c rest _ ih =>
    refine ((escape_leaves (c :: rest)).bind fun a _ => ?_).mono (List.suffix_cons ..)
    exact leaves_consed _ (ih _)
  | case7 => exact leaves_malformed
  | case8 fuel c rest _ _ _ ih => exact (leaves_consed c ih).mono (List.suffix_cons ..)

theorem multilineLiteral_leaves (cs : List Char) :
    Leaves room cs Prod.snd (multilineLiteral cs) := by
  fun_induction multilineLiteral cs with
  | case1 => exact leaves_malformed
  | case2 rest => exact (List.suffix_append ['\'', '\'', '\''] rest)
  | case3 => exact leaves_malformed
  | case4 c rest _ _ ih => exact (leaves_consed c ih).mono (List.suffix_cons ..)

theorem literal_leaves (cs : List Char) : Leaves room cs Prod.snd (literal cs) := by
  have hends : cs.dropWhile (· ≠ '\'') <:+ cs := List.dropWhile_suffix _
  unfold literal
  split
  · rename_i heq
    rw [heq] at hends
    dsimp only
    split
    · exact leaves_malformed
    · exact (List.suffix_cons ..).trans hends
  · exact leaves_malformed

theorem dropFeed_suffix (cs : List Char) : dropFeed cs <:+ cs := by
  unfold dropFeed
  split
  · exact List.suffix_cons ..
  · exact List.suffix_rfl

theorem string_leaves (cs : List Char) : Leaves room cs Prod.snd (string cs) := by
  unfold string
  split
  · rename_i rest
    refine ((multilineBody_leaves _ _).bind fun _ _ => ?_).mono
      ((dropFeed_suffix rest).trans (List.suffix_append ['"', '"', '"'] rest))
    exact leaves_pure (List.drop_suffix ..)
  · refine ((basicBody_leaves _ _).bind fun _ _ => ?_).mono (List.suffix_cons ..)
    exact leaves_pure List.suffix_rfl
  · rename_i rest
    refine ((multilineLiteral_leaves _).bind fun _ _ => ?_).mono
      ((dropFeed_suffix rest).trans (List.suffix_append ['\'', '\'', '\''] rest))
    exact leaves_pure (List.drop_suffix ..)
  · exact (literal_leaves _).mono (List.suffix_cons ..)
  · exact leaves_malformed

theorem keyPart_leaves (cs : List Char) : Leaves room cs Prod.snd (keyPart cs) := by
  unfold keyPart
  split
  · refine ((basicBody_leaves _ _).bind fun _ _ => ?_).mono (List.suffix_cons ..)
    exact leaves_pure List.suffix_rfl
  · exact (literal_leaves _).mono (List.suffix_cons ..)
  · dsimp only
    split
    · exact leaves_malformed
    · exact List.dropWhile_suffix _

theorem key_leaves (fuel : Nat) (cs : List Char) : Leaves room cs Prod.snd (key fuel cs) := by
  induction fuel generalizing cs with
  | zero => exact leaves_malformed
  | succ fuel ih =>
    rw [key]
    refine (keyPart_leaves cs).bind fun a _ => ?_
    obtain ⟨part, rest⟩ := a
    refine Text.Leaves.mono ?_ (skipSpace_suffix rest)
    dsimp only
    split
    · rename_i more heq
      rw [heq]
      refine (((ih _).mono (skipSpace_suffix more)).mono (List.suffix_cons ..)).bind fun _ _ => ?_
      exact leaves_pure List.suffix_rfl
    · exact leaves_pure List.suffix_rfl

/-! ## Numbers, dates and times -/

theorem leaves_of_bind (rest : α → List Char) {r : Option α}
    {f : α → Option (Except ReadError β)} (h : ∀ a ∈ r, rest a <:+ cs)
    (hf : ∀ a, ∀ b ∈ f a, Leaves room (rest a) left b) :
    ∀ b ∈ r >>= f, Leaves room cs left b := by
  intro b hb
  obtain ⟨a, ha, hb⟩ := Option.mem_bind_iff.1 hb
  exact (hf a b hb).mono (h a ha)

/-- Digits that are read together stand in the text. -/
theorem groupedDigits_spec {isDigit : Char → Bool} {digits after : List Char}
    (h : groupedDigits isDigit cs = some (digits, after)) :
    after <:+ cs ∧ digits.length ≤ cs.countP isDigit := by
  fun_induction groupedDigits isDigit cs generalizing digits after with
  | case1 c hc more digits' after' hmore ih =>
    obtain ⟨rfl, rfl⟩ : c :: digits' = digits ∧ after' = after := by simpa using h
    obtain ⟨hends, hcount⟩ := ih hmore
    refine ⟨hends.trans (List.suffix_append [c, '_'] more), ?_⟩
    rw [List.length_cons, List.countP_cons_of_pos hc, List.countP_cons]
    omega
  | case2 c hc more _ _ =>
    obtain ⟨rfl, rfl⟩ : [c] = digits ∧ '_' :: more = after := by simpa using h
    exact ⟨List.suffix_cons .., by simp [hc]⟩
  | case3 c hc more _ digits' after' hmore ih =>
    obtain ⟨rfl, rfl⟩ : c :: digits' = digits ∧ after' = after := by simpa using h
    obtain ⟨hends, hcount⟩ := ih hmore
    refine ⟨hends.trans (List.suffix_cons ..), ?_⟩
    rw [List.length_cons, List.countP_cons_of_pos hc]
    omega
  | case4 c hc more _ _ _ =>
    obtain ⟨rfl, rfl⟩ : [c] = digits ∧ more = after := by simpa using h
    exact ⟨List.suffix_cons .., by simp [hc]⟩
  | case5 => cases h
  | case6 => cases h

theorem wholeDigits_spec {digits after : List Char}
    (h : wholeDigits? cs = some (digits, after)) :
    after <:+ cs ∧ digits.length ≤ cs.countP Char.isDigit := by
  unfold wholeDigits? at h
  split at h
  · rename_i rest
    obtain ⟨rfl, rfl⟩ : ['0'] = digits ∧ rest = after := by simpa using h
    exact ⟨List.suffix_cons .., by simp⟩
  · exact groupedDigits_spec h

theorem groupedDigits_suffix (isDigit : Char → Bool) (cs : List Char) :
    ∀ a ∈ groupedDigits isDigit cs, a.2 <:+ cs :=
  fun _ h => (groupedDigits_spec h).1

theorem sign_suffix (cs : List Char) : (sign cs).2 <:+ cs := by
  unfold sign
  split
  · exact List.suffix_cons ..
  · exact List.suffix_cons ..
  · exact List.suffix_rfl

theorem basedNumber_suffix (cs : List Char) : ∀ a ∈ basedNumber? cs, a.2 <:+ cs := by
  unfold basedNumber?
  split
  · rename_i letter after
    refine suffix_of_bind (fun _ => after)
      (fun _ _ => List.suffix_append ['0', letter] after) fun base => ?_
    refine suffix_of_bind Prod.snd (groupedDigits_suffix _ _) fun a => ?_
    simp
  · simp

theorem fraction_suffix (cs : List Char) : ∀ a ∈ fraction? cs, a.2 <:+ cs := by
  unfold fraction?
  split
  · exact fun a ha => (groupedDigits_suffix _ _ a ha).trans (List.suffix_cons ..)
  · simp

theorem power_suffix (cs : List Char) : ∀ a ∈ power? cs, a.2 <:+ cs := by
  unfold power?
  split
  · rename_i c after
    split
    · refine suffix_of_bind Prod.snd ?_ fun a => by simp
      exact fun a ha => ((groupedDigits_suffix _ _ a ha).trans (sign_suffix _)).trans
        (List.suffix_cons ..)
    · simp
  · simp

theorem decimalNumber_leaves (cs : List Char) :
    ∀ r ∈ decimalNumber? cs, Leaves room cs Prod.snd r := by
  intro r hr
  unfold decimalNumber? at hr
  obtain ⟨⟨whole, after⟩, hwhole, hr⟩ := Option.mem_bind_iff.1 hr
  obtain ⟨hends, hcount⟩ := wholeDigits_spec hwhole
  refine Text.Leaves.mono ?_ (sign_suffix cs)
  dsimp only at hr
  split at hr
  · split at hr
    · rename_i heq
      obtain rfl := Option.some.inj hr
      obtain ⟨hlong, hdigits⟩ := digits_of_oversized heq
      exact ⟨hdigits ▸ hlong, hdigits ▸ hcount⟩
    · obtain rfl := Option.some.inj hr
      exact hends
  · obtain rfl := Option.some.inj hr
    have hfraction := getD_suffix (fraction_suffix after)
    exact ((getD_suffix (power_suffix _)).trans hfraction).trans hends

theorem namedFloat_suffix (cs : List Char) : ∀ a ∈ namedFloat? cs, a.2 <:+ cs := by
  have hsign := sign_suffix cs
  unfold namedFloat?
  dsimp only
  split
  · rename_i after heq
    rw [heq] at hsign
    exact suffix_of_some ((List.suffix_append ['i', 'n', 'f'] after).trans hsign)
  · rename_i after heq
    rw [heq] at hsign
    exact suffix_of_some ((List.suffix_append ['n', 'a', 'n'] after).trans hsign)
  · simp

theorem fixedNumber_suffix (count low high : Nat) (cs : List Char) :
    ∀ a ∈ fixedNumber? count low high cs, a.2 <:+ cs := by
  unfold fixedNumber?
  dsimp only
  split
  · exact suffix_of_some (List.drop_suffix ..)
  · simp

theorem drop_suffix (c : Char) (cs : List Char) : ∀ a ∈ drop? c cs, a <:+ cs := by
  unfold drop?
  split
  · split
    · exact suffix_of_some (List.suffix_cons ..)
    · simp
  · simp

theorem suffix_of_marked (c : Char) (count low high : Nat) {f : Nat × List Char → Option β}
    (hf : ∀ a, ∀ b ∈ f a, left b <:+ a.2) :
    ∀ b ∈ (do f (← fixedNumber? count low high (← drop? c cs))), left b <:+ cs :=
  suffix_of_bind id (drop_suffix c cs) fun after =>
    suffix_of_bind Prod.snd (fixedNumber_suffix count low high after) hf

theorem time_suffix (cs : List Char) : ∀ a ∈ time? cs, a.2 <:+ cs := by
  unfold time?
  refine suffix_of_bind Prod.snd (fixedNumber_suffix _ _ _ _) fun hour => ?_
  refine suffix_of_marked ':' 2 0 59 fun minute => ?_
  refine suffix_of_marked ':' 2 0 59 fun second => ?_
  refine suffix_of_some ?_
  dsimp only
  split
  · rename_i more heq
    rw [heq]
    split
    · exact (List.dropWhile_suffix _).trans (List.suffix_cons ..)
    · exact List.suffix_rfl
  · exact List.suffix_rfl

theorem offset_suffix (cs : List Char) : ∀ a ∈ offset? cs, a.2 <:+ cs := by
  unfold offset?
  split
  · rename_i c after
    split
    · exact suffix_of_some (List.suffix_cons ..)
    · split
      · refine suffix_of_bind Prod.snd (fun a ha => ?_) fun hour => ?_
        · exact (fixedNumber_suffix _ _ _ _ a ha).trans (List.suffix_cons ..)
        · refine suffix_of_marked ':' 2 0 59 fun minute => ?_
          simp
      · simp
  · simp

theorem timeAfterDate_suffix (cs : List Char) : ∀ a ∈ timeAfterDate? cs, a.2 <:+ cs := by
  unfold timeAfterDate?
  split
  · rename_i c after
    split
    · refine suffix_of_bind Prod.snd (fun a ha => ?_) fun time => ?_
      · exact (time_suffix _ a ha).trans (List.suffix_cons ..)
      · have hoffset := offset_suffix time.2
        dsimp only
        split
        · rename_i offset after heq
          exact suffix_of_some (hoffset (offset, after) heq)
        · exact suffix_of_some List.suffix_rfl
    · simp
  · simp

theorem leaves_of_marked (c : Char) (count low high : Nat)
    {f : Nat × List Char → Option (Except ReadError β)}
    (hf : ∀ a, ∀ b ∈ f a, Leaves room a.2 left b) :
    ∀ b ∈ (do f (← fixedNumber? count low high (← drop? c cs))), Leaves room cs left b :=
  leaves_of_bind id (drop_suffix c cs) fun after =>
    leaves_of_bind Prod.snd (fixedNumber_suffix count low high after) hf

theorem dateTime_leaves (cs : List Char) :
    ∀ r ∈ dateTime? cs, Leaves room cs Prod.snd r := by
  unfold dateTime?
  refine leaves_of_bind Prod.snd (fixedNumber_suffix _ _ _ _) fun year => ?_
  refine leaves_of_marked '-' 2 1 12 fun month => ?_
  refine leaves_of_marked '-' 2 1 31 fun day => ?_
  have htime := timeAfterDate_suffix day.2
  intro r hr
  dsimp only at hr
  split at hr
  · obtain rfl := Option.some.inj hr
    exact leaves_malformed
  · split at hr
    · rename_i time after heq
      obtain rfl := Option.some.inj hr
      exact htime (time, after) heq
    · obtain rfl := Option.some.inj hr
      exact List.suffix_rfl

theorem scalar_leaves (cs : List Char) : Leaves room cs Prod.snd (scalar cs) := by
  unfold scalar
  split
  · rename_i after
    exact List.suffix_append ['t', 'r', 'u', 'e'] after
  · rename_i after
    exact List.suffix_append ['f', 'a', 'l', 's', 'e'] after
  · split
    · rename_i heq
      exact dateTime_leaves _ _ heq
    · split
      · rename_i heq
        exact time_suffix _ _ heq
      · split
        · rename_i heq
          exact basedNumber_suffix _ _ heq
        · split
          · rename_i heq
            exact decimalNumber_leaves _ _ heq
          · split
            · rename_i heq
              exact namedFloat_suffix _ _ heq
            · exact leaves_malformed

/-! ## Values -/

theorem addInline_leaves (closed : List Key) (entries : Entries) (k : Key) (v : Value)
    (cs : List Char) : Leaves room cs (fun _ => cs) (addInline closed entries k v) := by
  unfold addInline
  split
  · exact leaves_malformed
  · split
    · exact List.suffix_rfl
    · exact leaves_malformed

/-- An opening character takes levels from what is below it. -/
theorem leaves_of_opening {c : Char} {n : Nat} {r : Except ReadError α}
    (hc : openings (c :: cs) = n + openings cs) (hroom : n ≤ room)
    (h : Leaves (room - n) cs rest r) : Leaves room (c :: cs) rest r := by
  have hends : cs <:+ c :: cs := List.suffix_cons ..
  match r, h with
  | .ok _, h => exact h.trans hends
  | .error .malformed, _ => exact trivial
  | .error (.oversized _), h => exact ⟨h.1, Nat.le_trans h.2 hends.sublist.countP_le⟩
  | .error .tooDeep, h =>
    change room - n < openings cs at h
    change room < openings (c :: cs)
    omega

/-- What the readers of values leave that have so much fuel. They call each other, so the
four are followed together, by the fuel. -/
structure ValuesLeave (fuel : Nat) : Prop where
  value : ∀ room cs, Leaves room cs Prod.snd (value fuel room cs)
  items : ∀ room cs, Leaves room cs Prod.snd (items fuel room cs)
  inlineEntries : ∀ room closed before cs,
    Leaves room cs Prod.snd (inlineEntries fuel room closed before cs)
  assignment : ∀ room cs, Leaves room cs (·.2.2) (assignment fuel room cs)

namespace ValuesLeave

variable {fuel : Nat}

/-- Without fuel every text is malformed. -/
theorem zero : ValuesLeave 0 where
  value _ _ := by
    rw [Toml.value]
    exact leaves_malformed
  items _ _ := by
    rw [Toml.items]
    exact leaves_malformed
  inlineEntries _ _ _ _ := by
    rw [Toml.inlineEntries]
    exact leaves_malformed
  assignment _ _ := by
    rw [Toml.assignment]
    exact leaves_malformed

/-- A list or a table takes its levels and leaves the others to what is in it. -/
theorem value_succ (h : ValuesLeave fuel) (room : Nat) (cs : List Char) :
    Leaves room cs Prod.snd (Toml.value (fuel + 1) room cs) := by
  generalize hfuel : fuel + 1 = n
  fun_cases Toml.value n room cs with
  | case1 => exact leaves_malformed
  | case2 _ _ inner hroom =>
    exact Nat.lt_of_lt_of_le hroom (openings_bracket inner ▸ Nat.le_add_right ..)
  | case3 _ _ inner hroom =>
    obtain rfl := Nat.succ.inj hfuel
    -- below the bracket there are two levels less, and the text has one bracket less
    refine leaves_of_opening (openings_bracket inner) (Nat.le_of_not_lt hroom) ?_
    refine (skipFiller_leaves fuel inner).bind fun after _ => ?_
    split
    · exact leaves_pure (List.suffix_cons ..)
    · exact (h.items _ _).bind fun _ _ => leaves_pure List.suffix_rfl
  | case4 _ _ inner hroom =>
    exact Nat.lt_of_lt_of_le hroom (openings_brace inner ▸ Nat.le_add_right ..)
  | case5 _ _ inner _ after heq =>
    have hends := skipSpace_suffix inner
    rw [heq] at hends
    exact ((List.suffix_cons ..).trans hends).trans (List.suffix_cons ..)
  | case6 _ _ inner hroom =>
    obtain rfl := Nat.succ.inj hfuel
    refine leaves_of_opening (openings_brace inner) (Nat.le_of_not_lt hroom) ?_
    refine ((h.inlineEntries _ _ _ _).mono (skipSpace_suffix inner)).bind fun _ _ => ?_
    exact leaves_pure List.suffix_rfl
  | case7 => exact (string_leaves _).bind fun _ _ => leaves_pure List.suffix_rfl
  | case8 => exact (string_leaves _).bind fun _ _ => leaves_pure List.suffix_rfl
  | case9 => exact scalar_leaves cs

theorem items_succ (h : ValuesLeave fuel) (room : Nat) (cs : List Char) :
    Leaves room cs Prod.snd (Toml.items (fuel + 1) room cs) := by
  rw [Toml.items]
  refine (h.value room cs).bind fun a _ => ?_
  refine (skipFiller_leaves fuel a.2).bind fun after _ => ?_
  split
  · exact leaves_pure (List.suffix_cons ..)
  · rename_i more _
    refine Text.Leaves.mono ?_ (List.suffix_cons ..)
    refine (skipFiller_leaves fuel more).bind fun inner _ => ?_
    split
    · exact leaves_pure (List.suffix_cons ..)
    · exact (h.items _ _).bind fun _ _ => leaves_pure List.suffix_rfl
  · exact leaves_malformed

theorem inlineEntries_succ (h : ValuesLeave fuel) (room : Nat) (closed : List Key)
    (before : Entries) (cs : List Char) :
    Leaves room cs Prod.snd (Toml.inlineEntries (fuel + 1) room closed before cs) := by
  rw [Toml.inlineEntries]
  refine (h.assignment room cs).bind fun a _ => ?_
  obtain ⟨k, v, after⟩ := a
  refine (addInline_leaves closed before k v after).bind fun entries _ => ?_
  refine Text.Leaves.mono ?_ (skipSpace_suffix after)
  split
  · rename_i heq
    rw [heq]
    exact leaves_pure (List.suffix_cons ..)
  · rename_i more heq
    rw [heq]
    exact ((h.inlineEntries _ _ _ _).mono (skipSpace_suffix more)).mono (List.suffix_cons ..)
  · exact leaves_malformed

theorem assignment_succ (h : ValuesLeave fuel) (room : Nat) (cs : List Char) :
    Leaves room cs (·.2.2) (Toml.assignment (fuel + 1) room cs) := by
  rw [Toml.assignment]
  refine (key_leaves fuel cs).bind fun a _ => ?_
  obtain ⟨k, after⟩ := a
  dsimp only
  split
  · rename_i more _
    refine (((h.value _ _).mono (skipSpace_suffix more)).bind fun _ _ => ?_).mono
      (List.suffix_cons ..)
    exact leaves_pure List.suffix_rfl
  · exact leaves_malformed

theorem succ (h : ValuesLeave fuel) : ValuesLeave (fuel + 1) where
  value := h.value_succ
  items := h.items_succ
  inlineEntries := h.inlineEntries_succ
  assignment := h.assignment_succ

end ValuesLeave

theorem valuesLeave (fuel : Nat) : ValuesLeave fuel := by
  induction fuel with
  | zero => exact .zero
  | succ fuel ih => exact ih.succ

/-! ## Statements and texts -/

theorem dropMark_leaves (mark cs : List Char) : Leaves room cs id (dropMark mark cs) := by
  unfold dropMark
  split
  · exact List.drop_suffix ..
  · exact leaves_malformed

theorem statement_leaves (fuel room : Nat) (cs : List Char) :
    Leaves room cs Prod.snd (statement fuel room cs) := by
  unfold statement
  split
  · rename_i header
    refine Text.Leaves.mono ?_
      ((skipSpace_suffix header).trans (List.suffix_append ['[', '['] header))
    refine (key_leaves fuel _).bind fun a _ => ?_
    exact (dropMark_leaves _ _).bind fun _ _ => leaves_pure List.suffix_rfl
  · rename_i header _
    refine Text.Leaves.mono ?_
      ((skipSpace_suffix header).trans (List.suffix_cons ..))
    refine (key_leaves fuel _).bind fun a _ => ?_
    exact (dropMark_leaves _ _).bind fun _ _ => leaves_pure List.suffix_rfl
  · split
    · refine ((valuesLeave fuel).assignment room _).bind fun _ _ => ?_
      exact leaves_pure List.suffix_rfl
    · split
      · exact List.suffix_rfl
      · exact leaves_malformed
  · exact List.suffix_rfl

theorem line_leaves (fuel room : Nat) (cs : List Char) :
    Leaves room cs (fun a => a.2.getD []) (line fuel room cs) := by
  unfold line
  refine Text.Leaves.mono ?_ (skipSpace_suffix cs)
  refine (statement_leaves fuel room _).bind fun a _ => ?_
  obtain ⟨found, after⟩ := a
  refine Text.Leaves.mono ?_ (skipSpace_suffix after)
  refine (skipComment_leaves _).bind fun ending _ => ?_
  split
  · exact leaves_pure List.nil_suffix
  · exact leaves_pure (List.suffix_cons ..)
  · exact leaves_malformed

/-- A fault among the statements of a text is one that a reader comes out with. -/
theorem statements_fault (room fuel : Nat) (cs : List Char) {e : ReadError}
    (h : (statements room fuel cs).2 = some e) : e.ArisesIn room cs := by
  induction fuel generalizing cs with
  | zero =>
    obtain rfl := Option.some.inj h
    exact trivial
  | succ fuel ih =>
    have hline := line_leaves (2 * cs.length + 4) room cs
    rw [statements] at h
    split at h
    · rename_i heq
      rw [heq] at hline
      obtain rfl := Option.some.inj h
      exact hline
    · cases h
    · rename_i more heq
      rw [heq] at hline
      exact (ih more h).mono hline.sublist

theorem uniformFeeds_sublist (cs : List Char) : (uniformFeeds cs).Sublist cs := by
  fun_induction uniformFeeds cs with
  | case1 rest ih => exact (ih.cons_cons _).cons _
  | case2 c rest _ ih => exact ih.cons_cons _
  | case3 => exact List.Sublist.slnil

/-- A text is refused for its length or depth only if it has the digits or the opening
brackets and braces for that. -/
theorem read_error {text : List Char} {e : ReadError} (h : Toml.read room text = .error e) :
    e.ArisesIn room text := by
  have hpart := uniformFeeds_sublist text
  unfold Toml.read at h
  dsimp only at h
  split at h
  · cases h
    exact trivial
  · split at h
    · rename_i heq
      cases h
      exact (statements_fault _ _ _ heq).mono hpart
    · cases h

end LintRelay.Toml
