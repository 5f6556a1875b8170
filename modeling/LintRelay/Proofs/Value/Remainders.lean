import LintRelay.Proofs.Text.Remainders
import LintRelay.Value.JsonReader
import Mathlib.Data.List.TakeWhile

/-!
# What readers of JSON leave

A document is refused as malformed, for a numeral that is too long, or for brackets that are too
deep in each other. The last two say something of the text: it has that many digits in a row, or
more opening brackets than there is room for.
-/

namespace LintRelay.Json

open LintRelay LintRelay.Decimal
open LintRelay.Text (Symbol leaves_pure leaves_consed suffix_of_some suffix_of_bind getD_suffix)

/-- The levels that a reader would go down if every opening bracket of a text were inside those
before it. -/
def openings (symbols : List Symbol) : Nat :=
  symbols.count (.char '[') + symbols.count (.char '{')

/-- So many digits in a row. -/
def HasDigits (n : Nat) (symbols : List Symbol) : Prop :=
  ∃ digits : List Char, digits.map .char <:+: symbols ∧ (∀ d ∈ digits, d.isDigit) ∧
    digits.length = n

/-- What a failure says about a text and the room that there is for brackets in it. -/
def ReadError.ArisesIn (room : Nat) (symbols : List Symbol) : ReadError → Prop
  | .malformed => True
  | .oversized numeral => maxDigits < numeral.digits ∧ HasDigits numeral.digits symbols
  | .tooDeep _ => room < openings symbols

/-- How a reader with so much room may come out of a text; `rest` is what it leaves. -/
abbrev Leaves {α : Type} (room : Nat) (symbols : List Symbol) (rest : α → List Symbol) :
    Except ReadError α → Prop :=
  Text.Leaves (ReadError.ArisesIn room) symbols rest

variable {α : Type} {room : Nat} {symbols more : List Symbol} {cs : List Char}
  {left : α → List Symbol}

theorem openings_le (h : symbols.Sublist more) : openings symbols ≤ openings more :=
  Nat.add_le_add (h.count_le _) (h.count_le _)

theorem openings_bracket (symbols : List Symbol) :
    openings (.char '[' :: symbols) = 1 + openings symbols := by
  rw [openings, openings, List.count_cons_self, List.count_cons_of_ne (by decide)]
  omega

theorem openings_brace (symbols : List Symbol) :
    openings (.char '{' :: symbols) = 1 + openings symbols := by
  rw [openings, openings, List.count_cons_self, List.count_cons_of_ne (by decide)]
  omega

/-- A failure on a part of a text is one on the text. -/
theorem ReadError.ArisesIn.mono {e : ReadError} (h : e.ArisesIn room symbols)
    (hpart : symbols <:+: more) : e.ArisesIn room more := by
  cases e with
  | malformed => trivial
  | oversized numeral =>
      obtain ⟨hlong, digits, hdigits, hall, hlength⟩ := h
      exact ⟨hlong, digits, hdigits.trans hpart, hall, hlength⟩
  | tooDeep _ => exact Nat.lt_of_lt_of_le h (openings_le hpart.sublist)

instance : Text.Carried (ReadError.ArisesIn room) :=
  ⟨fun h hends => h.mono hends.isInfix⟩

theorem leaves_malformed : Leaves room symbols left (.error .malformed) :=
  trivial

theorem skipSpace_suffix (symbols : List Symbol) : skipSpace symbols <:+ symbols :=
  List.dropWhile_suffix _

theorem suffix_of_skipSpace {symbol : Symbol} (h : skipSpace symbols = symbol :: more) :
    more <:+ symbols := by
  have hends := skipSpace_suffix symbols
  rw [h] at hends
  exact (List.suffix_cons ..).trans hends

/-! ## Strings -/

theorem unit_suffix (symbols : List Symbol) : ∀ a ∈ unit? symbols, a.2 <:+ symbols := by
  unfold unit?
  split
  · rename_i a b c d after
    have hends : after <:+ .char a :: .char b :: .char c :: .char d :: after :=
      List.suffix_append [Symbol.char a, Symbol.char b, Symbol.char c, Symbol.char d] after
    simp only [Option.bind_eq_bind, Option.mem_def, Option.bind_eq_some_iff]
    rintro _ ⟨_, -, _, -, _, -, _, -, ⟨⟩⟩
    exact hends
  · simp

/-- The second unit of a pair is taken with the first one, or left. -/
theorem unitSymbol_suffix (symbols : List Symbol) :
    ∀ a ∈ unitSymbol? symbols, a.2 <:+ symbols := by
  unfold unitSymbol?
  refine suffix_of_bind Prod.snd (unit_suffix symbols) fun a => ?_
  obtain ⟨n, after⟩ := a
  dsimp only
  split
  · split
    · rename_i more
      have hunit := unit_suffix more
      split
      · rename_i m after' heq
        split
        · exact suffix_of_some ((hunit (m, after') heq).trans
            (List.suffix_append [Symbol.char '\\', Symbol.char 'u'] more))
        · exact suffix_of_some List.suffix_rfl
      · exact suffix_of_some List.suffix_rfl
    · exact suffix_of_some List.suffix_rfl
  · exact suffix_of_some List.suffix_rfl

theorem stringBody_leaves (fuel : Nat) (symbols : List Symbol) :
    Leaves room symbols Prod.snd (stringBody fuel symbols) := by
  fun_induction stringBody fuel symbols with
  | case1 => exact leaves_malformed
  | case2 => exact leaves_malformed
  | case3 => exact List.suffix_cons ..
  | case4 => exact leaves_malformed
  | case5 fuel rest symbol after hunit ih =>
    refine (leaves_consed symbol ih).mono
      ((unitSymbol_suffix rest (symbol, after) hunit).trans ?_)
    exact List.suffix_append [Symbol.char '\\', Symbol.char 'u'] rest
  | case6 => exact leaves_malformed
  | case7 fuel e rest _ c _ ih =>
    exact (leaves_consed (.char c) ih).mono (List.suffix_append [Symbol.char '\\', Symbol.char e] rest)
  | case8 => exact leaves_malformed
  | case9 fuel symbol rest _ _ _ _ ih =>
    exact (leaves_consed symbol ih).mono (List.suffix_cons ..)

/-! ## Numbers and words -/

theorem fraction_suffix (cs : List Char) : ∀ a ∈ fraction? cs, a.2 <:+ cs := by
  unfold fraction?
  split
  · dsimp only
    split
    · simp
    · exact suffix_of_some ((List.dropWhile_suffix _).trans (List.suffix_cons ..))
  · simp

theorem exponent_suffix (cs : List Char) : ∀ a ∈ exponent? cs, a.2 <:+ cs := by
  unfold exponent?
  split
  · rename_i c rest
    split
    · split
      rename_i negative digits heq
      have hsign : digits <:+ rest := by
        split at heq
        · cases heq
          exact List.suffix_cons ..
        · cases heq
          exact List.suffix_cons ..
        · cases heq
          exact List.suffix_rfl
      dsimp only
      split
      · simp
      · refine suffix_of_some (List.IsSuffix.trans ?_ (List.suffix_cons ..))
        exact (List.dropWhile_suffix _).trans hsign
    · simp
  · simp

/-- The whole part of a number is a row of digits. -/
theorem wholePart_spec {whole after : List Char} (h : wholePart cs = some (whole, after)) :
    cs = whole ++ after ∧ ∀ d ∈ whole, d.isDigit := by
  unfold wholePart at h
  split at h
  · obtain ⟨rfl, rfl⟩ : ['0'] = whole ∧ _ = after := by simpa using h
    exact ⟨rfl, by simp⟩
  · dsimp only at h
    split at h
    · cases h
    · obtain ⟨rfl, rfl⟩ : cs.takeWhile Char.isDigit = whole ∧ cs.dropWhile Char.isDigit = after := by
        simpa using h
      exact ⟨List.takeWhile_append_dropWhile.symm, fun d hd => List.mem_takeWhile_imp hd⟩

theorem number_leaves (negative : Bool) (cs : List Char) :
    Leaves room (cs.map .char) (·.2.map .char) (number negative cs) := by
  unfold number
  split
  · exact leaves_malformed
  · rename_i whole after hwhole
    obtain ⟨rfl, hdigits⟩ := wholePart_spec hwhole
    have hends : after <:+ whole ++ after := List.suffix_append ..
    dsimp only
    split
    · split
      · rename_i heq
        obtain ⟨hlong, hlength⟩ := digits_of_oversized heq
        refine ⟨hlength ▸ hlong, whole, ?_, hdigits, hlength.symm⟩
        exact ((List.prefix_append whole after).map _).isInfix
      · exact hends.map _
    · have hfraction := getD_suffix (fraction_suffix after)
      exact (((getD_suffix (exponent_suffix _)).trans hfraction).trans hends).map _

theorem plainValue_leaves (cs : List Char) :
    Leaves room (cs.map .char) (·.2.map .char) (plainValue cs) := by
  unfold plainValue
  split
  · rename_i found heq
    obtain ⟨⟨word, v⟩, -, hfound⟩ := List.exists_of_findSome?_eq_some heq
    obtain ⟨after, hdrop, rfl⟩ := Option.map_eq_some_iff.mp hfound
    unfold dropWord? at hdrop
    split at hdrop
    · exact Option.some.inj hdrop ▸ (List.drop_suffix ..).map _
    · cases hdrop
  · split
    · exact (number_leaves ..).mono (List.suffix_cons ..)
    · exact number_leaves ..

theorem plainDocument_leaves (symbols : List Symbol) :
    Leaves room symbols Prod.snd (plainDocument symbols) := by
  have hwhole := Symbol.leading_append symbols
  have hplain : Leaves room _ _ (plainValue (Symbol.leading symbols).1) := plainValue_leaves _
  unfold plainDocument
  generalize plainValue (Symbol.leading symbols).1 = result at hplain
  cases result with
  | error e =>
      have hprefix : (Symbol.leading symbols).1.map .char <+: symbols := ⟨_, hwhole⟩
      exact ReadError.ArisesIn.mono hplain hprefix.isInfix
  | ok found =>
      obtain ⟨before, hbefore⟩ := hplain
      refine leaves_pure ⟨before, ?_⟩
      rw [← List.append_assoc, hbefore, hwhole]

/-! ## Documents -/

/-- An opening bracket takes one level from what is below it. -/
theorem leaves_of_opening {symbol : Symbol} {r : Except ReadError α}
    (hopens : openings (symbol :: symbols) = 1 + openings symbols)
    (h : Leaves room symbols left r) : Leaves (room + 1) (symbol :: symbols) left r := by
  have hends : symbols <:+ symbol :: symbols := List.suffix_cons ..
  match r, h with
  | .ok _, h => exact h.trans hends
  | .error .malformed, _ => exact trivial
  | .error (.oversized numeral), h =>
    have hwhole : ReadError.ArisesIn room (symbol :: symbols) (.oversized numeral) :=
      ReadError.ArisesIn.mono h hends.isInfix
    exact hwhole
  | .error (.tooDeep _), h =>
    change room < openings symbols at h
    change room + 1 < openings (symbol :: symbols)
    omega

/-- What the readers of documents leave that have so much fuel. They call each other, so the
three are followed together, by the fuel. -/
structure DocumentsLeave (fuel : Nat) : Prop where
  document : ∀ room symbols, Leaves room symbols Prod.snd (document fuel room symbols)
  items : ∀ room symbols, Leaves room symbols Prod.snd (items fuel room symbols)
  entries : ∀ room before symbols, Leaves room symbols Prod.snd (entries fuel room before symbols)

namespace DocumentsLeave

variable {fuel : Nat}

/-- Without fuel every text is malformed. -/
theorem zero : DocumentsLeave 0 where
  document _ _ := by
    rw [Json.document]
    exact leaves_malformed
  items _ _ := by
    rw [Json.items]
    exact leaves_malformed
  entries _ _ _ := by
    rw [Json.entries]
    exact leaves_malformed

theorem document_succ (h : DocumentsLeave fuel) (room : Nat) (symbols : List Symbol) :
    Leaves room symbols Prod.snd (Json.document (fuel + 1) room symbols) := by
  -- the cases are those of any fuel; `hfuel` brings it back where the reader calls another one
  generalize hfuel : fuel + 1 = n
  fun_cases Json.document n room symbols with
  | case1 => exact leaves_malformed
  | case2 _ _ rest =>
    refine ((stringBody_leaves _ rest).bind fun _ _ => ?_).mono (List.suffix_cons ..)
    exact leaves_pure List.suffix_rfl
  | case3 _ rest =>
    change 0 < openings (.char '[' :: rest)
    rw [openings_bracket]
    omega
  | case4 _ room rest after hafter =>
    exact (suffix_of_skipSpace hafter).trans (List.suffix_cons ..)
  | case5 _ room rest _ =>
    obtain rfl := Nat.succ.inj hfuel
    refine leaves_of_opening (openings_bracket rest) ?_
    refine ((h.items _ _).mono (skipSpace_suffix rest)).bind fun _ _ => ?_
    exact leaves_pure List.suffix_rfl
  | case6 _ rest =>
    change 0 < openings (.char '{' :: rest)
    rw [openings_brace]
    omega
  | case7 _ room rest after hafter =>
    exact (suffix_of_skipSpace hafter).trans (List.suffix_cons ..)
  | case8 _ room rest _ =>
    obtain rfl := Nat.succ.inj hfuel
    refine leaves_of_opening (openings_brace rest) ?_
    refine ((h.entries _ _ _).mono (skipSpace_suffix rest)).bind fun _ _ => ?_
    exact leaves_pure List.suffix_rfl
  | case9 => exact plainDocument_leaves symbols

theorem items_succ (h : DocumentsLeave fuel) (room : Nat) (symbols : List Symbol) :
    Leaves room symbols Prod.snd (Json.items (fuel + 1) room symbols) := by
  rw [Json.items]
  refine (h.document room symbols).bind fun a _ => ?_
  refine Text.Leaves.mono ?_ (skipSpace_suffix a.2)
  dsimp only
  split
  · rename_i heq
    rw [heq]
    exact leaves_pure (List.suffix_cons ..)
  · rename_i more heq
    rw [heq]
    refine Text.Leaves.mono ?_ ((skipSpace_suffix more).trans (List.suffix_cons ..))
    exact (h.items _ _).bind fun _ _ => leaves_pure List.suffix_rfl
  · exact leaves_malformed

theorem entries_succ (h : DocumentsLeave fuel) (room : Nat)
    (before : List (List Symbol × Document)) (symbols : List Symbol) :
    Leaves room symbols Prod.snd (Json.entries (fuel + 1) room before symbols) := by
  generalize hfuel : fuel + 1 = n
  fun_cases Json.entries n room before symbols with
  | case1 => exact leaves_malformed
  | case2 _ _ _ symbols =>
    obtain rfl := Nat.succ.inj hfuel
    refine ((stringBody_leaves fuel symbols).bind fun key _ => ?_).mono (List.suffix_cons ..)
    refine Text.Leaves.mono ?_ (skipSpace_suffix key.2)
    dsimp only
    split
    · rename_i after heq
      rw [heq]
      refine Text.Leaves.mono ?_ ((skipSpace_suffix after).trans (List.suffix_cons ..))
      refine (h.document room _).bind fun d _ => ?_
      refine Text.Leaves.mono ?_ (skipSpace_suffix d.2)
      split
      · rename_i heq
        rw [heq]
        exact leaves_pure (List.suffix_cons ..)
      · rename_i more heq
        rw [heq]
        exact (h.entries ..).mono ((skipSpace_suffix more).trans (List.suffix_cons ..))
      · exact leaves_malformed
    · exact leaves_malformed
  | case3 => exact leaves_malformed

theorem succ (h : DocumentsLeave fuel) : DocumentsLeave (fuel + 1) where
  document := h.document_succ
  items := h.items_succ
  entries := h.entries_succ

end DocumentsLeave

theorem documentsLeave (fuel : Nat) : DocumentsLeave fuel := by
  induction fuel with
  | zero => exact .zero
  | succ fuel ih => exact ih.succ

/-- A document is refused for its length or depth only if it has the digits or the opening
brackets for that. -/
theorem read_error {e : ReadError} (h : Json.read room symbols = .error e) :
    e.ArisesIn room symbols := by
  have hleaves : Leaves room symbols (fun _ => []) (Json.read room symbols) := by
    unfold Json.read
    refine Text.Leaves.mono ?_ (skipSpace_suffix symbols)
    refine ((documentsLeave _).document room _).bind fun a _ => ?_
    dsimp only
    split
    · exact leaves_pure List.nil_suffix
    · exact leaves_malformed
  rw [h] at hleaves
  exact hleaves

/-! ## Documents that are refused -/

theorem ne_of_isDigit {c d : Char} (hd : d.isDigit) (hc : c.isDigit = false) : d ≠ c := by
  rintro rfl
  simp [hc] at hd

theorem not_isDigit_of_mem_words {word : String} {v : Value} (h : (word, v) ∈ words) :
    ∃ c cs, word.toList = c :: cs ∧ c.isDigit = false := by
  have hall : ∀ name ∈ words.map Prod.fst, ∃ c cs, name.toList = c :: cs ∧ c.isDigit = false := by
    simp [words]
  exact hall word (List.mem_map_of_mem h)

/-- A text that begins with a digit is a number if it is a value. -/
theorem plainValue_of_digit {d : Char} (hd : d.isDigit) (cs : List Char) :
    plainValue (d :: cs) = number false (d :: cs) := by
  unfold plainValue
  split
  · rename_i found heq
    obtain ⟨⟨word, v⟩, hword, hfound⟩ := List.exists_of_findSome?_eq_some heq
    obtain ⟨after, hdrop, -⟩ := Option.map_eq_some_iff.mp hfound
    obtain ⟨c, rest, htext, hc⟩ := not_isDigit_of_mem_words hword
    unfold dropWord? at hdrop
    split at hdrop
    · rename_i hstarts
      rw [htext, List.isPrefixOf_iff_prefix, List.cons_prefix_cons] at hstarts
      exact absurd hstarts.1.symm (ne_of_isDigit hd hc)
    · cases hdrop
  · split
    · rename_i heq
      exact absurd (List.cons.inj heq).1 (ne_of_isDigit hd rfl)
    · rfl

theorem document_of_digit {d : Char} (hd : d.isDigit) (fuel room : Nat) (cs : List Char) :
    document (fuel + 1) room ((d :: cs).map .char) =
      (number false (d :: cs)).map fun x => (.plain x.1, x.2.map .char) := by
  have hne {c : Char} {more : List Symbol} (hc : c.isDigit = false) :
      (d :: cs).map Symbol.char ≠ .char c :: more :=
    fun h => ne_of_isDigit hd hc (Symbol.char.inj (List.cons.inj h).1)
  have hleading : Symbol.leading ((d :: cs).map .char) = (d :: cs, []) := by
    simpa using Symbol.leading_map_char (d :: cs) [] (by simp)
  rw [document]
  · rw [plainDocument, hleading, plainValue_of_digit hd]
    cases number false (d :: cs) <;> simp [Except.map, bind, Except.bind, pure, Except.pure]
  · exact fun _ => hne rfl
  · exact fun _ _ => hne rfl
  · exact fun _ _ _ => hne rfl
  · exact fun _ _ => hne rfl
  · exact fun _ _ _ => hne rfl

theorem number_digits {digits : List Char} (hdigits : ∀ d ∈ digits, d.isDigit)
    (hzero : digits.head? ≠ some '0') (hlong : maxDigits < digits.length) :
    number false digits = .error (.oversized ⟨digits.length⟩) := by
  have hwhole : wholePart digits = some (digits, []) := by
    have htake : digits.takeWhile Char.isDigit = digits := List.takeWhile_eq_self_iff.mpr hdigits
    have hdrop : digits.dropWhile Char.isDigit = [] := List.dropWhile_eq_nil_iff.mpr hdigits
    unfold wholePart
    split
    · simp at hzero
    · have hne : digits ≠ [] := by
        rintro rfl
        simp at hlong
      simp [htake, hdrop, hne]
  have hread : readDigits digits = .error ⟨digits.length⟩ := by
    rw [readDigits, if_neg (Nat.not_le_of_lt hlong)]
  simp [number, hwhole, fraction?, exponent?, hread]

/-- A row of more digits than are read is refused, whatever the digits are. -/
theorem read_digits {digits : List Char} (hdigits : ∀ d ∈ digits, d.isDigit)
    (hzero : digits.head? ≠ some '0') (hlong : maxDigits < digits.length) (room : Nat) :
    Json.read room (digits.map .char) = .error (.oversized ⟨digits.length⟩) := by
  obtain ⟨d, ds, rfl⟩ := List.exists_cons_of_ne_nil (l := digits) (by rintro rfl; simp at hlong)
  have hd : d.isDigit := hdigits d List.mem_cons_self
  have hskip : skipSpace ((d :: ds).map .char) = (d :: ds).map .char := by
    have hspace : isSpace (.char d) = false := by
      simp [isSpace, ne_of_isDigit hd (c := ' ') rfl, ne_of_isDigit hd (c := '\t') rfl,
        ne_of_isDigit hd (c := '\n') rfl, ne_of_isDigit hd (c := '\r') rfl]
    simp [skipSpace, hspace]
  rw [Json.read, hskip, document_of_digit hd, number_digits hdigits hzero hlong]
  rfl

/-- Brackets that are opened in each other are refused as soon as there is no room, whatever
comes after them. -/
theorem document_brackets {room : Nat} (fuel n : Nat) (symbols : List Symbol) (hroom : room < n)
    (hfuel : 2 * room < fuel) :
    document fuel room (List.replicate n (.char '[') ++ symbols) = .error (.tooDeep "array") := by
  induction room generalizing fuel n with
  | zero =>
    obtain ⟨n, rfl⟩ := Nat.exists_eq_succ_of_ne_zero (Nat.ne_of_gt hroom)
    obtain ⟨fuel, rfl⟩ := Nat.exists_eq_succ_of_ne_zero (Nat.ne_of_gt hfuel)
    rw [List.replicate_succ, List.cons_append, document]
  | succ room ih =>
    obtain ⟨n, rfl⟩ : ∃ m, n = m + 2 := ⟨n - 2, by omega⟩
    obtain ⟨fuel, rfl⟩ : ∃ m, fuel = m + 2 := ⟨fuel - 2, by omega⟩
    have hinner := ih fuel (n + 1) (by omega) (by omega)
    rw [List.replicate_succ, List.cons_append] at hinner ⊢
    rw [List.replicate_succ, List.cons_append]
    have hskip (more : List Symbol) : skipSpace (.char '[' :: more) = .char '[' :: more := rfl
    have hitems : items (fuel + 1) room
        (.char '[' :: (List.replicate n (.char '[') ++ symbols)) = .error (.tooDeep "array") := by
      rw [items, hinner]
      rfl
    rw [document, hskip]
    -- behind a bracket comes another one, so that the list is not closed at once
    split
    · rename_i hclosed
      exact absurd (Symbol.char.inj (List.cons.inj hclosed).1) (by decide)
    · rw [hitems]
      rfl

/-- A document that begins with more opening brackets than there is room for is refused. -/
theorem read_brackets {room n : Nat} (hdeep : room < n) (symbols : List Symbol) :
    Json.read room (List.replicate n (.char '[') ++ symbols) = .error (.tooDeep "array") := by
  have hskip : skipSpace (List.replicate n (.char '[') ++ symbols) =
      List.replicate n (.char '[') ++ symbols := by
    obtain ⟨n, rfl⟩ := Nat.exists_eq_succ_of_ne_zero (Nat.ne_of_gt (Nat.zero_lt_of_lt hdeep))
    rfl
  rw [Json.read, hskip, document_brackets _ n symbols hdeep]
  · rfl
  · simp only [List.length_append, List.length_replicate]
    omega

end LintRelay.Json
