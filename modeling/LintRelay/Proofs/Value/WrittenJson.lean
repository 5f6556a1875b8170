import Mathlib.Data.List.Basic
import Mathlib.Tactic.SplitIfs
import Std.Data.String.ToNat
import LintRelay.Value.Json
import LintRelay.Value.JsonReader

/-!
# What written JSON tells

A value of texts, counts, lists and tables can be told from its form on one line, and so can
the place where it ends. The form holds printable characters of ASCII only: strings and
numbers end where their quote or their last digit stands, and brackets say where lists and
tables do.
-/

namespace LintRelay.Json

open LintRelay.Text (Symbol)

/-! ## Strings -/

theorem hexValue?_digitChar {d : Nat} (h : d < 16) : hexValue? d.digitChar = some d := by
  have hall : ∀ d < 16, hexValue? d.digitChar = some d := by decide
  exact hall d h

/-- Four digits are read as the unit that they were written for. -/
theorem unit?_unitDigits {n : Nat} (h : n < 0x10000) (rest : List Symbol) :
    unit? ((unitDigits n).map .char ++ rest) = some (n, rest) := by
  have hdigit (m : Nat) : hexValue? (m % 16).digitChar = some (m % 16) :=
    hexValue?_digitChar (Nat.mod_lt m (by decide))
  simp only [unitDigits, List.map_cons, List.map_nil, List.cons_append, List.nil_append, unit?,
    hdigit, Option.bind_eq_bind, Option.bind_some, Option.pure_def, Option.some.injEq,
    Prod.mk.injEq, and_true]
  omega

theorem not_isSurrogate (c : Char) : Symbol.isSurrogate c.toNat = false ∧
    Symbol.isHighUnit c.toNat = false := by
  have hvalid : c.toNat < 0xD800 ∨ 0xDFFF < c.toNat ∧ c.toNat < 0x110000 := c.valid
  simp only [Symbol.isSurrogate, Symbol.isHighUnit, Bool.and_eq_false_iff, decide_eq_false_iff_not]
  omega

/-- Two escaped units are read as the character that they are the halves of. -/
theorem unitSymbol?_pair {n : Nat} (h : n < 0x100000) (rest : List Symbol) :
    unitSymbol? ((unitDigits (0xD800 + n / 1024)).map .char ++
        ((unitEscape (0xDC00 + n % 1024)).map .char ++ rest)) =
      some (.char (Char.ofNat (0x10000 + n)), rest) := by
  have hhigh : 0xD800 + n / 1024 < 0x10000 := by omega
  have hlow : 0xDC00 + n % 1024 < 0x10000 := by omega
  have hishigh : Symbol.isHighUnit (0xD800 + n / 1024) = true := by
    simp only [Symbol.isHighUnit, Bool.and_eq_true, decide_eq_true_eq]
    omega
  have hislow : Symbol.isLowUnit (0xDC00 + n % 1024) = true := by
    simp only [Symbol.isLowUnit, Bool.and_eq_true, decide_eq_true_eq]
    omega
  have hvalue : 0x10000 + (0xD800 + n / 1024 - 0xD800) * 1024 + (0xDC00 + n % 1024 - 0xDC00) =
      0x10000 + n := by omega
  simp only [unitSymbol?, unit?_unitDigits hhigh, unitEscape, List.map_cons, List.cons_append,
    unit?_unitDigits hlow, hishigh, hislow, if_true, Symbol.ofPair, hvalue, Option.bind_eq_bind,
    Option.bind_some, Option.pure_def]

theorem stringBody_escapedChar (c : Char) (fuel : Nat) (rest : List Symbol) :
    stringBody (fuel + 1) ((escapedChar c).map .char ++ rest) =
      (stringBody fuel rest).map fun x => (.char c :: x.1, x.2) := by
  unfold escapedChar
  split_ifs with hquote hfeed hreturn htab hback hform hplain hshort
  · rcases hquote with rfl | rfl <;> rfl
  · subst hfeed; rfl
  · subst hreturn; rfl
  · subst htab; rfl
  · obtain rfl : c = Char.ofNat 8 := Char.toNat_inj.mp hback
    rfl
  · obtain rfl : c = Char.ofNat 12 := Char.toNat_inj.mp hform
    rfl
  · rw [not_or] at hquote
    have hcontrol : (Symbol.char c).char?.any (fun c => c.toNat < 0x20 || c = '\\') = false := by
      simp only [Symbol.char?, Option.any_some, Bool.or_eq_false_iff, decide_eq_false_iff_not]
      exact ⟨Nat.not_lt.mpr hplain.1, hquote.2⟩
    rw [List.map_singleton, List.singleton_append, stringBody]
    · rw [if_neg (by rw [hcontrol]; exact Bool.false_ne_true)]
      cases stringBody fuel rest <;> rfl
    · rintro ⟨⟩
      exact hquote.1 rfl
    · rintro _ ⟨⟩
      exact absurd rfl hquote.2
    · rintro _ _ ⟨⟩
      exact absurd rfl hquote.2
  · have hunit : unitSymbol? ((unitDigits c.toNat).map .char ++ rest) = some (.char c, rest) := by
      simp [unitSymbol?, unit?_unitDigits hshort, not_isSurrogate, Symbol.ofNat, Char.ofNat_toNat]
    simp only [unitEscape, List.map_cons, List.cons_append, stringBody, hunit]
    cases stringBody fuel rest <;> rfl
  · have hvalid : c.toNat < 0xD800 ∨ 0xDFFF < c.toNat ∧ c.toNat < 0x110000 := c.valid
    have hunit := unitSymbol?_pair (show c.toNat - 0x10000 < 0x100000 by omega) rest
    rw [show 0x10000 + (c.toNat - 0x10000) = c.toNat by omega, Char.ofNat_toNat] at hunit
    simp only [unitEscape, List.map_cons, List.map_append, List.cons_append,
      List.append_assoc] at hunit ⊢
    simp only [stringBody, hunit]
    cases stringBody fuel rest <;> rfl

/-- What is written between the quotes of a string is read back, up to the closing quote. -/
theorem stringBody_escaped (cs : List Char) (fuel : Nat) (rest : List Symbol) :
    stringBody (cs.length + fuel + 1)
        ((cs.flatMap escapedChar).map .char ++ .char '"' :: rest) =
      .ok (cs.map .char, rest) := by
  induction cs with
  | nil => rfl
  | cons c cs ih =>
      rw [List.flatMap_cons, List.map_append, List.append_assoc, List.length_cons,
        show cs.length + 1 + fuel + 1 = cs.length + fuel + 1 + 1 by omega,
        stringBody_escapedChar, ih]
      rfl

theorem char_injective : Function.Injective Symbol.char := fun _ _ => Symbol.char.inj

theorem toList_renderText (s : String) :
    (renderText s).toList = '"' :: (s.toList.flatMap escapedChar ++ ['"']) := by
  rw [renderText, String.toList_ofList, List.cons_append]

/-- A written string tells the string, and where it ends. -/
theorem renderText_append_inj {a b : String} {s t : List Char}
    (h : (renderText a).toList ++ s = (renderText b).toList ++ t) : a = b ∧ s = t := by
  simp only [toList_renderText, List.cons_append, List.append_assoc, List.nil_append,
    List.cons.injEq, true_and] at h
  have hread (x y : String) (rest : List Char) :
      stringBody (x.toList.length + y.toList.length + 1)
        ((x.toList.flatMap escapedChar ++ '"' :: rest).map .char) =
        .ok (x.toList.map .char, rest.map .char) := by
    rw [List.map_append, List.map_cons, stringBody_escaped]
  have hb := hread b a t
  rw [← h, Nat.add_comm b.toList.length, hread a b s] at hb
  obtain ⟨htext, hrest⟩ := Prod.mk.inj (Except.ok.inj hb)
  exact ⟨(String.toList_inj.mp (char_injective.list_map htext)).symm ▸ rfl,
    char_injective.list_map hrest⟩

/-! ## Numbers -/

/-- What may follow a number: nothing, or no digit. -/
def EndsNumber (cs : List Char) : Prop :=
  ∀ c ∈ cs.head?, c.isDigit = false

theorem endsNumber_nil : EndsNumber [] := by
  simp [EndsNumber]

theorem endsNumber_cons {c : Char} (h : c.isDigit = false) (cs : List Char) :
    EndsNumber (c :: cs) := by
  simpa [EndsNumber] using h

/-- Digits end where no digit follows. -/
theorem takeWhile_digits_append {ds cs : List Char} (hds : ∀ d ∈ ds, d.isDigit)
    (hcs : EndsNumber cs) : (ds ++ cs).takeWhile Char.isDigit = ds := by
  rw [List.takeWhile_append_of_pos hds]
  cases cs with
  | nil => simp
  | cons c cs => simp [hcs c (by simp)]

theorem digit_of_mem_repr (n : Nat) : ∀ d ∈ n.repr.toList, d.isDigit := fun _ hd =>
  Nat.isDigit_of_mem_toDigits (by decide) (by decide) (Nat.toList_repr ▸ hd)

theorem repr_append_inj {m n : Nat} {s t : List Char} (hs : EndsNumber s) (ht : EndsNumber t)
    (h : m.repr.toList ++ s = n.repr.toList ++ t) : m = n ∧ s = t := by
  have hdigits : m.repr.toList = n.repr.toList := by
    rw [← takeWhile_digits_append (digit_of_mem_repr m) hs, h,
      takeWhile_digits_append (digit_of_mem_repr n) ht]
  refine ⟨?_, List.append_cancel_left (hdigits ▸ h)⟩
  rw [Nat.toList_repr, Nat.toList_repr] at hdigits
  rw [← Nat.ofDigitChars_ten_toDigits (n := m), hdigits, Nat.ofDigitChars_ten_toDigits]

/-! ## Values -/

/-- A value of texts, counts, lists and tables: each has a written form of its own. -/
inductive IsPlain : Value → Prop
  | count (n : Nat) : IsPlain (.int n)
  | text (s : String) : IsPlain (.text s)
  | list {items : List Value} (h : ∀ v ∈ items, IsPlain v) : IsPlain (.list items)
  | table {entries : List (String × Value)} (h : ∀ e ∈ entries, IsPlain e.2) :
      IsPlain (.table entries)

/-- The form of a value on one line, whatever its numbers. -/
def form (v : Value) : String :=
  renderAt .oneLine 0 v

theorem render_eq (v : Value) :
    render v = if v.isWritable then .ok (form v) else .error {} := rfl

/-- An entry of a table on one line. -/
def renderEntry (e : String × Value) : String :=
  renderText e.1 ++ ": " ++ form e.2

mutual

/-- On one line, the level of nesting does not show. -/
theorem renderAt_oneLine (level : Nat) : ∀ v, renderAt .oneLine level v = form v
  | .null | .bool _ | .int _ | .float _ | .text _ | .moment _ => by simp only [form, renderAt]
  | .list items => by
      simp only [form, renderAt, renderItems_oneLine]
      rfl
  | .table entries => by
      simp only [form, renderAt, renderEntries_oneLine]
      rfl

theorem renderItems_oneLine (level : Nat) :
    ∀ items, renderItems .oneLine level items = items.map form
  | [] => rfl
  | v :: items => by
      rw [renderItems, renderAt_oneLine level v, renderItems_oneLine level items, List.map_cons]

theorem renderEntries_oneLine (level : Nat) :
    ∀ entries, renderEntries .oneLine level entries = entries.map renderEntry
  | [] => rfl
  | (k, v) :: entries => by
      rw [renderEntries, renderAt_oneLine level v, renderEntries_oneLine level entries,
        List.map_cons, renderEntry]

end

/-- Parts on one line, with a comma and a space between them. -/
def separated (parts : List String) : List Char :=
  [',', ' '].intercalate (parts.map String.toList)

theorem toList_group (level : Nat) (left right : String) (parts : List String) :
    (Layout.oneLine.group level left right parts).toList =
      left.toList ++ (separated parts ++ right.toList) := by
  cases parts with
  | nil => simp [Layout.group, separated]
  | cons part parts =>
      simp [Layout.group, Layout.oneLine, separated, String.toList_intercalate]

theorem toList_form_list (items : List Value) :
    (form (.list items)).toList = '[' :: (separated (items.map form) ++ [']']) := by
  rw [form, renderAt, toList_group, renderItems_oneLine]
  rfl

theorem toList_form_table (entries : List (String × Value)) :
    (form (.table entries)).toList =
      '{' :: (separated (entries.map renderEntry) ++ ['}']) := by
  rw [form, renderAt, toList_group, renderEntries_oneLine]
  rfl

/-- The parts after the first one, each behind a comma and a space. -/
def followers (parts : List String) : List Char :=
  parts.flatMap fun part => ',' :: ' ' :: part.toList

theorem separated_cons (part : String) (parts : List String) :
    separated (part :: parts) = part.toList ++ followers parts := by
  induction parts generalizing part with
  | nil => simp [separated, followers]
  | cons next parts ih =>
      rw [separated, List.map_cons, List.map_cons, List.intercalate_cons_cons, ← List.map_cons,
        ← separated, ih next, followers, followers, List.flatMap_cons]
      simp

/-- Written parts tell their values, and where they end. -/
def TellsApart {α : Type} (f : α → String) (x : α) (ys : List α) : Prop :=
  ∀ y ∈ ys, ∀ s t, EndsNumber s → EndsNumber t →
    (f x).toList ++ s = (f y).toList ++ t → x = y ∧ s = t

section

variable {α : Type} {f : α → String} {bracket : Char}

theorem endsNumber_followers (hdigit : bracket.isDigit = false) (xs : List α) (s : List Char) :
    EndsNumber (followers (xs.map f) ++ bracket :: s) := by
  cases xs with
  | nil => exact endsNumber_cons hdigit s
  | cons x xs => exact endsNumber_cons (by decide) _

theorem followers_append_inj (hcomma : bracket ≠ ',') (hdigit : bracket.isDigit = false)
    {xs ys : List α} (hf : ∀ x ∈ xs, TellsApart f x ys) {s t : List Char}
    (h : followers (xs.map f) ++ bracket :: s = followers (ys.map f) ++ bracket :: t) :
    xs = ys ∧ s = t := by
  induction xs generalizing ys with
  | nil =>
      cases ys with
      | nil => exact ⟨rfl, by simpa [followers] using h⟩
      | cons y ys => simp [followers, hcomma] at h
  | cons x xs ih =>
      cases ys with
      | nil => simp [followers, Ne.symm hcomma] at h
      | cons y ys =>
          simp only [List.map_cons, followers, List.flatMap_cons, List.cons_append,
            List.append_assoc, List.cons.injEq, true_and] at h
          obtain ⟨rfl, hrest⟩ := hf x List.mem_cons_self y List.mem_cons_self _ _
            (endsNumber_followers hdigit xs s) (endsNumber_followers hdigit ys t) h
          obtain ⟨rfl, hst⟩ := ih (fun x' hx' y' hy' =>
            hf x' (List.mem_cons_of_mem _ hx') y' (List.mem_cons_of_mem _ hy')) hrest
          exact ⟨rfl, hst⟩

theorem separated_append_inj (hcomma : bracket ≠ ',') (hdigit : bracket.isDigit = false)
    {xs ys : List α} (hf : ∀ x ∈ xs, TellsApart f x ys)
    (hopens : ∀ z ∈ xs ++ ys, ∃ c cs, (f z).toList = c :: cs ∧ c ≠ bracket) {s t : List Char}
    (h : separated (xs.map f) ++ bracket :: s = separated (ys.map f) ++ bracket :: t) :
    xs = ys ∧ s = t := by
  cases xs with
  | nil =>
      cases ys with
      | nil => exact ⟨rfl, by simpa [separated] using h⟩
      | cons y ys =>
          obtain ⟨c, cs, hy, hne⟩ := hopens y (by simp)
          rw [List.map_cons, separated_cons, hy] at h
          exact absurd (List.cons.inj h).1.symm hne
  | cons x xs =>
      cases ys with
      | nil =>
          obtain ⟨c, cs, hx, hne⟩ := hopens x (by simp)
          rw [List.map_cons, separated_cons, hx] at h
          exact absurd (List.cons.inj h).1 hne
      | cons y ys =>
          rw [List.map_cons, List.map_cons, separated_cons, separated_cons, List.append_assoc,
            List.append_assoc] at h
          obtain ⟨rfl, hrest⟩ := hf x List.mem_cons_self y List.mem_cons_self _ _
            (endsNumber_followers hdigit xs s) (endsNumber_followers hdigit ys t) h
          obtain ⟨rfl, hst⟩ := followers_append_inj hcomma hdigit (fun x' hx' y' hy' =>
            hf x' (List.mem_cons_of_mem _ hx') y' (List.mem_cons_of_mem _ hy')) hrest
          exact ⟨rfl, hst⟩

end

/-- The character that a written value begins with. -/
def Opens : Value → Char → Prop
  | .int _, c => c.isDigit
  | .text _, c => c = '"'
  | .list _, c => c = '['
  | .table _, c => c = '{'
  | _, _ => False

namespace IsPlain

variable {v w : Value}

theorem table_singleton (key : String) (hv : IsPlain v) : IsPlain (.table [(key, v)]) :=
  .table (List.forall_mem_singleton.mpr hv)

theorem table_pair (key key' : String) (hv : IsPlain v) (hw : IsPlain w) :
    IsPlain (.table [(key, v), (key', w)]) :=
  .table (List.forall_mem_cons.mpr ⟨hv, List.forall_mem_singleton.mpr hw⟩)

theorem opens (h : IsPlain v) : ∃ c cs, (form v).toList = c :: cs ∧ Opens v c := by
  cases h with
  | count n =>
      have hdigit : ∀ d ∈ n.repr.toList, d.isDigit := digit_of_mem_repr n
      cases hn : n.repr.toList with
      | nil => simp [Nat.toDigits_ne_nil] at hn
      | cons d ds => exact ⟨d, ds, hn, hdigit d (by simp [hn])⟩
  | text s =>
      exact ⟨_, _, toList_renderText s, rfl⟩
  | list => exact ⟨_, _, toList_form_list _, rfl⟩
  | table => exact ⟨_, _, toList_form_table _, rfl⟩

/-- Values with one written form begin alike. -/
theorem opens_common (hv : IsPlain v) (hw : IsPlain w) {s t : List Char}
    (h : (form v).toList ++ s = (form w).toList ++ t) : ∃ c, Opens v c ∧ Opens w c := by
  obtain ⟨c, cs, hvc, hc⟩ := hv.opens
  obtain ⟨d, ds, hwd, hd⟩ := hw.opens
  rw [hvc, hwd] at h
  obtain rfl : c = d := (List.cons.inj h).1
  exact ⟨c, hc, hd⟩

theorem head_ne_bracket (h : IsPlain v) : ∃ c cs, (form v).toList = c :: cs ∧ c ≠ ']' := by
  obtain ⟨c, cs, hv, hc⟩ := h.opens
  refine ⟨c, cs, hv, ?_⟩
  rintro rfl
  cases h <;> simp [Opens] at hc

theorem head_renderEntry_ne (e : String × Value) :
    ∃ c cs, (renderEntry e).toList = c :: cs ∧ c ≠ '}' := by
  simp [renderEntry, toList_renderText]

/-- An entry tells its key and its value, if the value is told. -/
theorem renderEntry_append_inj {e e' : String × Value} {s t : List Char}
    (hvalue : (form e.2).toList ++ s = (form e'.2).toList ++ t → e.2 = e'.2 ∧ s = t)
    (h : (renderEntry e).toList ++ s = (renderEntry e').toList ++ t) : e = e' ∧ s = t := by
  simp only [renderEntry, String.toList_append, List.append_assoc] at h
  obtain ⟨hkey, h⟩ := renderText_append_inj h
  obtain ⟨hv, hst⟩ := hvalue (List.append_cancel_left h)
  exact ⟨Prod.ext hkey hv, hst⟩

/-- **A written value tells the value**, and where it ends. -/
theorem form_append_inj (hv : IsPlain v) (hw : IsPlain w) {s t : List Char}
    (hs : EndsNumber s) (ht : EndsNumber t)
    (h : (form v).toList ++ s = (form w).toList ++ t) : v = w ∧ s = t := by
  -- What follows the values is arbitrary, so that the members of a list can be told one by one.
  induction hv generalizing w s t with
  | count n =>
      obtain ⟨c, hc, hd⟩ := opens_common (.count n) hw h
      cases hw with
      | count m =>
          obtain ⟨rfl, hst⟩ := repr_append_inj hs ht h
          exact ⟨rfl, hst⟩
      | _ => simp_all [Opens]
  | text a =>
      obtain ⟨c, hc, hd⟩ := opens_common (.text a) hw h
      cases hw with
      | text b =>
          obtain ⟨rfl, hst⟩ := renderText_append_inj h
          exact ⟨rfl, hst⟩
      | _ => simp_all [Opens]
  | list hitems ih =>
      obtain ⟨c, hc, hd⟩ := opens_common (.list hitems) hw h
      cases hw with
      | list hitems' =>
          rw [toList_form_list, toList_form_list] at h
          simp only [List.cons_append, List.append_assoc, List.nil_append, List.cons.injEq,
            true_and] at h
          have hheads := fun z hz => head_ne_bracket
            ((List.mem_append.mp hz).elim (hitems z) (hitems' z))
          obtain ⟨rfl, hst⟩ := separated_append_inj (by decide) (by decide)
            (fun v hv w hw _ _ hs ht => ih v hv (hitems' w hw) hs ht) hheads h
          exact ⟨rfl, hst⟩
      | _ => simp_all [Opens]
  | table hentries ih =>
      obtain ⟨c, hc, hd⟩ := opens_common (.table hentries) hw h
      cases hw with
      | table hentries' =>
          rw [toList_form_table, toList_form_table] at h
          simp only [List.cons_append, List.append_assoc, List.nil_append, List.cons.injEq,
            true_and] at h
          have htells : ∀ e ∈ _, TellsApart renderEntry e _ := fun e he e' he' s t hs ht h =>
            renderEntry_append_inj (ih e he (hentries' e' he') hs ht) h
          obtain ⟨rfl, hst⟩ := separated_append_inj (by decide) (by decide) htells
            (fun e _ => head_renderEntry_ne e) h
          exact ⟨rfl, hst⟩
      | _ => simp_all [Opens]

theorem form_injective (hv : IsPlain v) (hw : IsPlain w) (h : form v = form w) : v = w :=
  (hv.form_append_inj hw endsNumber_nil endsNumber_nil (by rw [h])).1

end IsPlain

/-! ## The characters of a written value -/

def IsPrintable (c : Char) : Prop :=
  0x20 ≤ c.toNat ∧ c.toNat < 0x7F

instance (c : Char) : Decidable (IsPrintable c) :=
  inferInstanceAs (Decidable (_ ∧ _))

theorem printable_of_isDigit {c : Char} (h : c.isDigit) : IsPrintable c := by
  simp only [Char.isDigit, Bool.and_eq_true, decide_eq_true_eq, ge_iff_le,
    UInt32.le_iff_toNat_le] at h
  have hlow : 48 ≤ c.toNat := h.1
  have hhigh : c.toNat ≤ 57 := h.2
  constructor <;> omega

theorem printable_of_mem_unitEscape {c : Char} {n : Nat} (h : c ∈ unitEscape n) :
    IsPrintable c := by
  have hall : ∀ d < 16, IsPrintable d.digitChar := by decide
  simp only [unitEscape, unitDigits, List.map_cons, List.map_nil, List.mem_cons,
    List.not_mem_nil, or_false] at h
  rcases h with rfl | rfl | rfl | rfl | rfl | rfl
  · decide
  · decide
  all_goals exact hall _ (Nat.mod_lt _ (by decide))

theorem printable_of_mem_escapedChar {c d : Char} (h : d ∈ escapedChar c) : IsPrintable d := by
  have hpair (x : Char) (hx : IsPrintable x) (hd : d ∈ ['\\', x]) : IsPrintable d := by
    rcases List.mem_pair.mp hd with rfl | rfl
    · decide
    · exact hx
  unfold escapedChar at h
  split_ifs at h with hquote hfeed hreturn htab hback hform hplain hshort
  · refine hpair c ?_ h
    rcases hquote with rfl | rfl <;> decide
  · exact hpair 'n' (by decide) h
  · exact hpair 'r' (by decide) h
  · exact hpair 't' (by decide) h
  · exact hpair 'b' (by decide) h
  · exact hpair 'f' (by decide) h
  · obtain rfl := List.mem_singleton.mp h
    exact hplain
  · exact printable_of_mem_unitEscape h
  · exact (List.mem_append.mp h).elim printable_of_mem_unitEscape printable_of_mem_unitEscape

theorem printable_of_mem_renderText {c : Char} {s : String} (h : c ∈ (renderText s).toList) :
    IsPrintable c := by
  simp only [toList_renderText, List.mem_cons, List.mem_append, List.mem_flatMap,
    List.not_mem_nil, or_false] at h
  rcases h with rfl | ⟨d, -, hd⟩ | rfl
  · decide
  · exact printable_of_mem_escapedChar hd
  · decide

theorem printable_of_mem_separated {parts : List String}
    (h : ∀ part ∈ parts, ∀ c ∈ part.toList, IsPrintable c) :
    ∀ c ∈ separated parts, IsPrintable c := by
  cases parts with
  | nil => simp [separated]
  | cons part parts =>
      intro c hc
      simp only [separated_cons, followers, List.mem_append, List.mem_flatMap, List.mem_cons] at hc
      rcases hc with hc | ⟨part', hpart', rfl | rfl | hc⟩
      · exact h part List.mem_cons_self c hc
      · decide
      · decide
      · exact h part' (List.mem_cons_of_mem _ hpart') c hc

theorem IsPlain.printable {v : Value} (hv : IsPlain v) :
    ∀ c ∈ (form v).toList, IsPrintable c := by
  have hbracketed : ∀ (left right : Char) (parts : List String), IsPrintable left →
      IsPrintable right → (∀ part ∈ parts, ∀ c ∈ part.toList, IsPrintable c) →
      ∀ c ∈ left :: (separated parts ++ [right]), IsPrintable c := by
    intro left right parts hleft hright hparts c hc
    simp only [List.mem_cons, List.mem_append, List.not_mem_nil, or_false] at hc
    rcases hc with rfl | hc | rfl
    · exact hleft
    · exact printable_of_mem_separated hparts c hc
    · exact hright
  induction hv with
  | count n => exact fun c hc => printable_of_isDigit (digit_of_mem_repr n c hc)
  | text s => exact fun c hc => printable_of_mem_renderText hc
  | list hitems ih =>
      rw [toList_form_list]
      refine hbracketed _ _ _ (by decide) (by decide) ?_
      rw [List.forall_mem_map]
      exact ih
  | table hentries ih =>
      rw [toList_form_table]
      refine hbracketed _ _ _ (by decide) (by decide) ?_
      rw [List.forall_mem_map]
      intro e he c hc
      simp only [renderEntry, String.toList_append, List.mem_append] at hc
      rcases hc with (hc | hc) | hc
      · exact printable_of_mem_renderText hc
      · rcases List.mem_pair.mp hc with rfl | rfl <;> decide
      · exact ih e he c hc

end LintRelay.Json
