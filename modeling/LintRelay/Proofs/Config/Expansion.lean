import LintRelay.Config.Layers
import LintRelay.Proofs.Value.Paths
import Mathlib.Data.List.TakeWhile

/-!
# What putting in the values of variables does

Every text falls apart into references and other characters in one way, if a reference is
taken wherever one begins and as far as it goes. The values of the variables are put in for
the references, each once, and the other characters stay. A value keeps its shape, and it is
all the same whether two tables are laid over each other before that or after it.
-/

namespace LintRelay.Environment

open LintRelay.Text

/-! ## References -/

/-- A reference to a variable. The name is not empty; it is made of word characters or, in
braces, of any characters but the closing brace. -/
structure Reference where
  braced : Bool
  name : List Char
  nonempty : name ≠ []
  admitted : ∀ c ∈ name, if braced then c ≠ '}' else isWordChar c = true

def Reference.written (r : Reference) : List Char :=
  if r.braced then '$' :: '{' :: (r.name ++ ['}']) else '$' :: r.name

/-- What stands for a reference: the value of the variable if it is set, else itself. -/
def Reference.expanded (env : Environment) (r : Reference) : List Char :=
  match env (String.ofList r.name) with
  | some value => value.toList
  | none => r.written

theorem Reference.written_cases (r : Reference) :
    (r.written = '$' :: r.name ∧ ∀ c ∈ r.name, isWordChar c = true) ∨
      (r.written = '$' :: '{' :: (r.name ++ ['}']) ∧ ∀ c ∈ r.name, c ≠ '}') := by
  obtain ⟨braced, name, nonempty, admitted⟩ := r
  cases braced with
  | false => exact .inl ⟨rfl, admitted⟩
  | true => exact .inr ⟨rfl, admitted⟩

theorem isWordChar_brace : isWordChar '{' = false := by
  decide

theorem Reference.exists_written (r : Reference) : ∃ tail, r.written = '$' :: tail := by
  rcases r.written_cases with ⟨h, -⟩ | ⟨h, -⟩
  · exact ⟨_, h⟩
  · exact ⟨_, h⟩

theorem Reference.written_ne_nil (r : Reference) : r.written ≠ [] := by
  obtain ⟨tail, h⟩ := r.exists_written
  rw [h]
  exact List.cons_ne_nil _ _

theorem Reference.written_injective {r r' : Reference} (h : r.written = r'.written) : r = r' := by
  obtain ⟨braced, name, nonempty, admitted⟩ := r
  obtain ⟨braced', name', nonempty', admitted'⟩ := r'
  -- a name without braces does not begin with one
  have hbare : ∀ cs : List Char, (∀ c ∈ cs, isWordChar c = true) → ∀ more, cs ≠ '{' :: more := by
    rintro cs hcs more rfl
    exact absurd (hcs '{' List.mem_cons_self) (by rw [isWordChar_brace]; nofun)
  cases braced with
  | false =>
    cases braced' with
    | false =>
      obtain rfl : name = name' := (List.cons.inj h).2
      rfl
    | true => exact absurd (List.cons.inj h).2 (hbare name admitted _)
  | true =>
    cases braced' with
    | false => exact absurd (List.cons.inj h).2.symm (hbare name' admitted' _)
    | true =>
      obtain rfl : name = name' := List.append_cancel_right (List.cons.inj (List.cons.inj h).2).2
      rfl

theorem exists_reference {cs name rest : List Char} (h : reference? cs = some (name, rest)) :
    ∃ r : Reference, r.name = name ∧ '$' :: cs = r.written ++ rest := by
  unfold reference? at h
  split at h
  · split at h
    · rename_i inner _
      split at h
      · rename_i c tail after htake hdrop
        obtain ⟨rfl, rfl⟩ : c :: tail = name ∧ after = rest := by simpa using h
        have hinner := List.takeWhile_append_dropWhile (p := (· ≠ '}')) (l := inner)
        rw [htake, hdrop] at hinner
        have hadmitted : ∀ d ∈ c :: tail, d ≠ '}' := by
          intro d hd
          rw [← htake] at hd
          simpa using List.mem_takeWhile_imp hd
        refine ⟨⟨true, c :: tail, List.cons_ne_nil _ _, hadmitted⟩, rfl, ?_⟩
        rw [← hinner]
        simp [Reference.written]
      · cases h
    · cases h
  · rename_i c tail htake
    obtain ⟨rfl, rfl⟩ : c :: tail = name ∧ cs.dropWhile isWordChar = rest := by simpa using h
    have hadmitted : ∀ d ∈ c :: tail, isWordChar d = true := fun d hd =>
      List.mem_takeWhile_imp (htake.symm ▸ hd)
    refine ⟨⟨false, c :: tail, List.cons_ne_nil _ _, hadmitted⟩, rfl, ?_⟩
    have hcs := List.takeWhile_append_dropWhile (p := isWordChar) (l := cs)
    rw [htake] at hcs
    exact congrArg ('$' :: ·) hcs.symm

/-- Where a reference is written, one is found that goes at least as far. -/
theorem reference?_of_written {r : Reference} {cs more : List Char}
    (h : '$' :: cs = r.written ++ more) :
    ∃ name rest, reference? cs = some (name, rest) ∧ rest.length ≤ more.length := by
  obtain ⟨c, tail, hname⟩ := List.exists_cons_of_ne_nil r.nonempty
  rcases r.written_cases with ⟨hwritten, hadmitted⟩ | ⟨hwritten, hadmitted⟩
  · obtain rfl : cs = r.name ++ more := by
      rw [hwritten] at h
      exact (List.cons.inj h).2
    refine ⟨r.name ++ more.takeWhile isWordChar, more.dropWhile isWordChar, ?_,
      (List.dropWhile_sublist _).length_le⟩
    have htake : (r.name ++ more).takeWhile isWordChar = r.name ++ more.takeWhile isWordChar :=
      List.takeWhile_append_of_pos hadmitted
    have hdrop : (r.name ++ more).dropWhile isWordChar = more.dropWhile isWordChar :=
      List.dropWhile_append_of_pos hadmitted
    rw [hname, List.cons_append] at htake
    simp only [reference?, hname, List.cons_append, htake]
    rw [← hdrop, hname, List.cons_append]
  · obtain rfl : cs = '{' :: (r.name ++ '}' :: more) := by
      rw [hwritten] at h
      simpa using h
    refine ⟨r.name, more, ?_, Nat.le_refl _⟩
    have htake : (r.name ++ '}' :: more).takeWhile (· ≠ '}') = r.name := by
      rw [List.takeWhile_append_of_pos fun c hc => decide_eq_true (hadmitted c hc)]
      simp
    have hdrop : (r.name ++ '}' :: more).dropWhile (· ≠ '}') = '}' :: more := by
      rw [List.dropWhile_append_of_pos fun c hc => decide_eq_true (hadmitted c hc)]
      simp
    rw [hname] at htake hdrop ⊢
    simp only [reference?, List.takeWhile_cons, isWordChar_brace, htake, hdrop]
    rfl

/-! ## The pieces of a text -/

inductive Piece where
  | char (c : Char)
  | reference (r : Reference)

def Piece.written : Piece → List Char
  | .char c => [c]
  | .reference r => r.written

def Piece.expanded (env : Environment) : Piece → List Char
  | .char c => [c]
  | .reference r => r.expanded env

/-- Before the text `cs`, no reference that begins where this one does goes further. -/
def Reference.IsLongest (r : Reference) (cs : List Char) : Prop :=
  ∀ (r' : Reference) (more : List Char), r.written ++ cs = r'.written ++ more →
    r'.written.length ≤ r.written.length

/-- How a text falls apart: a character is a piece of its own only where no reference begins,
and of the references that begin at a place the longest is taken. -/
inductive FallsApart : List Char → List Piece → Prop where
  | nil : FallsApart [] []
  | char {c : Char} {cs : List Char} {ps : List Piece}
      (leftmost : ∀ (r : Reference) (more : List Char), c :: cs ≠ r.written ++ more)
      (rest : FallsApart cs ps) : FallsApart (c :: cs) (.char c :: ps)
  | reference {r : Reference} {cs : List Char} {ps : List Piece} (longest : r.IsLongest cs)
      (rest : FallsApart cs ps) : FallsApart (r.written ++ cs) (.reference r :: ps)

variable {cs : List Char} {ps qs : List Piece}

/-- The pieces make up the text. -/
theorem FallsApart.flatMap_written (h : FallsApart cs ps) : ps.flatMap Piece.written = cs := by
  induction h with
  | nil => rfl
  | char _ _ ih => rw [List.flatMap_cons, ih, Piece.written, List.singleton_append]
  | reference _ _ ih => rw [List.flatMap_cons, ih, Piece.written]

theorem Reference.IsLongest.unique {r r' : Reference} {cs' : List Char} (hr : r.IsLongest cs)
    (hr' : r'.IsLongest cs') (h : r.written ++ cs = r'.written ++ cs') : r = r' ∧ cs = cs' := by
  obtain ⟨hwritten, hrest⟩ := List.append_inj h (Nat.le_antisymm (hr' r cs h.symm) (hr r' cs' h))
  exact ⟨Reference.written_injective hwritten, hrest⟩

theorem FallsApart.unique (hps : FallsApart cs ps) (hqs : FallsApart cs qs) : ps = qs := by
  induction hps generalizing qs with
  | nil =>
    generalize htext : ([] : List Char) = text at hqs
    cases hqs with
    | nil => rfl
    | char => cases htext
    | @reference r =>
      exact absurd (List.append_eq_nil_iff.1 htext.symm).1 r.written_ne_nil
  | char hleftmost _ ih =>
    generalize htext : _ :: _ = text at hqs
    cases hqs with
    | nil => cases htext
    | char _ hrest =>
      obtain ⟨rfl, rfl⟩ := List.cons.inj htext
      rw [ih hrest]
    | reference => exact absurd htext (hleftmost _ _)
  | @reference r cs _ hlongest _ ih =>
    generalize htext : r.written ++ cs = text at hqs
    cases hqs with
    | nil => exact absurd (List.append_eq_nil_iff.1 htext).1 r.written_ne_nil
    | char hleftmost => exact absurd htext.symm (hleftmost _ _)
    | reference hlongest' hrest =>
      obtain ⟨rfl, rfl⟩ := hlongest.unique hlongest' htext
      rw [ih hrest]

/-- What is found after a dollar is the longest reference there. -/
theorem exists_longest {name rest : List Char} (h : reference? cs = some (name, rest)) :
    ∃ r : Reference, r.name = name ∧ '$' :: cs = r.written ++ rest ∧ r.IsLongest rest := by
  obtain ⟨r, hname, hwritten⟩ := exists_reference h
  refine ⟨r, hname, hwritten, fun r' more heq => ?_⟩
  obtain ⟨name', rest', hfound, hle⟩ := reference?_of_written (hwritten.trans heq)
  obtain ⟨-, rfl⟩ : name = name' ∧ rest = rest' := by simpa using h.symm.trans hfound
  have hlength := congrArg List.length heq
  simp only [List.length_append] at hlength
  omega

/-- The longest reference that is written after a dollar is found there. -/
theorem Reference.IsLongest.found {r : Reference} {tail : List Char} (hlongest : r.IsLongest cs)
    (htail : r.written = '$' :: tail) : reference? (tail ++ cs) = some (r.name, cs) := by
  have htext : '$' :: (tail ++ cs) = r.written ++ cs := by rw [htail, List.cons_append]
  obtain ⟨name, rest, hfound, -⟩ := reference?_of_written htext
  obtain ⟨r', rfl, hwritten, hlongest'⟩ := exists_longest hfound
  obtain ⟨rfl, rfl⟩ := hlongest.unique hlongest' (htext.symm.trans hwritten)
  exact hfound

theorem exists_fallsApart (cs : List Char) : ∃ ps, FallsApart cs ps := by
  induction hn : cs.length using Nat.strongRecOn generalizing cs with
  | ind n ih =>
    cases cs with
    | nil => exact ⟨[], .nil⟩
    | cons c cs =>
      rw [List.length_cons] at hn
      by_cases hplain : c = '$' ∧ reference? cs ≠ none
      case pos =>
        obtain ⟨rfl, hfound⟩ := hplain
        obtain ⟨⟨name, rest⟩, hfound⟩ := Option.ne_none_iff_exists'.1 hfound
        have hlength := reference?_length hfound
        obtain ⟨r, -, hwritten, hlongest⟩ := exists_longest hfound
        obtain ⟨ps, hps⟩ := ih rest.length (by omega) rest rfl
        exact ⟨.reference r :: ps, hwritten ▸ .reference hlongest hps⟩
      case neg =>
        obtain ⟨ps, hps⟩ := ih cs.length (by omega) cs rfl
        refine ⟨.char c :: ps, .char (fun r more heq => hplain ?_) hps⟩
        obtain ⟨tail, hwritten⟩ := r.exists_written
        obtain rfl : c = '$' := by
          rw [hwritten] at heq
          exact (List.cons.inj heq).1
        obtain ⟨name, rest, hfound, -⟩ := reference?_of_written heq
        exact ⟨rfl, by rw [hfound]; nofun⟩

theorem expandText_eq_flatMap (env : Environment) (h : FallsApart cs ps) :
    expandText env cs = ps.flatMap (Piece.expanded env) := by
  induction h with
  | nil => rw [expandText, List.flatMap_nil]
  | @char c cs ps hleftmost _ ih =>
    have hnone : c = '$' → reference? cs = none := by
      rintro rfl
      by_contra hsome
      obtain ⟨⟨name, rest⟩, hfound⟩ := Option.ne_none_iff_exists'.1 hsome
      obtain ⟨r, -, hwritten⟩ := exists_reference hfound
      exact hleftmost r rest hwritten
    rw [expandText, List.flatMap_cons, Piece.expanded, ← ih]
    split
    · rename_i hdollar
      split
      · rfl
      · rename_i hfound
        rw [hnone hdollar] at hfound
        cases hfound
    · rfl
  | @reference r cs ps hlongest _ ih =>
    obtain ⟨tail, htail⟩ := r.exists_written
    have hfound := hlongest.found htail
    rw [List.flatMap_cons, Piece.expanded, Reference.expanded, ← ih, htail, List.cons_append,
      expandText, if_pos rfl]
    split
    · rename_i hnone
      rw [hfound] at hnone
      cases hnone
    · rename_i name rest hsome
      obtain ⟨rfl, rfl⟩ : r.name = name ∧ cs = rest := by simpa using hfound.symm.trans hsome
      cases henv : env (String.ofList r.name) with
      | some value => rfl
      | none => simp

/-! ## The shape of a value -/

theorem expandItems_eq_map (env : Environment) (items : List Value) :
    expandItems env items = items.map (expand env) := by
  induction items with
  | nil => rfl
  | cons v rest ih => rw [expandItems, ih, List.map_cons]

theorem expandEntries_eq_map (env : Environment) (entries : List (String × Value)) :
    expandEntries env entries = entries.map fun (k, v) => (k, expand env v) := by
  induction entries with
  | nil => rfl
  | cons entry rest ih => rw [expandEntries, ih, List.map_cons]

theorem lookup_expandEntries (env : Environment) (entries : List (String × Value)) (k : String) :
    Value.lookup (expandEntries env entries) k = (Value.lookup entries k).map (expand env) := by
  induction entries with
  | nil => rfl
  | cons entry rest ih =>
    rw [expandEntries, Value.lookup_cons, Value.lookup_cons, ih]
    split
    · rfl
    · rfl

theorem isTable_expand (env : Environment) (v : Value) : (env.expand v).isTable = v.isTable := by
  cases v <;> rfl

theorem at?_expand (env : Environment) (v : Value) (p : List String) :
    (env.expand v).at? p = (v.at? p).map env.expand := by
  induction p generalizing v with
  | nil => rfl
  | cons k ks ih =>
    have hfield : (env.expand v).field? k = (v.field? k).map env.expand := by
      cases v with
      | table entries => exact lookup_expandEntries env entries k
      | _ => rfl
    rw [Value.at?, Value.at?, hfield]
    cases v.field? k with
    | none => rfl
    | some below => exact ih below

theorem expandEntries_insert (env : Environment) (k : String) (v : Value)
    (entries : List (String × Value)) :
    expandEntries env (Value.insert k v entries) =
      Value.insert k (expand env v) (expandEntries env entries) := by
  induction entries with
  | nil => rfl
  | cons entry rest ih =>
    obtain ⟨k', v'⟩ := entry
    rw [Value.insert, expandEntries, Value.insert]
    split
    · rw [expandEntries]
    · rw [expandEntries, ih]

mutual

theorem expand_layOver (env : Environment) (base v : Value) :
    expand env (Value.layOver base v) = Value.layOver (expand env base) (expand env v) := by
  cases v with
  | table upper =>
    cases base with
    | table entries => exact congrArg Value.table (expandEntries_overlay env entries upper)
    | _ => rfl
  | _ => rfl

/-- The values may be put in before the tables are laid over each other or after it. -/
theorem expandEntries_overlay (env : Environment) (base upper : List (String × Value)) :
    expandEntries env (Value.overlay base upper) =
      Value.overlay (expandEntries env base) (expandEntries env upper) := by
  cases upper with
  | nil => rfl
  | cons entry rest =>
    obtain ⟨k, v⟩ := entry
    have hlookup := lookup_expandEntries env base k
    rw [Value.overlay, expandEntries, Value.overlay, hlookup]
    cases Value.lookup base k with
    | none => rw [Option.map_none, expandEntries_overlay env _ rest, expandEntries_insert]
    | some below =>
      rw [Option.map_some, expandEntries_overlay env _ rest, expandEntries_insert,
        expand_layOver env below v]

end

/-- The values of variables may be put in before two tables are laid over each other or after
it; a list keeps its length and a table its keys, what is no text stays the same, and a text
falls apart in one way, whatever is set, into pieces that are replaced once. -/
theorem expansion_commutes_with_layers :
    (∀ (env : Environment) (a b : List (String × Value)),
      env.expand (.table (Value.overlay a b)) =
        .table (Value.overlay (env.expandEntries a) (env.expandEntries b))) ∧
    ∀ v : Value,
      match v with
      | .text s =>
        (∃! ps, FallsApart s.toList ps) ∧
          ∃ ps, FallsApart s.toList ps ∧ ps.flatMap Piece.written = s.toList ∧
            ∀ env : Environment,
              env.expand (.text s) = .text (String.ofList (ps.flatMap (Piece.expanded env)))
      | .list items => ∀ env : Environment, env.expand (.list items) = .list (items.map env.expand)
      | .table entries => ∀ env : Environment,
        env.expand (.table entries) = .table (entries.map fun (k, v) => (k, env.expand v))
      | v => ∀ env : Environment, env.expand v = v := by
  refine ⟨fun env a b => congrArg Value.table (expandEntries_overlay env a b), fun v => ?_⟩
  cases v with
  | text s =>
    obtain ⟨ps, hps⟩ := exists_fallsApart s.toList
    refine ⟨⟨ps, hps, fun qs hqs => hqs.unique hps⟩, ps, hps, hps.flatMap_written, fun env => ?_⟩
    rw [expand, expandText_eq_flatMap env hps]
  | list items =>
    intro env
    rw [expand, expandItems_eq_map]
  | table entries =>
    intro env
    rw [expand, expandEntries_eq_map]
  | _ => exact fun _ => rfl

/-- What was put in is not looked at again, and what is no reference stays. -/
example : expandText (fun name => if name = "A" then some "$A" else none)
    ['$', 'A', '$', '{', 'A', '}', '$', '{'] = ['$', 'A', '$', 'A', '$', '{'] := by
  cbv

end LintRelay.Environment
