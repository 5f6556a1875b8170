import Mathlib.Data.List.Basic
import Mathlib.Tactic.SplitIfs
import LintRelay.Path

/-!
# Paths and their texts

The names of a path are proper ones wherever it comes from a text, and then the path is what
its written form denotes. A path resolved against a directory has no double dots left, and is
the path it came from only if that began with one slash and had none.
-/

namespace LintRelay.Path

/-! ## Written paths -/

/-- A name that a path can hold. -/
def IsProperName (name : String) : Prop :=
  isName name.toList = true ∧ '/' ∉ name.toList

/-- A path all of whose names can be there. -/
def IsProper (p : Path) : Prop :=
  ∀ name ∈ p.names, IsProperName name

/-- No part of a text that is cut at a character holds it. -/
theorem not_mem_of_mem_splitOn {c : Char} {cs part : List Char} (h : part ∈ cs.splitOn c) :
    c ∉ part := by
  rw [List.splitOn] at h
  induction cs generalizing part with
  | nil =>
      rw [List.splitOnP_nil, List.mem_singleton] at h
      simp [h]
  | cons d ds ih =>
      rw [List.splitOnP_cons_eq_if_modifyHead] at h
      split_ifs at h with hd
      · rcases List.mem_cons.mp h with rfl | h
        · exact List.not_mem_nil
        · exact ih h
      · obtain ⟨first, parts, hparts⟩ :=
          List.exists_cons_of_ne_nil (List.splitOnP_ne_nil (· == c) ds)
        rw [hparts, List.modifyHead_cons] at h
        rw [hparts] at ih
        rcases List.mem_cons.mp h with rfl | h
        · rw [List.mem_cons, not_or]
          exact ⟨fun hc => hd (by simp [hc]), ih List.mem_cons_self⟩
        · exact ih (List.mem_cons_of_mem _ h)

theorem subset_intercalate {sep part : List Char} {parts : List (List Char)} (h : part ∈ parts) :
    part ⊆ sep.intercalate parts := by
  induction parts with
  | nil => exact absurd h List.not_mem_nil
  | cons first rest ih =>
      cases rest with
      | nil =>
          obtain rfl := List.mem_singleton.mp h
          rw [List.intercalate_singleton]
          exact List.Subset.refl _
      | cons second rest =>
          rw [List.intercalate_cons_cons]
          rcases List.mem_cons.mp h with rfl | h
          · exact List.Subset.trans (List.subset_append_left _ _) (List.subset_append_left _ _)
          · exact List.Subset.trans (ih h) (List.subset_append_right _ _)

/-- The parts of a text that is cut hold no characters but its own. -/
theorem subset_of_mem_splitOn {c : Char} {cs part : List Char} (h : part ∈ cs.splitOn c) :
    part ⊆ cs := by
  have hsubset : part ⊆ [c].intercalate (cs.splitOn c) := subset_intercalate h
  rwa [List.intercalate_splitOn] at hsubset

theorem isProper_ofString (s : String) : (ofString s).IsProper := by
  intro name hname
  obtain ⟨part, hpart, rfl⟩ := List.mem_map.mp hname
  obtain ⟨hpart, hisName⟩ := List.mem_filter.mp hpart
  rw [IsProperName, String.toList_ofList]
  exact ⟨hisName, not_mem_of_mem_splitOn hpart⟩

/-- A slash at the start stands before no further name. -/
theorem filter_splitOn_slash (cs : List Char) :
    (('/' :: cs).splitOn '/').filter isName = (cs.splitOn '/').filter isName := by
  rw [List.splitOn, List.splitOnP_cons_eq_if_modifyHead, if_pos (by decide),
    List.filter_cons_of_neg (by decide)]
  rfl

/-- Names with slashes between them are read back. -/
theorem filter_splitOn_intercalate {names : List (List Char)}
    (h : ∀ name ∈ names, isName name = true ∧ '/' ∉ name) :
    ((['/'].intercalate names).splitOn '/').filter isName = names := by
  cases names with
  | nil => rfl
  | cons name names =>
      rw [List.splitOn_intercalate '/' (fun n hn => (h n hn).2) (List.cons_ne_nil _ _),
        List.filter_eq_self]
      exact fun n hn => (h n hn).1

theorem head?_intercalate_ne {names : List (List Char)}
    (h : ∀ name ∈ names, isName name = true ∧ '/' ∉ name) :
    (['/'].intercalate names).head? ≠ some '/' := by
  match names with
  | [] => simp
  | [] :: names => exact absurd (h [] List.mem_cons_self).1 (by decide)
  | (c :: cs) :: names =>
      have hc : c ≠ '/' := fun hc => (h (c :: cs) List.mem_cons_self).2 (by simp [hc])
      cases names <;> simpa using hc

/-- The root shows in a text, if no slash follows it. -/
theorem rootOf_append (root : Root) {cs : List Char} (h : cs.head? ≠ some '/') :
    rootOf ((rootText root).toList ++ cs) = root := by
  have hrelative (c : Char) (rest : List Char) (hc : c ≠ '/') : rootOf (c :: rest) = .relative := by
    simp [rootOf, hc]
  cases cs with
  | nil => cases root <;> rfl
  | cons c rest =>
      have hc : c ≠ '/' := fun hc => h (by rw [hc]; rfl)
      cases root with
      | relative => exact hrelative c rest hc
      | slash => simp [rootText, rootOf, hc]
      | doubleSlash => simp [rootText, rootOf, hc]

/-- **A path is what its written form denotes**, if its names are proper. -/
theorem ofString_render {p : Path} (h : p.IsProper) : ofString p.render = p := by
  obtain ⟨root, names⟩ := p
  by_cases hdot : root = .relative ∧ names = []
  · obtain ⟨rfl, rfl⟩ := hdot
    decide
  have hnames : ∀ name ∈ names.map String.toList, isName name = true ∧ '/' ∉ name :=
    List.forall_mem_map.mpr h
  have hread : ((['/'].intercalate (names.map String.toList)).splitOn '/').filter isName =
      names.map String.toList := filter_splitOn_intercalate hnames
  have hhead := head?_intercalate_ne hnames
  have htext : (render ⟨root, names⟩).toList =
      (rootText root).toList ++ ['/'].intercalate (names.map String.toList) := by
    rw [render, if_neg hdot, String.toList_append, String.toList_intercalate]
    rfl
  rw [ofString, htext, rootOf_append root hhead]
  congr 1
  have hback : (names.map String.toList).map String.ofList = names := by
    simp
  cases root with
  | relative => rw [rootText, String.toList_empty, List.nil_append, hread, hback]
  | slash =>
    rw [show (rootText .slash).toList = ['/'] from rfl, List.singleton_append,
      filter_splitOn_slash, hread, hback]
  | doubleSlash =>
    rw [show (rootText .doubleSlash).toList = ['/', '/'] from rfl, List.cons_append,
      List.singleton_append, filter_splitOn_slash, filter_splitOn_slash, hread, hback]

theorem hasNull_of_ofString {s : String} (h : hasNull s = false) :
    (ofString s).names.any hasNull = false := by
  rw [List.any_eq_false]
  intro name hname hnull
  obtain ⟨part, hpart, rfl⟩ := List.mem_map.mp hname
  have hsubset : part ⊆ s.toList := subset_of_mem_splitOn (List.mem_filter.mp hpart).1
  simp only [hasNull, String.toList_ofList, List.contains_iff_mem] at hnull
  simp only [hasNull, List.contains_eq_mem, decide_eq_false_iff_not] at h
  exact h (hsubset hnull)

/-! ## Resolved paths -/

/-- Names that lead nowhere back are followed to their end. -/
theorem foldl_follow_of_not_mem {names : List String} (h : ".." ∉ names) (before : List String) :
    names.foldl follow before = before ++ names := by
  induction names generalizing before with
  | nil => simp
  | cons name names ih =>
      rw [List.mem_cons, not_or] at h
      rw [List.foldl_cons, follow, if_neg (Ne.symm h.1), ih h.2, List.append_assoc,
        List.singleton_append]

theorem mem_foldl_follow {names before : List String} {name : String}
    (h : name ∈ names.foldl follow before) : name ∈ before ∨ name ∈ names ∧ name ≠ ".." := by
  induction names generalizing before with
  | nil => exact .inl h
  | cons first names ih =>
      rcases ih h with hfollow | ⟨hmem, hne⟩
      · rw [follow] at hfollow
        split_ifs at hfollow with hback
        · exact .inl (List.dropLast_subset _ hfollow)
        · rcases List.mem_append.mp hfollow with hbefore | hfirst
          · exact .inl hbefore
          · obtain rfl := List.mem_singleton.mp hfirst
            exact .inr ⟨List.mem_cons_self, hback⟩
      · exact .inr ⟨List.mem_cons_of_mem _ hmem, hne⟩

section

variable {cwd p q : Path}

theorem mem_place {name : String} (h : name ∈ cwd.place p) :
    (name ∈ cwd.names ∨ name ∈ p.names) ∧ name ≠ ".." := by
  rcases mem_foldl_follow h with hnil | ⟨hmem, hne⟩
  · exact absurd hnil List.not_mem_nil
  · refine ⟨?_, hne⟩
    rcases List.mem_append.mp hmem with hcwd | hp
    · split_ifs at hcwd
      · exact absurd hcwd List.not_mem_nil
      · exact .inl hcwd
    · exact .inr hp

theorem resolve_eq_ok (h : resolve cwd p = .ok q) : q = ⟨.slash, cwd.place p⟩ := by
  unfold resolve at h
  split_ifs at h
  exact (Except.ok.inj h).symm

/-- A text without a null denotes a path that is resolved, against any directory. -/
theorem resolve_ofString {s : String} (h : hasNull s = false) :
    Path.resolve cwd (ofString s) = .ok ⟨.slash, cwd.place (ofString s)⟩ := by
  rw [Path.resolve, hasNull_of_ofString h]
  rfl

theorem IsProper.resolve (hcwd : cwd.IsProper) (hp : p.IsProper) (h : resolve cwd p = .ok q) :
    q.IsProper := by
  obtain rfl := resolve_eq_ok h
  exact fun name hname => (mem_place hname).1.elim (hcwd name) (hp name)

/-- A path is resolved to itself if it begins with one slash and has no double dots. -/
theorem resolve_eq_self_iff (h : Path.resolve cwd p = .ok q) :
    p = q ↔ p.root = .slash ∧ ".." ∉ p.names := by
  obtain rfl := resolve_eq_ok h
  constructor
  · intro hself
    rw [hself]
    exact ⟨rfl, fun hdots => (mem_place hdots).2 rfl⟩
  · rintro ⟨hroot, hdots⟩
    obtain ⟨root, names⟩ := p
    obtain rfl : root = .slash := hroot
    exact congrArg (Path.mk .slash) (foldl_follow_of_not_mem hdots []).symm

end

end LintRelay.Path
