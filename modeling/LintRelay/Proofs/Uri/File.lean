import LintRelay.Proofs.Path
import LintRelay.Proofs.Uri.Percent
import LintRelay.Proofs.Uri.Split
import LintRelay.Uri.File

/-!
# URIs address their files

The URI of a path is cut into the scheme of files, no host part and the encoded path, so
that it addresses the path that it was made for. Two paths have one URI only if they are
one file.
-/

namespace LintRelay.Uri

/-! ## Cutting the URI of a file -/

/-- The URI of a path that is resolved. -/
def ofResolved (file : Path) : String :=
  "file://" ++ encode file.render

theorem ofPath_eq (cwd p : Path) : ofPath cwd p = (Path.resolve cwd p).map ofResolved :=
  rfl

/-- Encoded characters are none of those that are dropped, or that end a path. -/
theorem IsEncoded.kept {c : Char} (h : IsEncoded c) :
    (c ≠ '\t' ∧ c ≠ '\r' ∧ c ≠ '\n') ∧ c ≠ '#' ∧ c ≠ '?' := by
  refine ⟨⟨?_, ?_, ?_⟩, ?_, ?_⟩
  all_goals
    rintro rfl
    exact absurd h (by decide)

section

variable {path : List Char}

/-- Nothing of a file's URI is dropped. -/
theorem cleaned_file (h : ∀ c ∈ path, IsEncoded c) :
    cleaned ("file://" ++ String.ofList path) = "file".toList ++ ':' :: '/' :: '/' :: path := by
  have htext : ("file://" ++ String.ofList path).toList =
      'f' :: 'i' :: 'l' :: 'e' :: ':' :: '/' :: '/' :: path := by
    simp [String.toList_append]
  have hpath : path.filter (fun c => c ≠ '\t' ∧ c ≠ '\r' ∧ c ≠ '\n') = path :=
    List.filter_eq_self.mpr fun c hc => decide_eq_true (h c hc).kept.1
  rw [cleaned, htext, List.dropWhile_cons_of_neg (by decide)]
  simp only [List.filter_cons, hpath]
  rfl

/-- **The parts of a file's URI**: the scheme of files, no host part, and all of the path. -/
theorem split_file (h : ∀ c ∈ '/' :: path, IsEncoded c) :
    split ("file://" ++ String.ofList ('/' :: path)) =
      .ok ⟨"file", "", String.ofList ('/' :: path)⟩ := by
  have hscheme : splitScheme (cleaned ("file://" ++ String.ofList ('/' :: path))) =
      ("file".toList, '/' :: '/' :: '/' :: path) := by
    rw [cleaned_file h, splitScheme_append (by decide) (List.all_eq_true.mp (by decide))]
    rfl
  have hhost : splitHost ('/' :: '/' :: '/' :: path) = ([], '/' :: path) := by
    simp [splitHost, endsHost]
  have hpath : ('/' :: path).takeWhile (fun c => c ≠ '#' ∧ c ≠ '?') = '/' :: path :=
    List.takeWhile_eq_self_iff.mpr fun c hc => decide_eq_true (h c hc).kept.2
  rw [split_eq_ok_iff, hostOf, partsOf, hostOf, hscheme, hhost, hpath]
  exact ⟨⟨rfl, by simp⟩, rfl⟩

end

/-! ## The file of a URI -/

/-- A path whose root is one slash is written with it at the start, encoded or not. -/
theorem exists_encode_render (names : List String) :
    ∃ path, (encode (Path.render ⟨.slash, names⟩)).toList = '/' :: path := by
  have hrender : Path.render ⟨.slash, names⟩ = "/" ++ "/".intercalate names := if_neg (by simp)
  refine ⟨(encode ("/".intercalate names)).toList, ?_⟩
  simp only [encode, hrender, String.toList_ofList, String.toList_append, Text.Utf8.encode,
    List.flatMap_append]
  rfl

/-- **The URI of a file addresses the file.** -/
theorem toPath_ofResolved {names : List String} (h : Path.IsProper ⟨.slash, names⟩) :
    toPath (ofResolved ⟨.slash, names⟩) = .ok ⟨.slash, names⟩ := by
  obtain ⟨path, hpath⟩ := exists_encode_render names
  have hencoded : ∀ c ∈ '/' :: path, IsEncoded c :=
    fun c hc => isEncoded_of_mem_encode (hpath ▸ hc)
  have htext : encode (Path.render ⟨.slash, names⟩) = String.ofList ('/' :: path) := by
    rw [← hpath, String.ofList_toList]
  have hsplit : split (ofResolved ⟨.slash, names⟩) =
      .ok ⟨"file", "", encode (Path.render ⟨.slash, names⟩)⟩ := by
    rw [ofResolved, htext, split_file hencoded]
  have hscheme : ¬"file".length ≤ 1 := by decide
  simp only [toPath, hsplit, hscheme, ne_eq, not_true_eq_false, true_or, if_true, if_false,
    decode_encode, Path.ofString_render h]

theorem ofResolved_inj {names names' : List String} (h : Path.IsProper ⟨.slash, names⟩)
    (h' : Path.IsProper ⟨.slash, names'⟩)
    (huri : ofResolved ⟨.slash, names⟩ = ofResolved ⟨.slash, names'⟩) :
    Path.mk .slash names = ⟨.slash, names'⟩ := by
  have haddressed := toPath_ofResolved h
  rw [huri, toPath_ofResolved h'] at haddressed
  exact (Except.ok.inj haddressed).symm

/-- **URIs address their files.** The URI of any path without a null leads to the file that the
path resolves to, wherever one stands, so that two paths have one URI exactly if they resolve
to one file. -/
theorem uris_address_files (directory p : String) (hp : hasNull p = false) :
    (∃ uri file, ofPath (Path.ofString directory) (Path.ofString p) = .ok uri ∧
      Path.resolve (Path.ofString directory) (Path.ofString p) = .ok file ∧
      toPath uri = .ok file) ∧
    ∀ q, hasNull q = false →
      (ofPath (Path.ofString directory) (Path.ofString p) =
          ofPath (Path.ofString directory) (Path.ofString q) ↔
        Path.resolve (Path.ofString directory) (Path.ofString p) =
          Path.resolve (Path.ofString directory) (Path.ofString q)) := by
  have hproper (s : String) (hs : hasNull s = false) :
      Path.IsProper ⟨.slash, (Path.ofString directory).place (Path.ofString s)⟩ :=
    (Path.isProper_ofString directory).resolve (Path.isProper_ofString s)
      (Path.resolve_ofString hs)
  refine ⟨⟨_, _, ?_, Path.resolve_ofString hp, toPath_ofResolved (hproper p hp)⟩, ?_⟩
  · rw [ofPath_eq, Path.resolve_ofString hp]
    rfl
  · intro q hq
    rw [ofPath_eq, ofPath_eq, Path.resolve_ofString hp, Path.resolve_ofString hq]
    constructor
    · intro h
      rw [ofResolved_inj (hproper p hp) (hproper q hq) (Except.ok.inj h)]
    · intro h
      rw [Except.ok.inj h]

/-- Marks that would end a path, and percent signs that stand for themselves, beside a plain
name that a double dot leads to. -/
theorem uris_address_files_marks :
    hasNull "x/..//100%41 a?b#c;é\n" = false ∧ hasNull "./100A" = false ∧
      (∃ uri file, ofPath (Path.ofString "/work") (Path.ofString "x/..//100%41 a?b#c;é\n") =
          .ok uri ∧
        Path.resolve (Path.ofString "/work") (Path.ofString "x/..//100%41 a?b#c;é\n") =
          .ok file ∧
        toPath uri = .ok file) ∧
      (ofPath (Path.ofString "/work") (Path.ofString "x/..//100%41 a?b#c;é\n") =
          ofPath (Path.ofString "/work") (Path.ofString "./100A") ↔
        Path.resolve (Path.ofString "/work") (Path.ofString "x/..//100%41 a?b#c;é\n") =
          Path.resolve (Path.ofString "/work") (Path.ofString "./100A")) := by
  have hmarks : hasNull "x/..//100%41 a?b#c;é\n" = false := by decide
  have hplain : hasNull "./100A" = false := by decide
  obtain ⟨haddressed, hsame⟩ := uris_address_files "/work" _ hmarks
  exact ⟨hmarks, hplain, haddressed, hsame _ hplain⟩

example : ofPath (Path.ofString "/work") (Path.ofString "x/..//100%41 a?b#c;é\n") =
    .ok "file:///work/100%2541%20a%3Fb%23c%3B%C3%A9%0A" := by
  decide +kernel

end LintRelay.Uri
