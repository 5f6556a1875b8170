import LintRelay.Linter.Basic
import LintRelay.Proofs.Path
import LintRelay.Validation.Selection

/-!
# Which reports are kept

The linter is given the path of a document resolved, while its reports are compared with the
path as the document's URI has it. The two are one path if the URI's path begins with one slash
and has no double dots, and then the reports of the document are those that the linter wrote
for it. For any other path there are reports, one of them the linter's own, of which the wrong
ones are kept.
-/

namespace LintRelay

theorem Uri.isProper_of_toPath {uri : String} {path : Path} (h : toPath uri = .ok path) :
    path.IsProper := by
  unfold toPath at h
  repeat' split at h
  all_goals cases h
  all_goals exact Path.isProper_ofString _

namespace Document

variable {cwd path target : Path} {d : Document} {reports : List FileReport}

/-- What is kept of reports, at the path that the URI has. -/
theorem reports_of_toPath (hpath : Uri.toPath d.uri = .ok path) :
    d.reports reports =
      if reports.filter (·.describes path) = [] then reports
      else reports.filter (·.describes path) := by
  rw [Document.reports, hpath]

theorem describes_of_isAbsolute {r : FileReport} (h : (Path.ofString r.filePath).isAbsolute) :
    r.describes path ↔ Path.ofString r.filePath = path := by
  rw [FileReport.describes, if_pos h, decide_eq_true_eq]

/-- The file that the linter is given, by the path that the URI has. -/
theorem target_eq_ok_iff (hpath : Uri.toPath d.uri = .ok path) :
    Linter.target cwd d = .ok target ↔ Path.resolve cwd path = .ok target := by
  simp only [Linter.target, hpath]
  cases Path.resolve cwd path <;> simp [Except.mapError]

/-- Reports are kept as the linter was run: with a report of the linter's file among them, all
such reports are kept, and no report with the absolute path of another file. -/
def KeepsLinted (cwd : Path) (d : Document) (target : Path) : Prop :=
  ∀ reports : List FileReport, (∃ r ∈ reports, r.filePath = target.render) →
    (d.reports reports).filter (·.filePath = target.render) =
        reports.filter (·.filePath = target.render) ∧
      ∀ r ∈ d.reports reports, (Path.ofString r.filePath).isAbsolute →
        ∀ other, Path.resolve cwd (Path.ofString r.filePath) = .ok other → other = target

/-- What is kept where the URI has the path that the linter is given. -/
theorem keepsLinted_of_eq (hpath : Uri.toPath d.uri = .ok target)
    (hproper : target.IsProper) (hroot : target.isAbsolute)
    (hself : Path.resolve cwd target = .ok target) : KeepsLinted cwd d target := by
  intro reports hlinted
  have hdescribed (r : FileReport) (hr : r.filePath = target.render) : r.describes target := by
    have hread : Path.ofString r.filePath = target := by rw [hr, Path.ofString_render hproper]
    exact (describes_of_isAbsolute (hread ▸ hroot)).mpr hread
  have hkept : d.reports reports = reports.filter (·.describes target) := by
    obtain ⟨r, hr, hfile⟩ := hlinted
    rw [reports_of_toPath hpath, if_neg (List.ne_nil_of_mem (List.mem_filter.mpr
      ⟨hr, hdescribed r hfile⟩))]
  rw [hkept]
  constructor
  · rw [List.filter_filter]
    refine List.filter_congr fun r _ => ?_
    by_cases hfile : r.filePath = target.render <;> simp [hfile, hdescribed r]
  · intro r hr habsolute other hother
    obtain ⟨-, hdescribes⟩ := List.mem_filter.mp hr
    rw [(describes_of_isAbsolute habsolute).mp hdescribes, hself] at hother
    exact (Except.ok.inj hother).symm

/-- There is always another file. -/
theorem exists_other (target : Path) : ∃ text, (Path.ofString text).isAbsolute ∧
    (∀ cwd, Path.resolve cwd (Path.ofString text) = .ok (Path.ofString text)) ∧
    Path.ofString text ≠ target := by
  by_cases h : target = Path.ofString "/a"
  · refine ⟨"/b", by decide, fun cwd => rfl, ?_⟩
    rw [h]
    decide
  · exact ⟨"/a", by decide, fun cwd => rfl, Ne.symm h⟩

/-- What is lost where the two paths are not the same: the linter's own report, or with it
every other one is kept. -/
theorem not_keepsLinted_of_ne (hpath : Uri.toPath d.uri = .ok path) (hproper : target.IsProper)
    (hroot : target.isAbsolute) (hne : path ≠ target) : ¬ KeepsLinted cwd d target := by
  intro hkeeps
  obtain ⟨text, habsolute, hself, hother⟩ := exists_other target
  obtain ⟨hall, honly⟩ := hkeeps [⟨target.render, []⟩, ⟨text, []⟩] ⟨_, List.mem_cons_self, rfl⟩
  have hread : Path.ofString target.render = target := Path.ofString_render hproper
  have hunseen : FileReport.describes path ⟨target.render, []⟩ = false := by
    rw [Bool.eq_false_iff, ne_eq, describes_of_isAbsolute (by rwa [hread]), hread]
    exact Ne.symm hne
  cases hseen : FileReport.describes path ⟨text, []⟩ with
  | true =>
      -- The other file's report is the only one to be kept.
      have hkept : d.reports [⟨target.render, []⟩, ⟨text, []⟩] = [⟨text, []⟩] := by
        simp [reports_of_toPath hpath, hunseen, hseen]
      have hlinted : (⟨target.render, []⟩ : FileReport) ∈ [(⟨text, []⟩ : FileReport)] := by
        rw [hkept] at hall
        refine (List.mem_filter.mp (hall.symm ▸ List.mem_filter.mpr ⟨?_, ?_⟩)).1
        · exact List.mem_cons_self
        · exact decide_eq_true rfl
      have htext : target.render = text :=
        congrArg FileReport.filePath (List.mem_singleton.mp hlinted)
      exact hother (htext ▸ hread)
  | false =>
      -- No report is known to be the document's, and all are kept.
      have hkept : d.reports [⟨target.render, []⟩, ⟨text, []⟩] =
          [⟨target.render, []⟩, ⟨text, []⟩] := by
        simp [reports_of_toPath hpath, hunseen, hseen]
      rw [hkept] at honly
      exact hother (honly ⟨text, []⟩ (by simp) habsolute _ (hself cwd))

/-- **Reports are kept as the linter was run** exactly for the documents whose path begins with
one slash and has no double dots. This is said of a file system without symbolic links, as
`Path.resolve` follows none; with one on its way, a path without double dots can fail too. -/
theorem keepsLinted_iff {directory : String} (hpath : Uri.toPath d.uri = .ok path)
    (htarget : Linter.target (Path.ofString directory) d = .ok target) :
    KeepsLinted (Path.ofString directory) d target ↔
      path.root = .slash ∧ ".." ∉ path.names := by
  rw [target_eq_ok_iff hpath] at htarget
  have hproper : target.IsProper := Path.IsProper.resolve (Path.isProper_ofString directory)
    (Uri.isProper_of_toPath hpath) htarget
  have hroot : target.isAbsolute := by
    rw [Path.resolve_eq_ok htarget]
    rfl
  rw [← Path.resolve_eq_self_iff htarget]
  constructor
  · exact fun hkeeps => by_contra fun hne => not_keepsLinted_of_ne hpath hproper hroot hne hkeeps
  · rintro rfl
    exact keepsLinted_of_eq hpath hproper hroot htarget

/-- With double dots in its path, a document's reports are not kept as the linter was run. -/
theorem keepsLinted_iff_doubleDots :
    Uri.toPath "/w/x/../a.proto" = .ok ⟨.slash, ["w", "x", "..", "a.proto"]⟩ ∧
      Linter.target (Path.ofString "/work") ⟨"/w/x/../a.proto", "", 0⟩ =
        .ok ⟨.slash, ["w", "a.proto"]⟩ ∧
      ¬ KeepsLinted (Path.ofString "/work") ⟨"/w/x/../a.proto", "", 0⟩
        ⟨.slash, ["w", "a.proto"]⟩ := by
  have hpath : Uri.toPath "/w/x/../a.proto" = .ok ⟨.slash, ["w", "x", "..", "a.proto"]⟩ := rfl
  have htarget : Linter.target (Path.ofString "/work") ⟨"/w/x/../a.proto", "", 0⟩ =
      .ok ⟨.slash, ["w", "a.proto"]⟩ := rfl
  exact ⟨hpath, htarget, fun hkeeps =>
    absurd ((keepsLinted_iff hpath htarget).mp hkeeps).2 (by decide)⟩

end Document

end LintRelay
