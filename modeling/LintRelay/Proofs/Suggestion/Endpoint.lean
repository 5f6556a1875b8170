import Mathlib.Tactic.SplitIfs
import LintRelay.Proofs.Uri.Split
import LintRelay.Suggestion.Service

/-!
# Which endpoints can be used

A service takes the endpoints that begin with one of its schemes, in either case, and whose
host part could be one. Blanks and controls at the front do not count, nor do tabs and line
breaks.
-/

namespace LintRelay

namespace CompletionService

/-- A text that is an endpoint: one of the schemes, a colon, and a host part that could be one. -/
def IsEndpoint (text : String) : Prop :=
  ∃ name rest, Uri.cleaned text = name ++ ':' :: rest ∧
    String.ofList (name.map Char.toLower) ∈ schemes ∧ Uri.IsHost (Uri.splitHost rest).1

variable {s : CompletionService}

theorem isAlpha_of_toLower {c : Char} (h : c.toLower.isAlpha = true) : c.isAlpha = true := by
  unfold Char.toLower at h
  split at h
  · rename_i hupper
    have hisUpper : c.isUpper = true := decide_eq_true hupper
    change (c.isUpper || c.isLower) = true
    rw [hisUpper, Bool.true_or]
  · exact h

theorem isAlpha_of_scheme {name : List Char} (h : String.ofList (name.map Char.toLower) ∈ schemes) :
    name ≠ [] ∧ ∀ c ∈ name, c.isAlpha = true := by
  have hscheme : ∀ scheme ∈ schemes, scheme ≠ "" ∧ scheme.toList.all Char.isAlpha = true := by
    decide
  obtain ⟨hne, hall⟩ := hscheme _ h
  rw [String.toList_ofList, List.all_map] at hall
  refine ⟨?_, fun c hc => ?_⟩
  · rintro rfl
    exact hne rfl
  · exact isAlpha_of_toLower (List.all_eq_true.mp hall c hc)

theorem check_eq_ok_iff : s.check = .ok () ↔ IsEndpoint s.endpoint := by
  rw [check]
  constructor
  · intro h
    cases hsplit : Uri.split s.endpoint with
    | error e =>
      rw [hsplit] at h
      cases h
    | ok parts =>
      rw [hsplit] at h
      change (if parts.scheme ∈ schemes then Except.ok () else _) = _ at h
      split_ifs at h with hscheme
      obtain ⟨hhost, rfl⟩ := Uri.split_eq_ok_iff.mp hsplit
      rw [Uri.partsOf] at hscheme
      rw [Uri.hostOf] at hhost
      rcases Uri.splitScheme_cases (Uri.cleaned s.endpoint) with hcut | ⟨name, rest, hcs, hcut⟩
      · -- without a name the scheme is empty, and that is none of them
        rw [hcut] at hscheme
        obtain ⟨hne, -⟩ : ([] : List Char) ≠ [] ∧ _ := isAlpha_of_scheme hscheme
        exact absurd rfl hne
      · rw [hcut] at hscheme hhost
        exact ⟨name, rest, hcs, hscheme, hhost⟩
  · rintro ⟨name, rest, hcs, hscheme, hhost⟩
    obtain ⟨hne, halpha⟩ := isAlpha_of_scheme hscheme
    have hcut : Uri.splitScheme (Uri.cleaned s.endpoint) = (name.map Char.toLower, rest) := by
      rw [hcs]
      exact Uri.splitScheme_append hne halpha
    have hsplit : Uri.split s.endpoint = .ok (Uri.partsOf s.endpoint) :=
      Uri.split_eq_ok_iff.mpr ⟨by rwa [Uri.hostOf, hcut], rfl⟩
    rw [hsplit]
    refine if_pos ?_
    rwa [Uri.partsOf, hcut]

end CompletionService

end LintRelay
