import LintRelay.Diagnostic
import LintRelay.Value.Json

/-!
# Published sets

Diagnostics are published as one set per document, which replaces the set
published before. A history keeps every publication; a stream writes each as one
line of JSON, unless a place in it has numbers that are too long.
-/

namespace LintRelay

structure Publication where
  uri : String
  diagnostics : List Diagnostic
  deriving DecidableEq, Inhabited

/-- All publications, the latest last. -/
structure PublicationHistory where
  events : List Publication := []
  deriving DecidableEq, Inhabited

def PublicationHistory.publish (h : PublicationHistory) (p : Publication) : PublicationHistory :=
  ⟨h.events ++ [p]⟩

/-- The set that a document has now, if any was published. -/
def PublicationHistory.current? (h : PublicationHistory) (uri : String) :
    Option (List Diagnostic) :=
  (h.events.reverse.find? (·.uri = uri)).map Publication.diagnostics

/-- The set that a document has is the one after which no other was published. -/
theorem PublicationHistory.current?_eq_some_iff (h : PublicationHistory) (uri : String)
    (set : List Diagnostic) : h.current? uri = some set ↔
      ∃ before after, h.events = before ++ ⟨uri, set⟩ :: after ∧ ∀ x ∈ after, x.uri ≠ uri := by
  simp only [current?, Option.map_eq_some_iff, List.find?_eq_some_iff_append,
    decide_eq_true_eq, Bool.not_eq_true', decide_eq_false_iff_not]
  constructor
  · rintro ⟨⟨_, _⟩, ⟨rfl, after, before, hevents, hafter⟩, rfl⟩
    refine ⟨before.reverse, after.reverse, ?_, fun x hx => hafter x (List.mem_reverse.mp hx)⟩
    rw [← h.events.reverse_reverse, hevents]
    simp
  · rintro ⟨before, after, hevents, hafter⟩
    refine ⟨⟨uri, set⟩, ⟨rfl, after.reverse, before.reverse, ?_,
      fun x hx => hafter x (List.mem_reverse.mp hx)⟩, rfl⟩
    rw [hevents]
    simp

def Publication.toLsp (p : Publication) : Value :=
  .table [("uri", .text p.uri), ("diagnostics", .list (p.diagnostics.map Diagnostic.toLsp))]

/-- A publication as one line of a stream, if its numbers can be written. -/
def Publication.jsonLine (p : Publication) : Except Decimal.Unwritable String :=
  (Json.render p.toLsp).map (· ++ "\n")

/-- A stream of publications, each on a line of its own, if all of them can be written. -/
def Publication.stream (ps : List Publication) : Except Decimal.Unwritable String :=
  (ps.mapM jsonLine).map String.join

end LintRelay
