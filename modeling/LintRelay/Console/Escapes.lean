/-!
# Control sequences

Taking a terminal's control sequences out of a text that goes to a file.
-/

namespace LintRelay.Console

/-- A character between the opening and the letter of a control sequence. -/
def isSequenceChar (c : Char) : Bool :=
  c.isDigit || c = ';' || c = '?'

/-- What follows the control sequence that a text begins with. -/
def afterSequence? : List Char → Option (List Char)
  | c :: '[' :: cs =>
    if c.toNat = 27 then
      match cs.dropWhile isSequenceChar with
      | d :: rest => if d.isAlpha then some rest else none
      | [] => none
    else
      none
  | _ => none

theorem afterSequence?_length {cs rest : List Char} (h : afterSequence? cs = some rest) :
    rest.length < cs.length := by
  unfold afterSequence? at h
  split at h
  · rename_i c cs
    split at h
    · split at h
      · rename_i d after hdrop
        split at h
        · injection h with h
          subst h
          have := (List.dropWhile_sublist isSequenceChar (l := cs)).length_le
          rw [hdrop] at this
          simp only [List.length_cons] at this ⊢
          omega
        · cases h
      · cases h
    · cases h
  · cases h

def withoutSequences (cs : List Char) : List Char :=
  match _found : afterSequence? cs with
  | some rest => withoutSequences rest
  | none =>
    match cs with
    | [] => []
    | c :: cs => c :: withoutSequences cs
termination_by cs.length
decreasing_by
  · exact afterSequence?_length _found
  · simp

end LintRelay.Console
