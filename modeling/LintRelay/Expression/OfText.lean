import LintRelay.Expression.Grammar.Operation
import LintRelay.Expression.Template

/-!
# The expression that a text is

Quotations that follow each other are one, and cannot mix bytes with text. The
expressions in a template are read in brackets as texts of their own, and what is
wrong with them is told as a fault of the template.
-/

namespace LintRelay.Expression

/-- What quotations are together after some others. -/
def joinedAfter (read : (line : Nat) → List Char → Except ReadFault Unit) (label : String) :
    (isBytes : Option Bool) → (isTemplate : Bool) → List Quotation → Except ReadFault Tree
  | isBytes, isTemplate, [] =>
    .ok (if isTemplate then .template else .quotation (isBytes.getD false))
  | isBytes, isTemplate, q :: qs => do
    match if q.isTemplate then none else q.fault? with
    | some message => throw (.complaint (label ++ message))
    | none => pure ()
    if isBytes.any (· ≠ q.isBytes) then
      throw (.complaint (label ++ "cannot mix bytes and nonbytes literals"))
    if q.isTemplate then
      let _ ← Template.pieces read label q.isRaw (q.line + lineEnds q.inside)
        (2 * q.inside.length + 2) 0 q.inside
    joinedAfter read label (some q.isBytes) (isTemplate || q.isTemplate) qs

/-- The expression that a text is from a line on, given how it is read and what
complaints begin with. -/
def readFrom : (fuel : Nat) → (label : String) → (Joining → Reading Tree) → (line : Nat) →
    List Char → Except ReadFault Tree
  | 0, _, _, _, _ => .error .exhausted
  | fuel + 1, label, start, line, cs =>
    let read (line : Nat) (inside : List Char) : Except ReadFault Unit :=
      (readFrom fuel "f-string: " Grammar.quotedExpression line
        ('(' :: inside ++ [')', '\n'])).map fun _ => ()
    let join : Joining := fun label qs => joinedAfter read label none false qs
    (start join).result { tokens := .ofText line cs, label }

def withLineEnds : List Char → List Char
  | [] => []
  | '\r' :: '\n' :: cs => '\n' :: withLineEnds cs
  | c :: cs => (if c = '\r' then '\n' else c) :: withLineEnds cs

def Tree.ofText (cs : List Char) : Except ReadFault Tree :=
  readFrom (cs.length + 1) "" Grammar.wholeText 1 (withLineEnds cs)

end LintRelay.Expression
