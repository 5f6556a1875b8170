import LintRelay.Console.Handler
import LintRelay.Console.StyledText

/-!
# Markup

Text with tags in square brackets. A tag opens a style or closes the last one
that is open, or the last one of a name. A backslash before a tag makes it plain
text, and two backslashes before a tag are one. A tag whose name begins with an
at sign has no style but a handler, which is looked at when the tag is closed.
-/

namespace LintRelay.Console

open LintRelay.Text

/-- A part of a text with markup. A tag has a position in the text, a name, and
what follows the name after an equals sign. -/
inductive MarkupPart where
  | plain (cs : List Char)
  | tag (position : Nat) (name : List Char) (parameters : Option (List Char))
  deriving DecidableEq, Repr

/-- What is wrong with markup: a tag that closes nothing, or a tag that cannot be
read. -/
inductive MarkupError where
  | unmatched (tag : String) (position : Nat)
  | nothingOpen (position : Nat)
  | handler (fault : HandlerError)
  | style (fault : MixtureError)
  deriving DecidableEq, Repr

def MarkupError.kind : MarkupError → String
  | style _ => "ValueError"
  | _ => "MarkupError"

def MarkupError.message : MarkupError → String
  | unmatched tag position =>
    "closing tag '[" ++ tag ++ s!"]' at position {position} doesn't match any open tag"
  | nothingOpen position => s!"closing tag '[/]' at position {position} has nothing to close"
  | handler fault => fault.message
  | style fault => fault.message

def isTagStart (c : Char) : Bool :=
  ('a' ≤ c && c ≤ 'z') || c = '#' || c = '/' || c = '@'

def isTagChar (c : Char) : Bool :=
  c ≠ '[' && c ≠ ']'

/-- The tag at the start of a text, without its brackets, and the rest. -/
def tagAt? : List Char → Option (List Char × List Char)
  | '[' :: c :: cs =>
    if isTagStart c then
      match cs.dropWhile isTagChar with
      | ']' :: rest => some (c :: cs.takeWhile isTagChar, rest)
      | _ => none
    else
      none
  | _ => none

def tagOf (position : Nat) (body : List Char) : MarkupPart :=
  let name := body.takeWhile (· ≠ '=')
  match body.dropWhile (· ≠ '=') with
  | [] => .tag position name none
  | _ :: parameters => .tag position name (some parameters)

/-- What a tag with backslashes before it amounts to. -/
def escapedTag (position escapes : Nat) (body : List Char) : List MarkupPart :=
  let backslashes := List.replicate (escapes / 2) '\\'
  if escapes % 2 = 1 then
    [.plain backslashes, .plain ('[' :: body ++ [']'])]
  else
    [.plain backslashes, tagOf (position + escapes) body]

/-- The parts of a text: `position` is where it stands, `escapes` is the number
of backslashes right before it, and `pending` is the plain text before those. -/
def markupParts : (fuel position escapes : Nat) → (pending : List Char) → List Char →
    List MarkupPart
  | 0, _, escapes, pending, _ => [.plain (pending ++ List.replicate escapes '\\')]
  | _ + 1, _, escapes, pending, [] => [.plain (pending ++ List.replicate escapes '\\')]
  | fuel + 1, position, escapes, pending, c :: cs =>
    if c = '\\' then
      markupParts fuel (position + 1) (escapes + 1) pending cs
    else
      match tagAt? (c :: cs) with
      | some (body, rest) =>
        .plain pending :: escapedTag (position - escapes) escapes body ++
          markupParts fuel (position + body.length + 2) 0 [] rest
      | none =>
        markupParts fuel (position + 1) 0 (pending ++ List.replicate escapes '\\' ++ [c]) cs

/-- Plain text, in which a backslash before an opening bracket is left out. -/
def plainText : List Char → List Char
  | '\\' :: '[' :: cs => '[' :: plainText cs
  | c :: cs => c :: plainText cs
  | [] => []

def closing? : List Char → Option (List Char)
  | '/' :: name => some (trim name)
  | _ => none

def tagText (name : List Char) : Option (List Char) → String
  | none => String.ofList name
  | some parameters => String.ofList (name ++ '=' :: parameters)

/-- A tag that is open: where its text begins, the normal form of its name, and
what follows that after an equals sign. -/
structure OpenTag where
  start : Nat
  name : String
  parameters : Option (List Char)
  deriving DecidableEq, Repr, Inhabited

namespace OpenTag

def style (t : OpenTag) : String :=
  match t.parameters with
  | none => t.name
  | some parameters => t.name ++ " " ++ String.ofList parameters

def spanTo (t : OpenTag) (stop : Nat) : Span :=
  ⟨t.start, stop, t.style⟩

def close (t : OpenTag) (stop : Nat) : Except MarkupError Span :=
  if t.name.toList.head? = some '@' then
    match handlerError? (t.parameters.getD []) with
    | some fault => .error (.handler fault)
    | none => .ok ⟨t.start, stop, "none"⟩
  else
    .ok (t.spanTo stop)

end OpenTag

/-- Markup that has been read: its text, the open tags, the innermost first, and
the spans of those that are closed, the last one first. -/
structure MarkupState where
  chars : List Char := []
  opened : List OpenTag := []
  spans : List Span := []
  deriving DecidableEq, Repr, Inhabited

namespace MarkupState

def close (m : MarkupState) (tag : OpenTag) : Except MarkupError MarkupState := do
  let span ← tag.close m.chars.length
  return { m with opened := m.opened.erase tag, spans := span :: m.spans }

def tag (m : MarkupState) (position : Nat) (name : List Char) (parameters : Option (List Char)) :
    Except MarkupError MarkupState :=
  match closing? name with
  | none => do
    let normal ← (Style.normalName (String.ofList name)).mapError .style
    return { m with opened := ⟨m.chars.length, normal, parameters⟩ :: m.opened }
  | some [] =>
    match m.opened.head? with
    | some innermost => m.close innermost
    | none => .error (.nothingOpen position)
  | some style => do
    let normal ← (Style.normalName (String.ofList style)).mapError .style
    match m.opened.find? (·.name = normal) with
    | some tag => m.close tag
    | none => .error (.unmatched (tagText name parameters) position)

def part (m : MarkupState) : MarkupPart → Except MarkupError MarkupState
  | .plain cs => .ok { m with chars := m.chars ++ shown (plainText cs) }
  | .tag position name parameters => m.tag position name parameters

/-- The spans of all tags, those that are still open to the end of the text, in
the order in which they begin. -/
def allSpans (m : MarkupState) : List Span :=
  let left := (m.opened.map (·.spanTo m.chars.length)).reverse
  (left ++ m.spans).mergeSort fun a b => decide (a.start ≤ b.start)

end MarkupState

def markupText (cs : List Char) : Except MarkupError StyledText := do
  let m ← (markupParts (cs.length + 1) 0 0 [] cs).foldlM (·.part) ({} : MarkupState)
  return ⟨m.chars, m.allSpans⟩

end LintRelay.Console
