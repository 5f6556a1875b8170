import LintRelay.Console.Colour
import LintRelay.Text.Classes

/-!
# Styles

How text is shown: attributes such as bold, colours, and a link. A style is
written as a list of words, and two lists that mean the same style have one
normal form.
-/

namespace LintRelay.Console

open LintRelay.Text

/-- An attribute: its name, its short names, and the number that switches it
on. -/
structure Attribute where
  name : String
  short : List String
  code : Nat
  deriving DecidableEq, Repr, Inhabited

def attributes : List Attribute := [
  ⟨"bold", ["b"], 1⟩, ⟨"dim", ["d"], 2⟩, ⟨"italic", ["i"], 3⟩, ⟨"underline", ["u"], 4⟩,
  ⟨"blink", [], 5⟩, ⟨"blink2", [], 6⟩, ⟨"reverse", ["r"], 7⟩, ⟨"conceal", ["c"], 8⟩,
  ⟨"strike", ["s"], 9⟩, ⟨"underline2", ["uu"], 21⟩, ⟨"frame", [], 51⟩, ⟨"encircle", [], 52⟩,
  ⟨"overline", ["o"], 53⟩]

def attribute? (word : String) : Option String :=
  (attributes.find? fun a => a.name = word || a.short.contains word).map (·.name)

structure ColourWord where
  word : String
  colour : Colour
  deriving DecidableEq, Repr, Inhabited

/-- A style: the attributes that it switches on or off, colours, and a link. -/
structure Style where
  attributes : List (String × Bool) := []
  colour : Option ColourWord := none
  background : Option ColourWord := none
  link : Option String := none
  deriving DecidableEq, Repr, Inhabited

namespace Style

def setAttribute (s : Style) (name : String) (on : Bool) : Style :=
  { s with attributes := (name, on) :: s.attributes.filter (·.1 ≠ name) }

/-- The colour that a word stands for, in either case. -/
def colourOf (word : String) : Except MixtureError (Option ColourWord) :=
  (Colour.ofWord (small word)).map (·.map (⟨small word, ·⟩))

/-- A style with more words; `none` if they are no style. -/
def addWords (s : Style) : List String → Except MixtureError (Option Style)
  | [] => .ok (some s)
  | [word] =>
    match small word, attribute? (small word) with
    | "on", _ | "not", _ | "link", _ => .ok none
    | _, some name => .ok (some (s.setAttribute name true))
    | _, none => (colourOf word).map (·.map fun c => { s with colour := some c })
  | word :: next :: rest =>
    match small word, attribute? (small word) with
    | "on", _ => do
      match ← colourOf next with
      | some c => addWords { s with background := some c } rest
      | none => return none
    | "not", _ =>
      match attribute? next with
      | some name => (s.setAttribute name false).addWords rest
      | none => .ok none
    | "link", _ => addWords { s with link := some next } rest
    | _, some name => (s.setAttribute name true).addWords (next :: rest)
    | _, none => do
      match ← colourOf word with
      | some c => addWords { s with colour := some c } (next :: rest)
      | none => return none

/-- The words of a text, with blanks between them. -/
def wordsOf (s : String) : List String :=
  ((s.toList.splitOnP isBlank).filter (· ≠ [])).map String.ofList

/-- The style that a text describes; `none` if it describes none. -/
def read (s : String) : Except MixtureError (Option Style) :=
  if wordsOf s = ["none"] then .ok (some {}) else addWords {} (wordsOf s)

def words (s : Style) : List String :=
  (Console.attributes.flatMap fun a =>
    match s.attributes.find? (·.1 = a.name) with
    | some (_, true) => [a.name]
    | some (_, false) => ["not", a.name]
    | none => []) ++
  (s.colour.map (·.word)).toList ++ (s.background.toList.flatMap fun c => ["on", c.word]) ++
  (s.link.toList.flatMap fun target => ["link", target])

def render (s : Style) : String :=
  if s.words = [] then "none" else " ".intercalate s.words

/-- The normal form of a style name: that of the style if it is one, else the
name in small letters. -/
def normalName (name : String) : Except MixtureError String :=
  (read name).map fun
    | some s => s.render
    | none => small (stripped name)

def below (s top : Style) : Style :=
  { attributes := top.attributes.foldl (fun as a => a :: as.filter (·.1 ≠ a.1)) s.attributes
    colour := top.colour <|> s.colour
    background := top.background <|> s.background
    link := top.link <|> s.link }

def codes (s : Style) : List Nat :=
  (Console.attributes.filter fun a => s.attributes.contains (a.name, true)).map (·.code) ++
    s.colour.toList.flatMap (·.colour.codes false) ++
    s.background.toList.flatMap (·.colour.codes true)

def escape : Char := Char.ofNat 27

/-- A text with a style switched on around it. -/
def paint (s : Style) (cs : List Char) : List Char :=
  let shown :=
    if s.codes = [] ∨ cs = [] then cs
    else
      let on := (";".intercalate (s.codes.map toString)).toList
      [escape, '['] ++ on ++ ['m'] ++ cs ++ [escape, '[', '0', 'm']
  match s.link with
  | some target =>
    if cs = [] then []
    else
      [escape, ']', '8', ';', ';'] ++ target.toList ++ [escape, '\\'] ++ shown ++
        [escape, ']', '8', ';', ';', escape, '\\']
  | none => shown

end Style

end LintRelay.Console
