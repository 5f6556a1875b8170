import LintRelay.Console.Highlight
import LintRelay.Console.Markup

/-!
# The console

Lines with a mark and a colour for how things went, and headers between blocks
of output. Colour is used only on a terminal; a terminal is 80 cells wide.
-/

namespace LintRelay.Console

open LintRelay.Text

/-- How things went. -/
inductive Tone where
  | info
  | success
  | warning
  | failure
  deriving DecidableEq, Repr, Inhabited

def Tone.mark : Tone → String
  | info => "ℹ️ "
  | success => "✅ "
  | warning => "⚠️ "
  | failure => "❌ "

def Tone.style : Tone → String
  | info => "cyan"
  | success => "green"
  | warning => "yellow"
  | failure => "red"

def shownMark (mark : String) (wanted : Bool) : String :=
  if wanted then mark else ""

/-- Whether colour is used: only on a terminal, and there unless it is turned
off. -/
def usesColour (wanted : Option Bool) (terminal : Bool) : Bool :=
  wanted.getD terminal && terminal

/-- A text as it is written, line by line, with a line feed at its end. -/
def renderText (t : StyledText) (styled : Bool) : Except MixtureError String := do
  let lines ← t.lines.mapM fun line => line.expandTabs.render styled
  return String.ofList (lines.flatMap (· ++ ['\n']))

def message (tone : Tone) (text : String) (marks : Bool) (colour : Option Bool)
    (terminal : Bool) : String :=
  let chars := shown (shownMark tone.mark marks ++ text).toList
  ((renderText (.inStyle tone.style chars) (usesColour colour terminal)).toOption).getD ""

def terminalWidth : Nat := 80

/-- The style of the line around a header. -/
def ruleStyle : String := "rule.line"

def dashes (n : Nat) : List Char :=
  List.replicate n '─'

def titleLine (title : StyledText) : StyledText :=
  (title.setChars (title.chars.map fun c => if c = '\n' then ' ' else c)).expandTabs

def fitTitle (width : Nat) (title : StyledText) : StyledText :=
  if cells title.chars ≤ width then title
  else title.setChars (fitCells (width - 1) title.chars ++ ['…'])

/-- A title in the middle of a line of dashes. -/
def rule (title : StyledText) : StyledText :=
  let fitted := fitTitle (terminalWidth - 4) (titleLine title)
  let side := (terminalWidth - cells fitted.chars) / 2
  let right := min (side + 1) (terminalWidth - (side - 1) - cells fitted.chars)
  let whole := .inStyle ruleStyle (dashes (side - 1) ++ [' ']) ++ fitted ++
    .inStyle ruleStyle (' ' :: dashes right)
  whole.setChars (fitCells terminalWidth whole.chars)

/-- What was written, and why no more was. -/
structure Written where
  text : String
  fault : Option MarkupError := none
  deriving DecidableEq, Repr, Inhabited

def writtenAfter (before : String) (text : Except MarkupError String) : Written :=
  match text with
  | .error e => ⟨before, some e⟩
  | .ok s => ⟨before ++ s, none⟩

def plainHeader (title : String) : Written :=
  writtenAfter "" do
    let t ← markupText ("\n--- " ++ title ++ " ---").toList
    (renderText t false).mapError .style

/-- A title with its highlights below the styles of its markup. -/
def highlighted (t : StyledText) : StyledText :=
  { t with spans := highlights t.chars ++ t.spans }

/-- A header in a line of dashes. Without a title there are only dashes. -/
def ruledHeader (title : String) (terminal : Bool) : Written :=
  writtenAfter "\n" do
    let line ←
      if title = "" then pure (.inStyle ruleStyle (dashes terminalWidth))
      else do
        let t ← markupText title.toList
        pure (rule (if terminal then highlighted t else t))
    (renderText line terminal).mapError .style

/-- A header: an empty line and the title. Tags in the title are markup. -/
def header (title : String) (colour terminal : Bool) : Written :=
  if colour then ruledHeader title terminal else plainHeader title

end LintRelay.Console
