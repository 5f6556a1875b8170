/-!
# Lines

Cutting text at every kind of line break. The other direction is
`"\n".intercalate`, which writes line feeds only.
-/

namespace LintRelay.Text

def isLineBreak (c : Char) : Bool :=
  let n := c.toNat
  (10 ≤ n && n ≤ 13) || (0x1C ≤ n && n ≤ 0x1E) || n == 0x85 || n == 0x2028 || n == 0x2029

/-- Cut at every line break. A carriage return with its line feed is one
break, and a break at the very end opens no further line. -/
def splitLines : List Char → List (List Char)
  | [] => []
  | '\r' :: '\n' :: cs => [] :: splitLines cs
  | c :: cs =>
    if isLineBreak c then
      [] :: splitLines cs
    else
      match splitLines cs with
      | [] => [[c]]
      | l :: ls => (c :: l) :: ls

def lines (s : String) : List String :=
  (splitLines s.toList).map String.ofList

/-- Write every carriage return, with or without its line feed, as a line feed. -/
def uniformReturns : List Char → List Char
  | [] => []
  | '\r' :: '\n' :: cs => '\n' :: uniformReturns cs
  | c :: cs => (if c = '\r' then '\n' else c) :: uniformReturns cs

def unlines (ls : List String) : String :=
  "\n".intercalate ls

end LintRelay.Text
