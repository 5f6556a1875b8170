import LintRelay.Decimal.Numeral

/-!
# Host addresses

The written forms of numeric host addresses.
-/

namespace LintRelay.Uri

/-- A number up to 255 without leading zeros. -/
def isOctet (cs : List Char) : Bool :=
  Decimal.isNumeral cs && cs.length ≤ 3 && (cs.length = 1 || cs.head? ≠ some '0') &&
    Nat.ofDigitChars 10 cs 0 ≤ 255

/-- Four octets with dots between them. -/
def isIPv4 (cs : List Char) : Bool :=
  let octets := cs.splitOn '.'
  octets.length = 4 && octets.all isOctet

def isHexDigit (c : Char) : Bool :=
  c.isDigit || ('a' ≤ c && c ≤ 'f') || ('A' ≤ c && c ≤ 'F')

/-- Up to four hexadecimal digits. -/
def isHextet (cs : List Char) : Bool :=
  !cs.isEmpty && cs.length ≤ 4 && cs.all isHexDigit

/-- The groups of an address between its colons; a trailing part with dots
counts as two groups. `none` if that part is no address of four octets. -/
def hextets? (cs : List Char) : Option (List (List Char)) :=
  let parts := cs.splitOn ':'
  let last := parts.getLastD []
  if last.contains '.' then
    if isIPv4 last then some (parts.dropLast ++ [['0'], ['0']]) else none
  else
    some parts

/-- Groups on both sides of a gap: a side that is only an empty end of the
address counts as none. -/
def isSide (groups : List (List Char)) : Bool :=
  groups = [[]] || groups.all isHextet

/-- The number of groups on one side of a gap. -/
def sideCount (groups : List (List Char)) : Nat :=
  if groups = [[]] then 0 else groups.length

/-- Eight groups, or fewer with one gap. -/
def isHextetList (groups : List (List Char)) : Bool :=
  let inner := groups.tail.dropLast
  match inner.idxOf? [] with
  | none => groups.length = 8 && groups.all isHextet
  | some i =>
    let before := groups.take (i + 1)
    let after := groups.drop (i + 2)
    isSide before && isSide after && sideCount before + sideCount after ≤ 7

/-- An address of up to eight groups, and an optional zone. -/
def isIPv6 (cs : List Char) : Bool :=
  let address := cs.takeWhile (· ≠ '%')
  let zone := cs.dropWhile (· ≠ '%')
  let parts := address.splitOn ':'
  !cs.contains '/' && (zone = [] || (zone.length ≥ 2 && !zone.tail.contains '%')) &&
    parts.length ≥ 3 &&
    match hextets? address with
    | none => false
    | some groups => groups.length ≤ 9 && isHextetList groups

/-- An address of a future version: its version and a point. -/
def isFutureAddress (cs : List Char) : Bool :=
  match cs with
  | 'v' :: rest =>
    let version := rest.takeWhile isHexDigit
    match rest.dropWhile isHexDigit with
    | '.' :: address =>
      !version.isEmpty && !address.isEmpty && !address.contains '\n'
    | _ => false
  | _ => false

end LintRelay.Uri
