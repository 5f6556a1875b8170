import LintRelay.Console.StyledText
import LintRelay.Text.Pattern
import LintRelay.Text.WordChar

/-!
# Highlights

Parts of a title that look like values are shown in styles of their own: tags,
attributes, brackets, addresses, calls, truth values, numbers, paths, texts and
links.
-/

namespace LintRelay.Console

open LintRelay.Text

namespace Highlight

open Pattern

def among (s : String) : Pattern :=
  one s.toList.contains

/-- One of several characters, or a word character. -/
def wordOr (s : String) : Pattern :=
  one fun c => isWordChar c || s.toList.contains c

def digit : Pattern :=
  one Char.isDigit

def hex : Pattern :=
  one fun c => c.isDigit || ('a' ≤ c && c ≤ 'f') || ('A' ≤ c && c ≤ 'F')

/-- A place where a word begins or ends. -/
def wordEdge : Pattern :=
  edge fun before after => before.any isWordChar != after.any isWordChar

/-- A place where no word begins or ends. -/
def noWordEdge : Pattern :=
  edge fun before after => before.any isWordChar == after.any isWordChar

/-- A place that does not come after certain characters. -/
def notAfter (test : Char → Bool) : Pattern :=
  edge fun before _ => !before.any test

def tags : Pattern :=
  all [part "tag_start" (word "<"), part "tag_name" (star (wordOr "-.:|")),
    part "tag_contents" (star (one fun _ => true)), part "tag_end" (word ">")]

/-- A name and a value with an equals sign between them. -/
def attributes : Pattern :=
  all [part "attrib_name" (times 1 50 (one isWordChar)), word "=",
    maybe (part "attrib_value" (all [maybe (word "\""), plus (one isWordChar), maybe (word "\"")]))]

def brackets : Pattern :=
  part "brace" (among "[]\x7b\x7d()")

def address4 : Pattern :=
  let part3 := times 1 3 digit
  part "ipv4" (all [part3, word ".", part3, word ".", part3, word ".", part3])

/-- Up to eight hexadecimal numbers with colons between them. -/
def address6 : Pattern :=
  part "ipv6" (all [times 1 7 (all [times 1 4 hex, word ":", maybe (word ":")]), times 1 4 hex])

/-- The hexadecimal numbers of a device, in one of three forms. -/
def device (name : String) (pairs quads : Nat) : Pattern :=
  let listed (mark : String) :=
    all [times pairs pairs (all [times 1 2 hex, word mark]), times 1 2 hex]
  part name (any [listed "-", listed ":",
    all [times quads quads (all [times 4 4 hex, word "."]), times 4 4 hex]])

/-- An identifier of five hexadecimal numbers. -/
def identifier : Pattern :=
  let digits (n : Nat) := times n n hex
  part "uuid" (all [digits 8, word "-", digits 4, word "-", digits 4, word "-", digits 4, word "-",
    digits 12])

/-- A name before an opening bracket. -/
def call : Pattern :=
  both (part "call" (few (wordOr "."))) (word "(")

/-- A truth value, or none. -/
def constant : Pattern :=
  let whole (name text : String) := all [wordEdge, part name (word text), wordEdge]
  any [whole "bool_true" "True", whole "bool_false" "False", whole "none" "None"]

def ellipsis : Pattern :=
  part "ellipsis" (word "...")

/-- Digits with an optional point and more digits. -/
def decimal : Pattern :=
  all [plus digit, maybe (word "."), star digit]

/-- A power of ten; a short one has as few digits as possible. -/
def power (short : Bool) : Pattern :=
  maybe (all [word "e", maybe (among "-+"),
    many short 1 none (one fun c => (digitValue? c).isSome)])

def complex : Pattern :=
  part "number_complex" (all [notAfter isWordChar, maybe (word "-"), decimal, power true,
    maybe (all [among "-+", decimal, power false]), word "j"])

def number : Pattern :=
  part "number" (any [
    all [notAfter isWordChar, maybe (word "-"), decimal, power true, wordEdge],
    both (word "0x") (star hex)])

/-- A path and the name at its end. -/
def path : Pattern :=
  all [part "path" (all [noWordEdge, star (both (word "/") (plus (wordOr "-.+"))), word "/"]),
    maybe (part "filename" (star (wordOr "-.+")))]

/-- A quoted text between two marks; none of its lines ends. -/
def quotedBy (mark : String) : Pattern :=
  all [maybe (word "b"), word mark, few (one (· ≠ '\n')), notAfter (· = '\\'), word mark]

def quotation : Pattern :=
  both (notAfter fun c => c = '\\' || isWordChar c)
    (part "str" (any [quotedBy "'''", quotedBy "'", quotedBy "\"\"\"", quotedBy "\""]))

def isLinkChar (c : Char) : Bool :=
  c.isAlphanum || "-$_+!`(),.?/;:&=%#~@".toList.contains c

def link : Pattern :=
  part "url" (all [any [word "file", word "https", word "http", word "ws", word "wss"],
    word "://", star (one isLinkChar)])

/-- The patterns that are looked for one after another; the styles of later ones
lie on top. -/
def patterns : List Pattern := [
  tags, attributes, brackets,
  any [address4, address6, device "eui64" 7 3, device "eui48" 5 2, identifier, call, constant,
    ellipsis, complex, number, path, quotation, link]]

end Highlight

/-- The spans of the parts of a text that look like values. -/
def highlights (cs : List Char) : List Span :=
  ((Highlight.patterns.flatMap (·.pieces cs)).filter fun p => p.start < p.stop).map fun p =>
    ⟨p.start, p.stop, "repr." ++ p.name⟩

end LintRelay.Console
