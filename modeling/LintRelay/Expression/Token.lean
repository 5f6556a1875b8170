/-!
# Tokens

What an expression is made of: names, words with a meaning of their own, numbers,
quotations and marks, and the ends and indentations of its lines.
-/

namespace LintRelay.Expression

/-- A quotation: the letters before it in small form, what stands between its
marks, and the line on which it begins. -/
structure Quotation where
  letters : List Char
  inside : List Char
  line : Nat
  deriving DecidableEq, Repr, Inhabited

def Quotation.isBytes (q : Quotation) : Bool :=
  q.letters.contains 'b'

/-- A quotation in which backslashes stand for themselves. -/
def Quotation.isRaw (q : Quotation) : Bool :=
  q.letters.contains 'r'

def Quotation.isTemplate (q : Quotation) : Bool :=
  q.letters.contains 'f'

inductive TokenKind where
  | name
  | keyword
  | number
  | quotation (q : Quotation)
  | mark
  | lineEnd
  | indent
  | dedent
  | finish
  deriving DecidableEq, Repr, Inhabited

/-- A token: what it is, how it is written, how many brackets are open after it, its
line, and whether the end of the text was looked at to tell where it ends. -/
structure Token where
  kind : TokenKind
  text : String := ""
  depth : Nat := 0
  line : Nat := 1
  touchesEnd : Bool := false
  deriving DecidableEq, Repr, Inhabited

def keywords : List String := [
  "False", "None", "True", "and", "as", "assert", "async", "await", "break", "class", "continue",
  "def", "del", "elif", "else", "except", "finally", "for", "from", "global", "if", "import", "in",
  "is", "lambda", "nonlocal", "not", "or", "pass", "raise", "return", "try", "while", "with",
  "yield"]

/-- Names that have a meaning of their own in some places. -/
def softKeywords : List String := ["_", "case", "match"]

/-- A name that such a name begins with. -/
def Token.isSoftKeyword (t : Token) : Bool :=
  t.kind = .name && softKeywords.any fun w => t.text.toList.isPrefixOf w.toList

def Token.isQuotation (t : Token) : Bool :=
  t.kind matches .quotation _

def Token.isMark (t : Token) (s : String) : Bool :=
  t.kind = .mark && t.text = s

def Token.isWord (t : Token) (s : String) : Bool :=
  t.kind = .keyword && t.text = s

end LintRelay.Expression
