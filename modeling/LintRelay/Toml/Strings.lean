import LintRelay.Decimal.Numeral

/-!
# TOML: blanks, comments, strings and keys

Each function reads something at the start of a text and returns it with the
rest, or fails. Line ends have been made uniform before.
-/

namespace LintRelay.Toml

open LintRelay.Decimal

/-- Why a text is not read as TOML. -/
inductive ReadError where
  | malformed
  | oversized (numeral : Oversized)
  | tooDeep
  deriving DecidableEq, Repr

def malformed {α : Type} : Except ReadError α :=
  .error .malformed

/-- A blank inside a line. -/
def isSpace (c : Char) : Bool :=
  c = ' ' || c = '\t'

def skipSpace (cs : List Char) : List Char :=
  cs.dropWhile isSpace

/-- A blank inside a line or a line feed. -/
def isSpaceOrFeed (c : Char) : Bool :=
  isSpace c || c = '\n'

def isControl (c : Char) : Bool :=
  (c.toNat < 32 && c ≠ '\t') || c.toNat = 127

/-- Drop a comment, up to the end of its line. -/
def skipComment (cs : List Char) : Except ReadError (List Char) :=
  match cs with
  | '#' :: rest =>
    if (rest.takeWhile (· ≠ '\n')).any isControl then malformed
    else .ok (rest.dropWhile (· ≠ '\n'))
  | _ => .ok cs

/-- Drop blanks, line feeds and comments; `fuel` bounds the number of comments. -/
def skipFiller : (fuel : Nat) → List Char → Except ReadError (List Char)
  | 0, cs => .ok cs
  | fuel + 1, cs =>
    match cs.dropWhile isSpaceOrFeed with
    | '#' :: rest => skipComment ('#' :: rest) >>= skipFiller fuel
    | rest => .ok rest

def hexValue? (c : Char) : Option Nat :=
  if c.isDigit then some (c.toNat - 48)
  else if 'a' ≤ c ∧ c ≤ 'f' then some (c.toNat - 87)
  else if 'A' ≤ c ∧ c ≤ 'F' then some (c.toNat - 55)
  else none

def hexNumber? (cs : List Char) : Option Nat :=
  cs.foldl (fun n c => do return (← n) * 16 + (← hexValue? c)) (some 0)

/-- The character at a code point given by `count` digits. -/
def codePoint (count : Nat) (cs : List Char) : Except ReadError (Char × List Char) :=
  match hexNumber? (cs.take count) with
  | some n =>
    if (cs.take count).length = count ∧ n.isValidChar then .ok (Char.ofNat n, cs.drop count)
    else malformed
  | none => malformed

/-- The character that a letter stands for after a backslash. -/
def shortEscape? : Char → Option Char
  | 'b' => some (Char.ofNat 8)
  | 't' => some '\t'
  | 'n' => some '\n'
  | 'f' => some (Char.ofNat 12)
  | 'r' => some '\r'
  | '"' => some '"'
  | '\\' => some '\\'
  | _ => none

def escape : List Char → Except ReadError (Char × List Char)
  | 'u' :: rest => codePoint 4 rest
  | 'U' :: rest => codePoint 8 rest
  | c :: rest =>
    match shortEscape? c with
    | some e => .ok (e, rest)
    | none => malformed
  | [] => malformed

/-- What follows a backslash at the end of a line: the blanks up to the next
character that is none. `none` if something else follows on the line. -/
def continuation? (cs : List Char) : Option (List Char) :=
  match skipSpace cs with
  | [] => some []
  | '\n' :: rest => some (rest.dropWhile isSpaceOrFeed)
  | _ => none

/-- The body of a string on one line, and what follows its closing quote. -/
def basicBody : (fuel : Nat) → List Char → Except ReadError (List Char × List Char)
  | 0, _ => malformed
  | _ + 1, [] => malformed
  | _ + 1, '"' :: rest => .ok ([], rest)
  | fuel + 1, '\\' :: rest => do
    let (c, rest) ← escape rest
    let (body, after) ← basicBody fuel rest
    return (c :: body, after)
  | fuel + 1, c :: rest =>
    if isControl c then malformed
    else do
      let (body, after) ← basicBody fuel rest
      return (c :: body, after)

/-- The body of a string over several lines, and what follows its three closing
quotes. -/
def multilineBody : (fuel : Nat) → List Char → Except ReadError (List Char × List Char)
  | 0, _ => malformed
  | _ + 1, [] => malformed
  | _ + 1, '"' :: '"' :: '"' :: rest => .ok ([], rest)
  | fuel + 1, '\\' :: c :: rest =>
    if isSpaceOrFeed c then
      match continuation? (c :: rest) with
      | some rest => multilineBody fuel rest
      | none => malformed
    else do
      let (e, rest) ← escape (c :: rest)
      let (body, after) ← multilineBody fuel rest
      return (e :: body, after)
  | fuel + 1, c :: rest =>
    if (isControl c ∧ c ≠ '\n') ∨ c = '\\' then malformed
    else do
      let (body, after) ← multilineBody fuel rest
      return (c :: body, after)

/-- The body of a literal string over several lines. -/
def multilineLiteral : List Char → Except ReadError (List Char × List Char)
  | [] => malformed
  | '\'' :: '\'' :: '\'' :: rest => .ok ([], rest)
  | c :: rest =>
    if isControl c ∧ c ≠ '\n' then malformed
    else do
      let (body, after) ← multilineLiteral rest
      return (c :: body, after)

/-- A literal string on one line, after its opening quote. -/
def literal (cs : List Char) : Except ReadError (String × List Char) :=
  let body := cs.takeWhile (· ≠ '\'')
  match cs.dropWhile (· ≠ '\'') with
  | '\'' :: rest => if body.any isControl then malformed else .ok (String.ofList body, rest)
  | _ => malformed

/-- Up to two more quotes right after a string over several lines belong to it. -/
def withQuotes (quote : Char) (body : List Char) (cs : List Char) : String × List Char :=
  let extra := (cs.take 2).takeWhile (· = quote)
  (String.ofList (body ++ extra), cs.drop extra.length)

/-- Drop a line feed right after the opening quotes. -/
def dropFeed : List Char → List Char
  | '\n' :: rest => rest
  | cs => cs

def string (cs : List Char) : Except ReadError (String × List Char) :=
  match cs with
  | '"' :: '"' :: '"' :: rest => do
    let (body, after) ← multilineBody (rest.length + 1) (dropFeed rest)
    return withQuotes '"' body after
  | '"' :: rest => do
    let (body, after) ← basicBody (rest.length + 1) rest
    return (String.ofList body, after)
  | '\'' :: '\'' :: '\'' :: rest => do
    let (body, after) ← multilineLiteral (dropFeed rest)
    return withQuotes '\'' body after
  | '\'' :: rest => literal rest
  | _ => malformed

def isBareKeyChar (c : Char) : Bool :=
  c.isAlphanum || c = '-' || c = '_'

def keyPart (cs : List Char) : Except ReadError (String × List Char) :=
  match cs with
  | '"' :: rest => do
    let (body, after) ← basicBody (rest.length + 1) rest
    return (String.ofList body, after)
  | '\'' :: rest => literal rest
  | _ =>
    let name := cs.takeWhile isBareKeyChar
    if name.isEmpty then malformed else .ok (String.ofList name, cs.dropWhile isBareKeyChar)

def key : (fuel : Nat) → List Char → Except ReadError (List String × List Char)
  | 0, _ => malformed
  | fuel + 1, cs => do
    let (part, rest) ← keyPart cs
    match skipSpace rest with
    | '.' :: more =>
      let (parts, after) ← key fuel (skipSpace more)
      return (part :: parts, after)
    | after => return ([part], after)

end LintRelay.Toml
