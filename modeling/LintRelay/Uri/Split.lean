import LintRelay.Text.Quoted
import LintRelay.Uri.Host

/-!
# The parts of a URI

Scheme, host part and path. What follows a question mark or a hash sign belongs
to none of them.
-/

namespace LintRelay.Uri

open LintRelay.Text

/-- Why a text cannot be cut into the parts of a URI. -/
inductive SplitError where
  | brackets
  | futureAddress
  | notAddress (host : String)
  | bracketedIPv4
  | lookalike (host : String)
  deriving DecidableEq, Repr

def SplitError.message : SplitError → String
  | .brackets => "Invalid IPv6 URL"
  | .futureAddress => "IPvFuture address is invalid"
  | .notAddress host => quoted host ++ " does not appear to be an IPv4 or IPv6 address"
  | .bracketedIPv4 => "An IPv4 address cannot be in brackets"
  | .lookalike host =>
    "netloc '" ++ host ++ "' contains invalid characters under NFKC normalization"

structure Parts where
  scheme : String
  host : String
  path : String
  deriving DecidableEq, Repr

def isSchemeChar (c : Char) : Bool :=
  c.isAlphanum || c == '+' || c == '-' || c == '.'

/-- The scheme in lower case, if the text begins with one, and the rest. -/
def splitScheme (cs : List Char) : List Char × List Char :=
  let name := cs.takeWhile (· ≠ ':')
  match cs.dropWhile (· ≠ ':') with
  | ':' :: rest =>
    if name.head?.any Char.isAlpha && name.all isSchemeChar then
      (name.map Char.toLower, rest)
    else
      ([], cs)
  | _ => ([], cs)

def endsHost (c : Char) : Bool :=
  c == '/' || c == '?' || c == '#'

/-- The host part, if two slashes announce one, and the rest. -/
def splitHost : List Char → List Char × List Char
  | '/' :: '/' :: rest => (rest.takeWhile (!endsHost ·), rest.dropWhile (!endsHost ·))
  | cs => ([], cs)

/-- What follows the last `sep`, or all if there is none. -/
def afterLast (sep : Char) (cs : List Char) : List Char :=
  (cs.reverse.takeWhile (· ≠ sep)).reverse

def checkAddress (host : List Char) : Except SplitError Unit :=
  if host.head? = some 'v' then
    if isFutureAddress host then .ok () else .error .futureAddress
  else if isIPv4 host then .error .bracketedIPv4
  else if isIPv6 host then .ok ()
  else .error (.notAddress (String.ofList host))

/-- Check a host part that holds brackets: only a colon may follow them, and only
a user name may precede them. -/
def checkBrackets (host : List Char) : Except SplitError Unit :=
  let opened := host.contains '['
  let closed := host.contains ']'
  if opened ≠ closed then .error .brackets
  else if !opened then .ok ()
  else
    let place := afterLast '@' host
    match place with
    | '[' :: inside =>
      let after := (inside.dropWhile (· ≠ ']')).drop 1
      if after.isEmpty || after.head? = some ':' then checkAddress (inside.takeWhile (· ≠ ']'))
      else .error .brackets
    | _ =>
      if place.contains '[' then .error .brackets
      else checkAddress (place.takeWhile (· ≠ ':'))

/-- The characters that are compatibility forms of, or contain, one of the
marks that divide a URI. -/
def lookalikes : List Nat :=
  [0x2047, 0x2048, 0x2049, 0x2100, 0x2101, 0x2105, 0x2106, 0x2A74, 0xFE13, 0xFE16, 0xFE55, 0xFE56,
    0xFE5F, 0xFE6B, 0xFF03, 0xFF0F, 0xFF1A, 0xFF1F, 0xFF20]

/-- Cut a text into the parts of a URI. Leading blanks and controls are
dropped, and so are tabs and line breaks everywhere. -/
def split (s : String) : Except SplitError Parts := do
  let cs := (s.toList.dropWhile (·.toNat ≤ 0x20)).filter fun c => c ≠ '\t' ∧ c ≠ '\r' ∧ c ≠ '\n'
  let (scheme, rest) := splitScheme cs
  let (host, rest) := splitHost rest
  checkBrackets host
  if host.any (·.toNat ∈ lookalikes) then
    throw (.lookalike (String.ofList host))
  return {
    scheme := String.ofList scheme
    host := String.ofList host
    path := String.ofList (rest.takeWhile fun c => c ≠ '#' ∧ c ≠ '?') }

end LintRelay.Uri
