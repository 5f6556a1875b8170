import LintRelay.Value.Literal

/-!
# Faults

Failures of the parts that the library does not own: the system, the network,
and whatever a host plugs in. A fault has the name of its kind, the family that
decides how it is handled, and what it tells. Telling a fault can fail in its turn:
where a number has too many digits to be written, and where a host has a kind of
fault that tells itself in its own way.
-/

namespace LintRelay

open LintRelay.Text

structure Completed where
  args : List String
  status : Int
  stdout : Option String
  stderr : Option String
  deriving DecidableEq, Repr, Inhabited

def Completed.message (p : Completed) : String :=
  let stderr :=
    match p.stderr with
    | none | some "" => "<none>"
    | some s => s
  "Command '" ++ p.args.headD "" ++ s!"' exited with status {p.status}. stderr: " ++ stderr

structure LinterFailure where
  message : String
  command : List String := []
  status : Option Int := none
  stderr : Option String := none
  deriving DecidableEq, Repr, Inhabited

/-- How a fault is handled where it is caught. -/
inductive FaultFamily where
  /-- A file is not there. -/
  | missingFile
  /-- Any other failure of the system. -/
  | system
  /-- A value that cannot be used. -/
  | value
  /-- A breach of the network protocol. -/
  | protocol
  /-- A process that did not end well. -/
  | process
  /-- A failed run of the linter. -/
  | linter
  /-- A suggestion that is not to be had. -/
  | suggestion
  /-- Settings that are not to be had. -/
  | settings
  /-- Anything else. -/
  | other
  deriving DecidableEq, Repr, Inhabited

/-- What a fault tells; `φ` is the type of the faults that come up in telling it. -/
inductive FaultDetail (φ : Type) where
  /-- Nothing, a message, or several values. -/
  | plain (values : List Value)
  /-- A title that stands for several values. -/
  | titled (title : String) (values : List Value)
  /-- A key that is not there. -/
  | key (name : Value)
  /-- An error number of the system and its description, what else is told, and
  the files that the failure is about. -/
  | system (number description : Value) (more files : List Value)
  /-- The end of data after what was read, and how much more was expected. -/
  | truncated (read expected : Value)
  /-- An answer of a server that is none of success. -/
  | status (code reason : Value)
  /-- A server that cannot be reached. -/
  | unreachable (reason : Value)
  /-- A process that did not end well. -/
  | exited (process : Completed)
  /-- A failed run of the linter. -/
  | linter (failure : LinterFailure)
  /-- What a host makes of it, as a message and with its kind. -/
  | peculiar (message shown : Except φ String)
  deriving Inhabited

/-- A failure of a part outside. -/
structure Fault where
  kind : String
  family : FaultFamily := .other
  detail : FaultDetail Fault := .plain []

instance : Inhabited Fault := ⟨{ kind := "Exception" }⟩

/-- The kinds of system failures that are no missing file. -/
def systemKinds : List String :=
  ["OSError", "PermissionError", "TimeoutError", "ConnectionError", "ConnectionResetError",
    "ConnectionRefusedError", "ConnectionAbortedError", "BrokenPipeError", "IsADirectoryError",
    "NotADirectoryError", "InterruptedError", "BlockingIOError", "FileExistsError",
    "ChildProcessError", "ProcessLookupError", "URLError", "HTTPError",
    "ContentTooShortError", "RemoteDisconnected"]

/-- Other names for a failure of the system that is of no finer kind. -/
def systemNames : List String :=
  ["IOError", "EnvironmentError"]

def valueKinds : List String :=
  ["ValueError", "UnicodeDecodeError", "UnicodeError", "JSONDecodeError"]

def protocolKinds : List String :=
  ["HTTPException", "IncompleteRead", "BadStatusLine", "InvalidURL", "LineTooLong", "NotConnected",
    "UnknownProtocol", "UnknownTransferEncoding", "UnimplementedFileMode",
    "ImproperConnectionState", "CannotSendRequest", "CannotSendHeader", "ResponseNotReady"]

def FaultFamily.ofKind (kind : String) : FaultFamily :=
  if kind = "FileNotFoundError" then .missingFile
  else if kind ∈ systemKinds then .system
  else if kind ∈ valueKinds then .value
  else if kind ∈ protocolKinds then .protocol
  else if kind = "LinterInvocationError" then .linter
  else if kind = "SubprocessExecutionError" then .process
  else if kind = "SuggestionServiceError" then .suggestion
  else if kind = "ConfigurationUnavailable" then .settings
  else .other

/-- The kinds of the failures that have an error number of their own. -/
def numberedKinds : List (Int × String) :=
  [(1, "PermissionError"), (2, "FileNotFoundError"), (3, "ProcessLookupError"),
    (4, "InterruptedError"), (10, "ChildProcessError"), (11, "BlockingIOError"),
    (13, "PermissionError"), (17, "FileExistsError"), (20, "NotADirectoryError"),
    (21, "IsADirectoryError"), (32, "BrokenPipeError"), (103, "ConnectionAbortedError"),
    (104, "ConnectionResetError"), (108, "BrokenPipeError"), (110, "TimeoutError"),
    (111, "ConnectionRefusedError"), (114, "BlockingIOError"), (115, "BlockingIOError")]

def kindOfNumber (n : Int) : String :=
  ((numberedKinds.find? (·.1 = n)).map (·.2)).getD "OSError"

namespace Fault

/-- The files among what follows the number and the description, and whatever else
stands there. -/
def filesAmong : List Value → List Value × List Value
  | .null :: rest => ([], .null :: rest)
  | [file] | [file, _] | [file, _, .null] => ([file], [])
  | [file, _, second] => ([file, second], [])
  | rest => ([], rest)

def isNumber : Value → Bool
  | .int _ | .bool _ | .float _ => true
  | _ => false

/-- What a failure of the system is about, from what follows its number and its
description. Where writing would block, a number tells how much was written. -/
def aboutOf (kind : String) (rest : List Value) : List Value × List Value :=
  if kind = "BlockingIOError" ∧ rest.head?.any isNumber then ([], rest) else filesAmong rest

/-- A failure of the system that is told by its number, its description, and what
follows them. -/
def ofSystem (kind : String) (number description : Value) (rest : List Value) : Fault :=
  let exact :=
    match kind, number with
    | "OSError", .int n => kindOfNumber n
    | "OSError", .bool b => kindOfNumber (if b then 1 else 0)
    | _, _ => kind
  let (files, more) := aboutOf exact rest
  ⟨exact, FaultFamily.ofKind exact, .system number description more files⟩

def lastPart (path : String) : String :=
  String.ofList ((path.toList.splitOn '/').getLastD [])

/-- The title of a breach of the rules of a language: its first value, with the
file and the line where they are told. -/
def titleOf : List Value → String
  | [] => "None"
  | [message, .list (file :: line :: _ :: _ :: _)] =>
    match file, line with
    | .text f, .int n => message.display ++ s!" ({lastPart f}, line {n})"
    | .text f, _ => message.display ++ " (" ++ lastPart f ++ ")"
    | _, .int n => message.display ++ s!" (line {n})"
    | _, _ => message.display
  | message :: _ => message.display

/-- A fault of a kind, told by values. A failure of the system with a number
and a description has the kind that the number says; a missing key and the
failures of a network are told in their own ways. -/
def ofKind (name : String) (values : List Value) : Fault :=
  let kind := if name ∈ systemNames then "OSError" else name
  let family := FaultFamily.ofKind kind
  match kind, values with
  | "IncompleteRead", [read] => ⟨kind, family, .truncated read .null⟩
  | "IncompleteRead", [read, expected] => ⟨kind, family, .truncated read expected⟩
  | "BadStatusLine", [.text ""] | "BadStatusLine", [.null] | "BadStatusLine", [.int 0]
  | "BadStatusLine", [.bool false] | "BadStatusLine", [.list []] =>
    ⟨kind, family, .plain (values.map fun v => .text v.literal)⟩
  | "SyntaxError", vs | "IndentationError", vs | "TabError", vs =>
    ⟨kind, family, .titled (titleOf vs) vs⟩
  | "LineTooLong", [line] =>
    ⟨kind, family, .plain [.text ("got more than 65536 bytes when reading " ++ line.display)]⟩
  | "KeyError", [name] => ⟨kind, family, .key name⟩
  | "HTTPError", [code, reason] => ⟨kind, family, .status code reason⟩
  | "URLError", [reason] | "URLError", [reason, _] | "ContentTooShortError", [reason, _] =>
    ⟨kind, family, .unreachable reason⟩
  | "LinterInvocationError", [message] => ⟨kind, family, .linter { message := message.display }⟩
  | _, number :: description :: rest =>
    if (family = .missingFile ∨ family = .system) ∧ rest.length ≤ 3 then
      ofSystem kind number description rest
    else
      ⟨kind, family, .plain values⟩
  | _, _ => ⟨kind, family, .plain values⟩

def ofLinter (failure : LinterFailure) : Fault :=
  ⟨"LinterInvocationError", .linter, .linter failure⟩

def ofProcess (process : Completed) : Fault :=
  ⟨"SubprocessExecutionError", .process, .exited process⟩

/-- A value that cannot be used, and why. -/
def unusable (reason : String) : Fault :=
  ⟨"ValueError", .value, .plain [.text reason]⟩

def saying (kind message : String) : Fault :=
  ⟨kind, FaultFamily.ofKind kind, .plain [.text message]⟩

/-- Words about values, unless a number in them is too long. -/
def wording (values : List Value) (words : String) : Except Fault String :=
  if values.all Value.isWritable then .ok words
  else .error (unusable (Decimal.Unwritable.message {}))

/-- The size of what was read before data ended: of a text in bytes. -/
def sizeRead : Value → Except Fault Nat
  | .text s => .ok s.utf8ByteSize
  | .list items => .ok items.length
  | .table entries => .ok entries.length
  | v =>
    .error (.saying "TypeError" ("object of type " ++ Text.quoted v.kindName ++ " has no len()"))

/-- The words for how much more was expected; a fraction of a number is dropped. -/
def expectedWords : Value → Except Fault String
  | .null => .ok ""
  | .int n => wording [.int n] s!", {n} more expected"
  | .bool b => .ok s!", {if b then 1 else 0} more expected"
  | .float x =>
    match Decimal.Parts.ofFloat x with
    | .finite negative m e =>
      let size := m * Nat.pow 2 e.toNat / Nat.pow 2 (-e).toNat
      .ok s!", {if negative then -(size : Int) else size} more expected"
    | .infinite _ => .error (.saying "OverflowError" "cannot convert float infinity to integer")
    | .notANumber => .error (.saying "ValueError" "cannot convert float NaN to integer")
  | v => .error (.saying "TypeError" ("%i format: a real number is required, not " ++ v.kindName))

def truncatedText (read expected : Value) : Except Fault String := do
  let more ← expectedWords expected
  let size ← sizeRead read
  return s!"IncompleteRead({size} bytes read" ++ more ++ ")"

/-- Values with commas between them, in parentheses. -/
def listed (values : List Value) : String :=
  "(" ++ ", ".intercalate (values.map Value.literal) ++ ")"

/-- The words of a fault, or what comes up instead. -/
def message (f : Fault) : Except Fault String :=
  match f.detail with
  | .plain [] => .ok ""
  | .plain [v] => wording [v] v.display
  | .plain vs => wording vs (listed vs)
  | .titled title vs => wording (vs.take 1) title
  | .key name => wording [name] name.literal
  | .system number description _ files =>
    let about := if files.isEmpty then "" else ": " ++ " -> ".intercalate (files.map Value.literal)
    wording (number :: description :: files)
      ("[Errno " ++ number.display ++ "] " ++ description.display ++ about)
  | .truncated read expected => truncatedText read expected
  | .status code reason =>
    wording [code, reason] ("HTTP Error " ++ code.display ++ ": " ++ reason.display)
  | .unreachable reason => wording [reason] ("<urlopen error " ++ reason.display ++ ">")
  | .exited process => .ok process.message
  | .linter failure => .ok failure.message
  | .peculiar message _ => message

/-- A fault with its kind, as a message about an unexpected failure shows it, or what
comes up instead. -/
def shown (f : Fault) : Except Fault String :=
  let called (values : List Value) := wording values (f.kind ++ listed values)
  match f.detail with
  | .plain vs => called vs
  | .titled _ vs => called vs
  | .key name => called [name]
  | .system number description more _ => called (number :: description :: more)
  | .truncated read expected => truncatedText read expected
  | .status code reason =>
    wording [code, reason]
      ("<" ++ f.kind ++ " " ++ code.display ++ ": " ++ reason.literal ++ ">")
  | .unreachable reason => called [reason]
  | .exited process => called [.text process.message]
  | .linter failure => called [.text failure.message]
  | .peculiar _ shown => shown

/-- What comes up where a fault is to be shown with its kind, if it cannot be. -/
def raised? (f : Fault) : Option Fault :=
  match f.shown with
  | .ok _ => none
  | .error e => some e

end Fault

end LintRelay
