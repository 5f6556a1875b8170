import LintRelay.Fault
import LintRelay.Report.Printer
import LintRelay.Text.Case
import LintRelay.Text.Encoding
import LintRelay.Uri.Split
import LintRelay.Value.Json
import LintRelay.Value.JsonReader

/-!
# The completion service

A service sees of a finding the text that it points at and the document around it, and
makes a prompt of them. A suggestion is asked for by one request to a completion
endpoint. The answer is a JSON document whose first choice holds the suggestion. A
service declines when it has no usable answer; any other failure is unexpected. Nothing
is sent when a number of the request cannot be written. How deep brackets may be in an
answer depends on the room that the caller leaves for reading it.
-/

namespace LintRelay

open LintRelay.Text

/-! ## What is asked for -/

/-- A finding with the text it points at and the document around it. -/
structure SuggestionRequest where
  documentText : String
  rangeText : String
  finding : Finding
  deriving DecidableEq, Inhabited

namespace SuggestionRequest

def ofFinding (documentText : String) (f : Finding) : SuggestionRequest :=
  ⟨documentText, f.range.slice documentText, f⟩

/-- The prompt for a completion model. -/
def prompt (r : SuggestionRequest) : String :=
  "For the following linting item:\n\n" ++ Report.renderFinding r.finding 0 ++
    "\n\nrefer to the .proto file it was generated from:\n\n" ++ r.documentText ++
    "\n\nThe item points at this text:\n\n" ++ r.rangeText ++
    "\n\nSuggest a fix to the code such that the linting message is addressed. " ++
    "Return only the suggestion text, without any other content."

end SuggestionRequest

/-! ## The service -/

/-- Where completions come from, and how they are asked for. -/
structure CompletionService where
  endpoint : String := "https://api.openai.com/v1/chat/completions"
  model : String := "gpt-3.5-turbo"
  temperature : Number := .float 0.7
  apiKeyEnv : String := "OPENAI_API_KEY"
  timeout : Option Number := some (.float 30.0)
  extraHeaders : List (String × String) := []
  deriving Inhabited

/-- Why an endpoint cannot be used. -/
inductive EndpointError where
  | malformed (e : Uri.SplitError)
  | unsupported (scheme : String)
  deriving DecidableEq, Repr

def EndpointError.message : EndpointError → String
  | .malformed e => e.message
  | .unsupported scheme => "Unsupported suggestion endpoint scheme '" ++ scheme ++ "'"

/-- Why a service has no suggestion; what is told of another failure is in words. -/
inductive DeclineReason where
  | disabled
  | missingKey (name : String)
  | status (words : String)
  | unreachable (words : String)
  | broken (words : String)
  | notJson
  | noContent
  | blank
  /-- A service says so itself. -/
  | said (fault : Fault)
  deriving Inhabited

def DeclineReason.toFault (reason : DeclineReason) : Fault :=
  let declining (words : String) : Fault := .saying "SuggestionServiceError" words
  match reason with
  | .disabled => declining "suggestions are disabled"
  | .missingKey name => declining ("environment variable " ++ name ++ " is not set")
  | .status words => declining ("suggestion service returned HTTP " ++ words)
  | .unreachable words => declining ("suggestion service unreachable: " ++ words)
  | .broken words => declining ("suggestion request failed: " ++ words)
  | .notJson => declining "suggestion service returned invalid JSON"
  | .noContent => declining "suggestion service response has no message content"
  | .blank => declining "suggestion service returned an empty suggestion"
  | .said fault => fault

inductive SuggestError where
  | declined (reason : DeclineReason)
  | unexpected (fault : Fault)
  deriving Inhabited

structure HttpRequest where
  url : String
  method : String
  headers : List (String × String)
  timeout : Option Number
  body : String
  deriving Inhabited

/-- What comes back: bytes from the network, or a text. -/
inductive HttpBody where
  | bytes (b : List UInt8)
  | text (symbols : List Symbol)
  deriving Inhabited

/-- The network; what goes wrong there is a fault. -/
abbrev Transport := HttpRequest → Except Fault HttpBody

namespace SuggestError

/-- A fault of a service; one that says that there is no suggestion is a reason
to decline. -/
def ofFault (f : Fault) : SuggestError :=
  if f.family = .suggestion then declined (.said f) else unexpected f

/-- Decline for a reason, unless something comes up in finding the words for it. -/
def declining (reason : String → DeclineReason) : Except Fault String → SuggestError
  | .ok words => declined (reason words)
  | .error fault => ofFault fault

/-- A fault of the network. Failures of the system and of the protocol are a
reason to decline. -/
def ofTransport (f : Fault) : SuggestError :=
  match f.detail, f.family with
  | .status code reason, _ =>
    declining .status (Fault.wording [code, reason] (code.display ++ ": " ++ reason.display))
  | .unreachable reason, _ => declining .unreachable (Fault.wording [reason] reason.display)
  | _, .missingFile | _, .system | _, .value | _, .protocol => declining .broken f.message
  | _, _ => ofFault f

def toFault : SuggestError → Fault
  | declined reason => reason.toFault
  | unexpected fault => fault

end SuggestError

/-- The JSON document in a body. A text that begins with a byte order mark is
none. -/
def HttpBody.read (room : Nat) : HttpBody → Except Json.ReadError Json.Document
  | .text symbols =>
    if symbols.head? = some (.char '\uFEFF') then .error .malformed else Json.read room symbols
  | .bytes b =>
    match Encoding.decode? b with
    | none => .error .malformed
    | some symbols => Json.read room symbols

def firstChoice? (answer : Json.Document) : Option Json.Document :=
  match answer.field? "choices" with
  | some (.list (choice :: _)) => some choice
  | _ => none

def messageContent? (answer : Json.Document) : Option Json.Document := do
  let choice ← firstChoice? answer
  let message ← choice.field? "message"
  message.field? "content"

def HttpBody.content (room : Nat) (body : HttpBody) : Except SuggestError (List Symbol) :=
  match body.read room with
  | .error .malformed => .error (.declined .notJson)
  | .error (.oversized o) => .error (.unexpected (Fault.unusable o.message))
  | .error (.tooDeep kind) =>
    .error (.unexpected (.saying "RecursionError" (Json.tooDeepText kind)))
  | .ok answer =>
    match messageContent? answer with
    | none => .error (.declined .noContent)
    | some (.text symbols) =>
      let content := Symbol.trim symbols
      if content = [] then .error (.declined .blank) else .ok content
    | some _ => .error (.declined .blank)

namespace CompletionService

def schemes : List String := ["http", "https"]

def check (s : CompletionService) : Except EndpointError Unit :=
  match Uri.split s.endpoint with
  | .error e => .error (.malformed e)
  | .ok parts => if parts.scheme ∈ schemes then .ok () else .error (.unsupported parts.scheme)

/-- Set a header: in place if there is one of that name, else at the end. -/
def setHeader (headers : List (String × String)) (h : String × String) : List (String × String) :=
  if headers.any (·.1 = h.1) then headers.map fun g => if g.1 = h.1 then h else g
  else headers ++ [h]

/-- The headers of a request. Names are first compared as they stand, and then
with a capital letter and small ones, as they are sent; of two headers of one
name the later counts. -/
def headers (s : CompletionService) (apiKey : String) : List (String × String) :=
  let own := [("Content-Type", "application/json"), ("Authorization", "Bearer " ++ apiKey),
    ("User-Agent", "aiplint-suggestions/1.0")]
  (s.extraHeaders.foldl setHeader own).foldl
    (fun headers h => setHeader headers (capitalized h.1, h.2)) []

/-- The endpoint without blanks around it and without an empty fragment. -/
def url (s : CompletionService) : String :=
  let cs := trim s.endpoint.toList
  String.ofList (if cs.getLast? = some '#' then cs.dropLast else cs)

def payload (s : CompletionService) (r : SuggestionRequest) : Value :=
  .table [
    ("model", .text s.model),
    ("messages", .list [.table [("role", .text "user"), ("content", .text r.prompt)]]),
    ("temperature", s.temperature.toValue)]

def request (s : CompletionService) (apiKey body : String) : HttpRequest :=
  { url := s.url
    method := "POST"
    headers := s.headers apiKey
    timeout := s.timeout
    body }

def apiKey? (s : CompletionService) (environment : String → Option String) : Option String :=
  match environment s.apiKeyEnv with
  | none | some "" => none
  | some key => some key

/-- The body of a request, if its numbers can be written. -/
def body (s : CompletionService) (r : SuggestionRequest) : Except Decimal.Unwritable String := do
  discard (Report.writeFinding r.finding 0)
  Json.render (s.payload r)

/-- The request for a suggestion, as far as there are words and a key for it. -/
def prepare (s : CompletionService) (environment : String → Option String)
    (r : SuggestionRequest) : Except SuggestError HttpRequest :=
  match s.body r with
  | .error e => .error (.unexpected (Fault.unusable e.message))
  | .ok body =>
    match s.apiKey? environment with
    | none => .error (.declined (.missingKey s.apiKeyEnv))
    | some key => .ok (s.request key body)

/-- The request that is sent for a suggestion, if any is sent. -/
def sent? (s : CompletionService) (environment : String → Option String)
    (r : SuggestionRequest) : Option HttpRequest :=
  (s.prepare environment r).toOption

def suggest (s : CompletionService) (room : Nat) (environment : String → Option String)
    (send : Transport) (r : SuggestionRequest) : Except SuggestError (List Symbol) := do
  let request ← s.prepare environment r
  match send request with
  | .error f => .error (.ofTransport f)
  | .ok body => body.content room

end CompletionService

end LintRelay
