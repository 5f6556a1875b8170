import LintRelay.Proofs.Results
import LintRelay.Proofs.Value.Remainders
import LintRelay.Suggestion.Service

/-!
# What a completion service answers

A service gives a suggestion for exactly the answers that hold one. Otherwise it declines,
whatever the body is and however the network fails, but for three things that escape: a number
of the request that cannot be written, a failure of the network that there are no words for, and
a body that goes beyond what the JSON reader can take, which must have the digits or the brackets
for that. The main statement is `suggest_answers_or_declines`.
-/

namespace LintRelay

open LintRelay.Text LintRelay.Decimal

/-- A failure of a network: of the system, of a value, or of the protocol. -/
def Fault.OfTransport (f : Fault) : Prop :=
  f.family ∈ [.missingFile, .system, .value, .protocol]

/-! ## Bodies -/

/-- A document whose first choice has a message with that text as its content. -/
def ChoosesText (answer : Json.Document) (content : List Symbol) : Prop :=
  ∃ choice rest message, answer.field? "choices" = some (.list (choice :: rest)) ∧
    choice.field? "message" = some message ∧ message.field? "content" = some (.text content)

theorem firstChoice?_eq_some_iff {answer choice : Json.Document} :
    firstChoice? answer = some choice ↔
      ∃ rest, answer.field? "choices" = some (.list (choice :: rest)) := by
  rw [firstChoice?]
  split
  · rename_i first rest heq
    simp [heq]
  · rename_i hother
    constructor
    · intro h
      cases h
    · rintro ⟨rest, h⟩
      exact absurd h (hother choice rest)

theorem messageContent?_eq_text_iff {answer : Json.Document} {content : List Symbol} :
    messageContent? answer = some (.text content) ↔ ChoosesText answer content := by
  simp only [messageContent?, ChoosesText, Option.bind_eq_bind, Option.bind_eq_some_iff,
    firstChoice?_eq_some_iff]
  constructor
  · rintro ⟨choice, ⟨rest, hchoices⟩, message, hmessage, hcontent⟩
    exact ⟨choice, rest, message, hchoices, hmessage, hcontent⟩
  · rintro ⟨choice, rest, message, hchoices, hmessage, hcontent⟩
    exact ⟨choice, ⟨rest, hchoices⟩, message, hmessage, hcontent⟩

namespace HttpBody

/-- The symbols of a body, if its bytes are text. -/
def symbols? : HttpBody → Option (List Symbol)
  | .bytes b => Encoding.decode? b
  | .text symbols => some symbols

/-- A body that goes beyond what a reader of JSON with so much room can take. -/
def Overreaches (room : Nat) (body : HttpBody) : Prop :=
  ∃ e, body.read room = .error e ∧ e ≠ .malformed

variable {room : Nat} {body : HttpBody}

/-- A body that overreaches has the digits or the brackets for it. -/
theorem Overreaches.exists_symbols (h : body.Overreaches room) :
    ∃ symbols, body.symbols? = some symbols ∧
      ((∃ n, maxDigits < n ∧ Json.HasDigits n symbols) ∨ room < Json.openings symbols) := by
  obtain ⟨e, hread, hne⟩ := h
  have hbeyond {symbols : List Symbol} (h : Json.read room symbols = .error e) :
      (∃ n, maxDigits < n ∧ Json.HasDigits n symbols) ∨ room < Json.openings symbols := by
    have harises := Json.read_error h
    cases e with
    | malformed => exact absurd rfl hne
    | oversized numeral => exact .inl ⟨numeral.digits, harises⟩
    | tooDeep kind => exact .inr harises
  cases body with
  | bytes b =>
      cases hdecode : Encoding.decode? b with
      | none =>
          rw [read, hdecode] at hread
          exact absurd (Except.error.inj hread).symm hne
      | some symbols =>
          rw [read, hdecode] at hread
          exact ⟨symbols, hdecode, hbeyond hread⟩
  | text symbols =>
      rw [read] at hread
      split at hread
      · exact absurd (Except.error.inj hread).symm hne
      · exact ⟨symbols, rfl, hbeyond hread⟩

theorem overreaches_digits {digits : List Char} (hdigits : ∀ d ∈ digits, d.isDigit)
    (hzero : digits.head? ≠ some '0') (hlong : maxDigits < digits.length) :
    (text (digits.map .char)).Overreaches room := by
  have hmark : (digits.map Symbol.char).head? ≠ some (.char '\uFEFF') := by
    intro h
    obtain ⟨d, hd, heq⟩ := Option.map_eq_some_iff.mp (List.head?_map ▸ h)
    obtain rfl := Symbol.char.inj heq
    exact absurd (hdigits _ (List.mem_of_mem_head? hd)) (by decide)
  refine ⟨.oversized ⟨digits.length⟩, ?_, by simp⟩
  rw [read, if_neg hmark]
  exact Json.read_digits hdigits hzero hlong room

theorem overreaches_brackets {n : Nat} (hdeep : room < n) (symbols : List Symbol) :
    (text (List.replicate n (.char '[') ++ symbols)).Overreaches room := by
  have hmark : (List.replicate n (Symbol.char '[') ++ symbols).head? ≠ some (.char '\uFEFF') := by
    obtain ⟨n, rfl⟩ := Nat.exists_eq_succ_of_ne_zero (Nat.ne_of_gt (Nat.zero_lt_of_lt hdeep))
    simp [List.replicate_succ]
  refine ⟨.tooDeep "array", ?_, by simp⟩
  rw [read, if_neg hmark]
  exact Json.read_brackets hdeep symbols

theorem content_eq_ok_iff {t : List Symbol} : body.content room = .ok t ↔
    ∃ answer content, body.read room = .ok answer ∧ ChoosesText answer content ∧
      Symbol.trim content ≠ [] ∧ t = Symbol.trim content := by
  rw [content]
  split
  · simp_all
  · simp_all
  · simp_all
  · rename_i answer hread
    simp only [hread, Except.ok.injEq, exists_and_left, exists_eq_left',
      ← messageContent?_eq_text_iff]
    split
    · rename_i hnone
      simp [hnone]
    · rename_i content hcontent
      simp only [hcontent, Option.some.injEq, Json.Document.text.injEq, exists_eq_left']
      split
      · rename_i hblank
        simp [hblank]
      · rename_i hblank
        simp [hblank, eq_comm]
    · rename_i v hother hcontent
      constructor
      · intro h
        cases h
      · rintro ⟨content, h, -⟩
        rw [hcontent] at h
        exact (hother content (Option.some.inj h)).elim

theorem content_eq_unexpected_iff :
    (∃ fault, body.content room = .error (.unexpected fault)) ↔ body.Overreaches room := by
  rw [content, Overreaches]
  split
  · rename_i hread
    simp [hread]
  · rename_i hread
    simp [hread]
  · rename_i hread
    simp [hread]
  · rename_i hread
    simp only [hread]
    split
    · simp
    · split <;> simp
    · simp

end HttpBody

/-! ## Requests -/

namespace CompletionService

variable {s : CompletionService} {environment : String → Option String} {send : Transport}
  {r : SuggestionRequest} {room : Nat}

/-- The numbers of a request can be written. -/
def CanSay (s : CompletionService) (r : SuggestionRequest) : Prop :=
  Report.isWritable r.finding.range = true ∧ s.temperature.toValue.isWritable = true

/-- The request for a suggestion, with a key that is set and not empty. -/
def Sends (s : CompletionService) (environment : String → Option String) (r : SuggestionRequest)
    (q : HttpRequest) : Prop :=
  ∃ body key, s.body r = .ok body ∧ environment s.apiKeyEnv = some key ∧ key ≠ "" ∧
    q = s.request key body

/-- There is a body for a request exactly if its numbers can be written. -/
theorem exists_body_iff : (∃ body, s.body r = .ok body) ↔ s.CanSay r := by
  have hfinding : discard (Report.writeFinding r.finding 0) = .ok () ↔
      Report.isWritable r.finding.range = true := by
    simp [discard_eq_ok_iff, Report.writeFinding_eq_ok_iff]
  have hpayload : (s.payload r).isWritable = s.temperature.toValue.isWritable := by
    simp [payload, Value.isWritable, Value.entriesWritable, Value.itemsWritable]
  simp only [body, bind_eq_ok_iff, Json.render, Json.write_eq_ok_iff, hpayload, CanSay,
    ← hfinding]
  constructor
  · rintro ⟨_, ⟨⟩, hfinding, htemperature, -⟩
    exact ⟨hfinding, htemperature⟩
  · rintro ⟨hfinding, htemperature⟩
    exact ⟨_, (), hfinding, htemperature, rfl⟩

theorem apiKey?_eq_some_iff {key : String} :
    s.apiKey? environment = some key ↔ environment s.apiKeyEnv = some key ∧ key ≠ "" := by
  rw [apiKey?]
  split
  · rename_i h
    simp [h]
  · rename_i h
    simp [h]
  · rename_i key' hempty h
    rw [h]
    constructor
    · rintro ⟨⟩
      exact ⟨rfl, fun h => hempty h⟩
    · exact And.left

theorem prepare_eq_ok_iff {q : HttpRequest} :
    s.prepare environment r = .ok q ↔ s.Sends environment r q := by
  rw [prepare, Sends]
  split
  · rename_i hbody
    simp [hbody]
  · rename_i body hbody
    simp only [hbody, Except.ok.injEq, ← and_assoc, ← apiKey?_eq_some_iff]
    split
    · rename_i hkey
      simp [hkey]
    · rename_i hkey
      simp [hkey, eq_comm]

/-- Before a request is sent, only a number that cannot be written escapes. -/
theorem prepare_eq_unexpected_iff :
    (∃ fault, s.prepare environment r = .error (.unexpected fault)) ↔ ¬ s.CanSay r := by
  rw [prepare, ← exists_body_iff]
  split
  · rename_i hbody
    simp [hbody]
  · rename_i hbody
    split <;> simp [hbody]

/-! ## Answers -/

/-- What a service tells of a failure of the network, or what comes up instead. -/
def networkWords (f : Fault) : Except Fault String :=
  match f.detail with
  | .status code reason => Fault.wording [code, reason] (code.display ++ ": " ++ reason.display)
  | .unreachable reason => Fault.wording [reason] reason.display
  | _ => f.message

/-- There are no words for a failure of the network, and what comes up for them says nothing of
suggestions either. -/
def HasNoWords (f : Fault) : Prop :=
  ∃ e, networkWords f = .error e ∧ e.family ≠ .suggestion

/-- However the network fails, the service declines if there are words for it. -/
theorem ofTransport_eq {f : Fault} (h : f.OfTransport) : ∃ reason : String → DeclineReason,
    SuggestError.ofTransport f = SuggestError.declining reason (networkWords f) := by
  obtain ⟨kind, family, detail⟩ := f
  cases detail with
  | status code reason => exact ⟨_, rfl⟩
  | unreachable reason => exact ⟨_, rfl⟩
  | _ =>
      simp only [Fault.OfTransport, List.mem_cons, List.not_mem_nil, or_false] at h
      rcases h with rfl | rfl | rfl | rfl
      all_goals exact ⟨_, rfl⟩

theorem ofTransport_eq_unexpected_iff {f : Fault} (h : f.OfTransport) :
    (∃ fault, SuggestError.ofTransport f = .unexpected fault) ↔ HasNoWords f := by
  obtain ⟨reason, heq⟩ := ofTransport_eq h
  rw [heq, HasNoWords]
  cases networkWords f with
  | ok words => simp [SuggestError.declining]
  | error e => by_cases hfamily : e.family = .suggestion <;>
      simp [SuggestError.declining, SuggestError.ofFault, hfamily]

/-- What becomes of a request that is sent. -/
def answer (room : Nat) (send : Transport) (q : HttpRequest) : Except SuggestError (List Symbol) :=
  match send q with
  | .error f => .error (.ofTransport f)
  | .ok body => body.content room

theorem suggest_eq :
    s.suggest room environment send r = s.prepare environment r >>= answer room send :=
  rfl

theorem answer_eq_ok_iff {q : HttpRequest} {t : List Symbol} :
    answer room send q = .ok t ↔ ∃ body, send q = .ok body ∧ body.content room = .ok t := by
  rw [answer]
  cases send q <;> simp

theorem answer_eq_unexpected_iff (hsend : ∀ q f, send q = .error f → f.OfTransport)
    {q : HttpRequest} :
    (∃ fault, answer room send q = .error (.unexpected fault)) ↔
      (∃ f, send q = .error f ∧ HasNoWords f) ∨
        ∃ body, send q = .ok body ∧ body.Overreaches room := by
  rw [answer]
  cases h : send q with
  | error f => simpa using ofTransport_eq_unexpected_iff (hsend q f h)
  | ok body => simpa using body.content_eq_unexpected_iff

/-- **A service answers or declines.** It gives a suggestion exactly if the numbers of the request
can be written, its key is set and not empty, the network gives a body, and the body is a
document whose first choice has more than blanks as its content. Otherwise it declines, unless a
number cannot be written, there are no words for how the network fails, or the body overreaches
the reader, whatever room there is for it. Such a body is text with more digits in a row, or more
opening brackets, than the reader takes, and there are such bodies of every length beyond. -/
theorem suggest_answers_or_declines (s : CompletionService) (room : Nat)
    (environment : String → Option String) {send : Transport}
    (hsend : ∀ q f, send q = .error f → f.OfTransport) (r : SuggestionRequest) :
    (∀ t, s.suggest room environment send r = .ok t ↔
      ∃ q body answer content, s.Sends environment r q ∧ send q = .ok body ∧
        body.read room = .ok answer ∧ ChoosesText answer content ∧ Symbol.trim content ≠ [] ∧
        t = Symbol.trim content) ∧
    ((∃ fault, s.suggest room environment send r = .error (.unexpected fault)) ↔
      ¬ s.CanSay r ∨ ∃ q, s.Sends environment r q ∧
        ((∃ f, send q = .error f ∧ HasNoWords f) ∨
          ∃ body, send q = .ok body ∧ body.Overreaches room)) ∧
    (∀ body : HttpBody, body.Overreaches room → ∃ symbols, body.symbols? = some symbols ∧
      ((∃ n, maxDigits < n ∧ Json.HasDigits n symbols) ∨ room < Json.openings symbols)) ∧
    (∀ digits : List Char, (∀ d ∈ digits, d.isDigit) → digits.head? ≠ some '0' →
      maxDigits < digits.length → (HttpBody.text (digits.map .char)).Overreaches room) ∧
    (∀ n symbols, room < n →
      (HttpBody.text (List.replicate n (.char '[') ++ symbols)).Overreaches room) := by
  refine ⟨fun t => ?_, ?_, fun _ h => h.exists_symbols, fun _ => HttpBody.overreaches_digits,
    fun _ symbols hdeep => HttpBody.overreaches_brackets hdeep symbols⟩
  · simp only [suggest_eq, bind_eq_ok_iff, prepare_eq_ok_iff, answer_eq_ok_iff,
      HttpBody.content_eq_ok_iff, exists_and_left]
  · -- a fault comes from before the request is sent, or from what becomes of it
    simp only [suggest_eq, bind_eq_error_iff, exists_or, prepare_eq_unexpected_iff,
      prepare_eq_ok_iff]
    rw [exists_comm]
    simp only [exists_and_left, answer_eq_unexpected_iff hsend]

/-- A network that gives one text to every request that has time to wait for it. -/
def replying (symbols : List Symbol) : Transport := fun q =>
  match q.timeout with
  | none => .error ⟨"TimeoutError", .system, .plain []⟩
  | some _ => .ok (.text symbols)

theorem replying_ofTransport (symbols : List Symbol) (q : HttpRequest) (f : Fault)
    (h : replying symbols q = .error f) : f.OfTransport := by
  rw [replying] at h
  split at h
  · obtain rfl := Except.error.inj h
    exact List.mem_cons_of_mem _ List.mem_cons_self
  · cases h

/-- A reply whose suggestion stands between blanks. -/
def paddedReply : List Symbol :=
  Symbol.ofText "\x7b\"choices\": [\x7b\"message\": \x7b\"content\": \" fix \"\x7d\x7d]\x7d"

theorem content_paddedReply :
    (HttpBody.text paddedReply).content 8 = .ok (Symbol.ofText "fix") :=
  eq_ok_of_toOption (by decide +kernel)

/-- The padded reply is a suggestion where there is room for eight brackets, and a reply of nine
of them escapes. -/
theorem suggest_answers_or_declines_replying :
    (∀ symbols q f, replying symbols q = .error f → f.OfTransport) ∧
    ({} : CompletionService).suggest 8 (fun _ => some "key") (replying paddedReply)
      ⟨"", "", { message := "m" }⟩ = .ok (Symbol.ofText "fix") ∧
    ∃ fault, ({} : CompletionService).suggest 8 (fun _ => some "key")
      (replying (List.replicate 9 (.char '['))) ⟨"", "", { message := "m" }⟩ =
        .error (.unexpected fault) := by
  obtain ⟨body, hbody⟩ := exists_body_iff (s := {}) (r := ⟨"", "", { message := "m" }⟩).mpr
    ⟨by decide +kernel, rfl⟩
  have hsends : ({} : CompletionService).Sends (fun _ => some "key") ⟨"", "", { message := "m" }⟩
      (({} : CompletionService).request "key" body) :=
    ⟨body, "key", hbody, rfl, by decide, rfl⟩
  have hsuggests := (suggest_answers_or_declines {} 8 (fun _ => some "key")
    (replying_ofTransport paddedReply) ⟨"", "", { message := "m" }⟩).1
  obtain ⟨-, hescapes, -, -, hbrackets⟩ := suggest_answers_or_declines {} 8 (fun _ => some "key")
    (replying_ofTransport (List.replicate 9 (.char '['))) ⟨"", "", { message := "m" }⟩
  refine ⟨replying_ofTransport, (hsuggests _).mpr ?_, hescapes.mpr (.inr ?_)⟩
  · obtain ⟨answer, content, hread, hchooses, hne, heq⟩ :=
      HttpBody.content_eq_ok_iff.mp content_paddedReply
    exact ⟨_, _, answer, content, hsends, rfl, hread, hchooses, hne, heq⟩
  · have hoverreaches := hbrackets 9 [] (by decide)
    rw [List.append_nil] at hoverreaches
    exact ⟨_, hsends, .inr ⟨_, rfl, hoverreaches⟩⟩

end CompletionService

end LintRelay
