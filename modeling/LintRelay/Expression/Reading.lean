import LintRelay.Expression.Tokens
import LintRelay.Expression.Tree
import Std.Data.HashMap

/-!
# Reading by rules

A rule is a reading of tokens from a place on. It matches and moves the place, or
it does not match and another way is tried from the same place, or the reading
stops for good with a complaint. Rules that are tried again and again at one place
are remembered, and a rule that begins with itself grows from its shortest match.

A text is read twice if need be: rules that only tell what is wrong with a text are
tried the second time.
-/

namespace LintRelay.Expression

/-- The rules of which the answers are remembered. -/
inductive Rule where
  | expression
  | starExpression
  | disjunction
  | conjunction
  | inversion
  | bitOr
  | bitXor
  | bitAnd
  | shift
  | sum
  | term
  | factor
  | waited
  | primary
  | quotations
  | arguments
  | target
  | memberTarget
  | targetOwner
  | misnamed
  deriving DecidableEq, Hashable, Repr, Inhabited

/-- The rules that begin with themselves. -/
def Rule.growsLeft : Rule → Bool
  | bitOr | bitXor | bitAnd | shift | sum | term | primary | targetOwner => true
  | _ => false

/-- Why a reading stops: nothing matches here, the tokens break off, a complaint, or
rules within rules beyond all bounds. -/
inductive Stop where
  | unmatched
  | broken (fault : ScanFault)
  | told (message : String)
  | exhausted
  deriving DecidableEq, Repr, Inhabited

/-- How far a reading is: its tokens, the place among them, how many of them were
looked at, how many rules it is inside of, whether rules that complain are tried,
what complaints begin with, and what is known of rules at places. -/
structure Progress where
  tokens : Tokens
  label : String := ""
  place : Nat := 0
  seen : Nat := 0
  level : Nat := 0
  isTelling : Bool := false
  known : Std.HashMap (Nat × Rule) (Option Tree × Nat) := ∅

def Reading (α : Type) := EStateM Stop Progress α

instance : Monad Reading := inferInstanceAs (Monad (EStateM Stop Progress))

instance {α : Type} : Inhabited (Reading α) := ⟨fun s => .error .unmatched s⟩

namespace Reading

variable {α β : Type}

def unmatched : Reading α :=
  fun s => .error .unmatched s

def tell (message : String) : Reading α :=
  fun s => .error (.told (s.label ++ message)) s

def orElse (p : Reading α) (q : Unit → Reading α) : Reading α := fun s =>
  let place := s.place
  match p s with
  | .error .unmatched t => q () { t with place }
  | r => r

instance : OrElse (Reading α) := ⟨orElse⟩

def optional (p : Reading α) : Reading (Option α) := fun s =>
  let place := s.place
  match p s with
  | .ok a t => .ok (some a) t
  | .error .unmatched t => .ok none { t with place }
  | .error e t => .error e t

/-- A reading that must match and leaves the place as it is. -/
def ahead (p : Reading α) : Reading Unit := fun s =>
  let place := s.place
  match p s with
  | .ok _ t => .ok () { t with place }
  | .error e t => .error e t

def notAhead (p : Reading α) : Reading Unit := fun s =>
  let place := s.place
  match p s with
  | .ok _ t => .error .unmatched { t with place }
  | .error .unmatched t => .ok () { t with place }
  | .error e t => .error e t

/-- The most rules within each other. -/
def maxLevel : Nat := 6000

def inRule (p : Reading α) : Reading α := fun s =>
  let level := s.level
  if maxLevel ≤ level then
    .error .exhausted s
  else
    match p { s with level := level + 1 } with
    | .ok a t => .ok a { t with level }
    | .error e t => .error e { t with level }

/-- A reading as often as it matches, after what was read before. -/
def repeated (p : Reading α) : (fuel : Nat) → Array α → Reading (List α)
  | 0, before => pure before.toList
  | fuel + 1, before => do
    match ← optional p with
    | none => pure before.toList
    | some a => repeated p fuel (before.push a)

def many (p : Reading α) : Reading (List α) :=
  inRule fun s => repeated p (s.tokens.found.size + 1) #[] s

/-- A reading as often as it matches, and at least once. -/
def several (p : Reading α) : Reading (List α) := do
  let found ← many p
  if found.isEmpty then unmatched else pure found

/-- A reading at least once, with another one between its matches. -/
def parted (part : Reading β) (p : Reading α) : Reading (List α) := inRule do
  let first ← p
  let more ← many (part *> p)
  pure (first :: more)

/-- A reading that is only tried where complaints are told. -/
def whenTelling (p : Reading α) : Reading α :=
  fun s => if s.isTelling then p s else .error .unmatched s

/-- A reading inside of which no complaints are told. -/
def quietly (p : Reading α) : Reading α := fun s =>
  let isTelling := s.isTelling
  match p { s with isTelling := false } with
  | .ok a t => .ok a { t with isTelling }
  | .error e t => .error e { t with isTelling }

def peek : Reading Token := fun s =>
  let t := { s with seen := max s.seen (s.place + 1) }
  match s.tokens.found[s.place]?, s.tokens.fault with
  | some token, _ => .ok token t
  | none, some fault => .error (.broken fault) t
  | none, none => .ok { kind := .finish } t

def token (test : Token → Bool) : Reading Token := do
  let found ← peek
  if test found then fun s => .ok found { s with place := s.place + 1 } else unmatched

def mark (text : String) : Reading Unit := do
  let _ ← token (·.isMark text)

def comma : Reading Unit := mark ","

def word (text : String) : Reading Unit := do
  let _ ← token (·.isWord text)

def name : Reading String := do
  return (← token (·.kind = .name)).text

/-- How many brackets are open before the place. -/
def depthBefore : Reading Nat :=
  fun s => .ok ((s.tokens.found[s.place - 1]?.map (·.depth)).getD 0) s

def remembered (r : Rule) (p : Reading Tree) : Reading Tree := fun s =>
  let start := s.place
  match s.known[(start, r)]? with
  | some (some t, place) => .ok t { s with place }
  | some (none, _) => .error .unmatched s
  | none =>
    match (peek *> p) s with
    | .ok t s => .ok t { s with known := s.known.insert (start, r) (some t, s.place) }
    | .error .unmatched s =>
      .error .unmatched { s with known := s.known.insert (start, r) (none, start) }
    | .error e s => .error e s

/-- The longest match of a rule that begins with itself, from a place on and after
the best match so far. In the rule itself that match counts as its answer. -/
def grown (r : Rule) (p : Reading Tree) (start : Nat) : (fuel reach : Nat) → Option Tree →
    Reading Tree
  | 0, _, _ => unmatched
  | fuel + 1, reach, best => fun s =>
    let done (s : Progress) : EStateM.Result Stop Progress Tree :=
      match best with
      | some t => .ok t { s with place := reach }
      | none => .error .unmatched { s with place := start }
    match p { s with place := start, known := s.known.insert (start, r) (best, reach) } with
    | .ok t s => if s.place ≤ reach then done s else grown r p start fuel s.place (some t) s
    | .error .unmatched s => done s
    | .error e s => .error e s

/-- The answer of a rule that begins with itself, which is remembered. -/
def growing (r : Rule) (p : Reading Tree) : Reading Tree := fun s =>
  match s.known[(s.place, r)]? with
  | some (some t, place) => .ok t { s with place }
  | some (none, _) => .error .unmatched s
  | none => (peek *> grown r p s.place (s.tokens.found.size + 2) s.place none) s

/-- The answer of a rule, given what each rule says in terms of the others. -/
def ofRule (body : (Rule → Reading Tree) → Rule → Reading Tree) : (fuel : Nat) → Rule →
    Reading Tree
  | 0, _ => fun s => .error .exhausted s
  | fuel + 1, r =>
    if r.growsLeft then inRule (growing r (inRule (body (ofRule body fuel) r)))
    else inRule (remembered r (body (ofRule body fuel) r))

end Reading

/-- Why a text is no expression. -/
inductive ReadFault where
  | complaint (message : String)
  | exhausted
  deriving DecidableEq, Repr, Inhabited

def Progress.last (s : Progress) : Token :=
  (s.tokens.found[s.seen - 1]?).getD { kind := .finish, line := 0 }

/-- The complaint that comes first: one about the tokens after those that were looked
at, or else the given one. -/
def Progress.foremost (s : Progress) (message : String) : String :=
  match s.tokens.fault with
  | none | some (.stuck _ none) => message
  | some (.said earlier) => earlier
  | some (.stuck _ (some o)) =>
    if o.line < s.last.line then s.label ++ neverClosed o.bracket else message

/-- Why a text is no expression of which the reading stopped. A complaint comes first
where the end of the text was seen. -/
def Stop.fault (s : Progress) : Stop → ReadFault
  | unmatched => .complaint (s.foremost (s.label ++ "invalid syntax"))
  | broken (.said message) => .complaint message
  | broken (.stuck message _) => .complaint (s.label ++ message)
  | told message => .complaint (if s.last.touchesEnd then message else s.foremost message)
  | exhausted => .exhausted

/-- The expression that a text is, given how it is read. If nothing matches, the
text is read again for its complaints; an indentation at the last token of the
first time has one of its own. -/
def Reading.result (p : Reading Tree) (s : Progress) : Except ReadFault Tree :=
  match p s with
  | .ok t _ => .ok t
  | .error .unmatched first =>
    let last := first.last.kind
    match p { first with place := 0, isTelling := true, known := ∅ } with
    | .ok _ s | .error .unmatched s =>
      if last = .indent then .error (.complaint (s.label ++ "unexpected indent"))
      else if last = .dedent then .error (.complaint (s.label ++ "unexpected unindent"))
      else .error (Stop.unmatched.fault s)
    | .error e s => .error (e.fault s)
  | .error e s => .error (e.fault s)

end LintRelay.Expression
