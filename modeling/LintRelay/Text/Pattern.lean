/-!
# Patterns

Patterns of characters, and the places in a text where they occur. Where a
pattern can occur in several ways, the alternative that is written first counts,
and a repetition goes on for as long as it can, unless it is a short one.
-/

namespace LintRelay.Text

/-- A pattern. A `part` is a named piece of what the pattern covers; an `edge`
is a condition on the characters before and after a place. -/
inductive Pattern where
  | nothing
  | one (test : Char → Bool)
  | edge (test : Option Char → Option Char → Bool)
  | both (first second : Pattern)
  | either (first second : Pattern)
  | many (short : Bool) (low : Nat) (high : Option Nat) (body : Pattern)
  | part (name : String) (body : Pattern)

/-- A named piece of a text, from one place up to another. -/
structure Piece where
  name : String
  start : Nat
  stop : Nat
  deriving DecidableEq, Repr, Inhabited

/-- A place in a text, and the pieces found on the way to it. -/
structure Place where
  position : Nat := 0
  before : Option Char := none
  rest : List Char
  pieces : List Piece := []
  deriving DecidableEq, Repr, Inhabited

namespace Pattern

/-- Repeat a step between `low` and `high` times, of which `count` are done. -/
def repeated (step : Place → (Place → Option Place) → Option Place) (short : Bool) (low : Nat)
    (high : Option Nat) : (fuel count : Nat) → Place → (Place → Option Place) → Option Place
  | 0, count, place, next => if low ≤ count then next place else none
  | fuel + 1, count, place, next =>
    let more (_ : Unit) : Option Place :=
      if high.any (· ≤ count) then none
      else
        step place fun reached =>
          if place.position < reached.position then
            repeated step short low high fuel (count + 1) reached next
          else
            none
    if count < low then more ()
    else if short then (next place).orElse more
    else (more ()).orElse fun _ => next place

/-- The first way for a pattern to occur at a place from which the rest can go
on. -/
def run : Pattern → Place → (Place → Option Place) → Option Place
  | nothing, place, next => next place
  | one test, place, next =>
    match place.rest with
    | c :: rest =>
      if test c then next { place with position := place.position + 1, before := some c, rest }
      else none
    | [] => none
  | edge test, place, next => if test place.before place.rest.head? then next place else none
  | both first second, place, next => first.run place fun reached => second.run reached next
  | either first second, place, next =>
    (first.run place next).orElse fun _ => second.run place next
  | many short low high body, place, next =>
    repeated body.run short low high (place.rest.length + 1) 0 place next
  | part name body, place, next =>
    body.run place fun reached =>
      next { reached with
        pieces := reached.pieces ++ [⟨name, place.position, reached.position⟩] }

def endAt? (p : Pattern) (place : Place) : Option Place :=
  p.run { place with pieces := [] } some

/-- The named pieces of all occurrences from a place on, none of which share a
character. The first `skip` characters belong to an occurrence already found. -/
def piecesFrom (p : Pattern) (skip position : Nat) (before : Option Char) :
    List Char → List Piece
  | [] => []
  | c :: rest =>
    let found := if skip = 0 then p.endAt? { position, before, rest := c :: rest } else none
    match found with
    | some stop =>
      stop.pieces ++ p.piecesFrom (stop.position - position - 1) (position + 1) (some c) rest
    | none => p.piecesFrom (skip - 1) (position + 1) (some c) rest

def pieces (p : Pattern) (cs : List Char) : List Piece :=
  p.piecesFrom 0 0 none cs

def all (ps : List Pattern) : Pattern :=
  ps.foldr both nothing

def any : List Pattern → Pattern
  | [] => edge fun _ _ => false
  | [p] => p
  | p :: ps => either p (any ps)

def word (s : String) : Pattern :=
  all (s.toList.map fun c => one (· = c))

def maybe (p : Pattern) : Pattern :=
  many false 0 (some 1) p

def star (p : Pattern) : Pattern :=
  many false 0 none p

def plus (p : Pattern) : Pattern :=
  many false 1 none p

def few (p : Pattern) : Pattern :=
  many true 0 none p

def times (low high : Nat) (p : Pattern) : Pattern :=
  many false low (some high) p

end Pattern

end LintRelay.Text
