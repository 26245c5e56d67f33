/-!
Contract: patterns of text, and where they match.

Owns:
- the forms that a pattern is put together from;
- the places at which matches end that begin at given places;
- whether a pattern matches anywhere in a text.

Does not own: how patterns are written.
-/

namespace PromptRelay.Text

inductive Pattern where
  /-- Matches the empty text. -/
  | empty
  /-- Matches one character of a class. -/
  | one (accepts : Char → Bool)
  /-- Matches the empty text between two neighbours of a certain kind. -/
  | edge (holds : (before after : Option Char) → Bool)
  | sequence (first second : Pattern)
  | choice (left right : Pattern)
  /-- Any number of matches one after the other. -/
  | many (inner : Pattern)
deriving Inhabited

namespace Pattern

/-- The places of both lists, each once. -/
def merge (places more : List Nat) : List Nat :=
  places ++ more.filter fun place => !places.contains place

/-- Adds the places that steps lead to, for up to `count` steps. -/
def grow (step : List Nat → List Nat) : (count : Nat) → List Nat → List Nat
  | 0, places => places
  | count + 1, places => grow step count (merge places (step places))

/-- The places at which matches end that begin at the given places. -/
def advance (text : Array Char) : Pattern → List Nat → List Nat
  | .empty, places => places
  | .one accepts, places =>
    (places.filter fun place => text[place]?.any accepts).map (· + 1)
  | .edge holds, places =>
    places.filter fun place =>
      holds (if place = 0 then none else text[place - 1]?) text[place]?
  | .sequence first second, places => second.advance text (first.advance text places)
  | .choice left right, places => merge (left.advance text places) (right.advance text places)
  | .many inner, places => grow (inner.advance text) (text.size + 1) places

/-- Whether a part of the text matches, the empty ones included. -/
def occursIn (pattern : Pattern) (cs : List Char) : Bool :=
  let text := cs.toArray
  !(pattern.advance text (List.range (text.size + 1))).isEmpty

/-! ## Repetitions -/

def atMostOnce (pattern : Pattern) : Pattern :=
  .choice .empty pattern

def times (pattern : Pattern) : Nat → Pattern
  | 0 => .empty
  | count + 1 => .sequence pattern (pattern.times count)

def upTo (pattern : Pattern) : Nat → Pattern
  | 0 => .empty
  | count + 1 => atMostOnce (.sequence pattern (pattern.upTo count))

end Pattern

end PromptRelay.Text
