import DeclAtlas.Character.CharSet

/-!
# Patterns

A pattern is a regular expression over characters.  Besides the usual forms it can ask about the
place between two characters: the ends of the text and of lines, and word boundaries.  The
characters next to the place decide, so a place is given by the character before it and the
character after it.

A group is what it holds; it is kept apart because it takes room where patterns are stored.
-/

namespace DeclAtlas

namespace Pattern

/-- How word characters lie around a place. -/
inductive Edge where
  /-- On exactly one side. -/
  | boundary
  /-- On both sides or on none. -/
  | within
  /-- Only behind the place. -/
  | start
  /-- Only before the place. -/
  | finish
  /-- Not before the place. -/
  | startHalf
  /-- Not behind the place. -/
  | finishHalf
  deriving Repr, DecidableEq

/-- A condition on the place between two characters. -/
inductive Place where
  /-- Nothing comes before. -/
  | textStart
  /-- Nothing follows. -/
  | textEnd
  /-- A line begins; with `returns`, a carriage return can end the one before. -/
  | lineStart (returns : Bool)
  /-- A line ends; with `returns`, a carriage return can end it. -/
  | lineEnd (returns : Bool)
  /-- Characters of the set `letters` lie around the place as `e` says. -/
  | edge (e : Edge) (letters : CharSet)
  deriving Repr, DecidableEq

/-- Whether word characters lie as an edge demands. -/
def Edge.holds (e : Edge) (before after : Bool) : Bool :=
  match e with
  | .boundary => before != after
  | .within => before == after
  | .start => !before && after
  | .finish => before && !after
  | .startHalf => !before
  | .finishHalf => !after

/-- Whether a condition holds between two characters. -/
def Place.holds (p : Place) (before after : Option Char) : Bool :=
  match p with
  | .textStart => before.isNone
  | .textEnd => after.isNone
  | .lineStart returns =>
    before.isNone || before == some '\n' ||
      (returns && before == some '\r' && after != some '\n')
  | .lineEnd returns =>
    after.isNone || (after == some '\n' && !(returns && before == some '\r')) ||
      (returns && after == some '\r')
  | .edge e letters => e.holds (before.any letters.contains) (after.any letters.contains)

end Pattern

open Pattern in
/-- A regular expression over characters. -/
inductive Pattern where
  /-- Matches no text. -/
  | never
  /-- Matches the empty text. -/
  | empty
  /-- Matches one character of a set. -/
  | one (s : CharSet)
  /-- Matches the empty text at certain places. -/
  | place (p : Place)
  /-- Matches a text that falls into one for `p` and one for `q`. -/
  | seq (p q : Pattern)
  /-- Matches what either pattern matches. -/
  | alt (p q : Pattern)
  /-- Matches `least` to `most` texts for `p` in a row, or any number from `least` on. -/
  | again (least : Nat) (most : Option Nat) (p : Pattern)
  /-- Matches what `p` matches. -/
  | group (p : Pattern)
  deriving Repr, DecidableEq

namespace Pattern

/-- Any number of repetitions of a pattern. -/
def star (p : Pattern) : Pattern := .again 0 none p

/-- A pattern after another, without idle parts.  A sequence of several parts leans to the right. -/
def andThen (p q : Pattern) : Pattern :=
  match p with
  | .empty => q
  | .seq p r => .seq p (andThen r q)
  | p =>
    match q with
    | .empty => p
    | q => .seq p q

/-- Patterns one after another. -/
def inOrder : List Pattern → Pattern
  | [] => .empty
  | p :: ps => andThen p (inOrder ps)

/-- Any one of some patterns. -/
def anyOf : List Pattern → Pattern
  | [] => .never
  | [p] => p
  | p :: ps => .alt p (anyOf ps)

/-- A pattern or nothing. -/
def optional (p : Pattern) : Pattern := .alt p .empty

/-- The parts of a sequence. -/
def parts : Pattern → List Pattern
  | .empty => []
  | .seq p q => p :: q.parts
  | p => [p]

/-- The branches of a choice. -/
def branches : Pattern → List Pattern
  | .alt p q => p :: q.branches
  | p => [p]

end Pattern

end DeclAtlas
