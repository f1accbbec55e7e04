import DeclAtlas.Glob.Reader
import DeclAtlas.Script.Session

/-!
# Expansion of words

Expansion turns a word into marks: characters, each quoted or not, and places at which the word is
split.  Quoted characters never split a word and stand for themselves in patterns, and a quoted
part keeps its field alive even if it is empty.
-/

namespace DeclAtlas.Script

/-- An element of an expanded word. -/
inductive Mark where
  | char (c : Char) (quoted : Bool)
  /-- A place between two fields. -/
  | split
  /-- A quoted part, perhaps an empty one. -/
  | hold
  deriving Repr, DecidableEq

/-- Characters that split an unquoted value. -/
def isSeparator (c : Char) : Bool := c == ' ' || c == '\t' || c == '\n'

/-- Characters that stand in a word as they are. -/
def textMarks (quoted : Bool) (s : List Char) : List Mark :=
  (if quoted then [.hold] else []) ++ s.map (.char · quoted)

/-- The marks of a value: an unquoted value is split at blanks. -/
def valueMarks (quoted : Bool) (s : List Char) : List Mark :=
  if quoted then textMarks true s
  else s.map fun c => if isSeparator c then .split else .char c false

/-- The marks of several values, each a field of its own. -/
def listMarks (quoted : Bool) : List (List Char) → List Mark
  | [] => []
  | [s] => valueMarks quoted s
  | s :: ss => valueMarks quoted s ++ .split :: listMarks quoted ss

/-- The fields of some marks; `open_` is the field that is being read, if there is one. -/
def fieldsFrom (open_ : Option (List Char)) : List Mark → List (List Char)
  | [] => open_.toList
  | .char c _ :: ms => fieldsFrom (some (open_.getD [] ++ [c])) ms
  | .hold :: ms => fieldsFrom (some (open_.getD [])) ms
  | .split :: ms => open_.toList ++ fieldsFrom none ms

/-- The fields of some marks. -/
def fields (ms : List Mark) : List String := (fieldsFrom none ms).map String.ofList

/-- The text of some marks as one field; places between fields become spaces. -/
def textOf (ms : List Mark) : List Char :=
  ms.filterMap fun m => match m with
    | .char c _ => some c
    | .split => some ' '
    | .hold => none

/-- The characters of some marks with their quoting. -/
def charsOf (ms : List Mark) : List (Char × Bool) :=
  ms.filterMap fun m => match m with
    | .char c quoted => some (c, quoted)
    | .split => some (' ', true)
    | .hold => none

/-- The characters in some ranges, or all others. -/
def rangeSet (negated : Bool) (ranges : List (Char × Char)) : CharSet :=
  let s := CharSet.unionOf (ranges.map fun r => .ascii r.1 r.2)
  if negated then .except s else s

/-- The pattern that some characters make; `skip` of them are passed over. -/
def patternFrom (skip : Nat) : List (Char × Bool) → List Pattern
  | [] => []
  | (c, quoted) :: r =>
    match skip with
    | n + 1 => patternFrom n r
    | 0 =>
      let plain := fun (_ : Unit) => .one (.single c) :: patternFrom 0 r
      if quoted then plain ()
      else if c = '*' then .star (.one .anything) :: patternFrom 0 r
      else if c = '?' then .one .anything :: patternFrom 0 r
      else if c = '[' then
        let (negated, inner) := Glob.complement (r.map Prod.fst)
        match Glob.ranges [] false inner with
        | .closed ranges rest =>
          .one (rangeSet negated ranges) :: patternFrom (r.length - rest.length) r
        | _ => plain ()
      else plain ()

/-- The pattern that some marks make. -/
def patternOf (ms : List Mark) : Pattern := Pattern.inOrder (patternFrom 0 (charsOf ms))

/-- The text without the shortest, or longest, beginning that matches a pattern. -/
def dropMatching (longest : Bool) (p : Pattern) (s : List Char) : List Char :=
  let lengths := List.range (s.length + 1)
  let lengths := if longest then lengths.reverse else lengths
  match lengths.find? fun n => p.matchesAll (s.take n) with
  | some n => s.drop n
  | none => s

/-- The text without the shortest, or longest, ending that matches a pattern. -/
def dropEndMatching (longest : Bool) (p : Pattern) (s : List Char) : List Char :=
  let lengths := List.range (s.length + 1)
  let lengths := if longest then lengths else lengths.reverse
  match lengths.find? fun n => p.matchesAll (s.drop n) with
  | some n => s.take n
  | none => s

/-- The number by which a script knows its own process. -/
def ownProcess : String := "2"

/-- The value of a parameter, if it is set. -/
def Session.param? (s : Session) (name : String) : Option String :=
  match name with
  | "#" => some (toString s.params.length)
  | "?" => some (toString s.status)
  | "$" => some ownProcess
  | "!" => none
  | "-" => some ""
  | "@" => some (" ".intercalate s.params)
  | "*" => some (" ".intercalate s.params)
  | "0" => some s.name
  | _ =>
    match Text.asciiNat? name.toList with
    | some n => s.params[n - 1]?
    | none => s.valueOf? name

end DeclAtlas.Script
