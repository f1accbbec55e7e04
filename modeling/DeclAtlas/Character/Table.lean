import DeclAtlas.Character.CharSet

/-!
# Written tables of character sets

The characters of a property are written compactly: for each range how many code points lie between
it and the range before, and how many follow its first one.  The numbers stand in base 31, the
lowest digit first; the digits are the ASCII digits and letters, and a digit that stands for 31 more
than its worth has another one behind it.

A table has several sets, each with the names that it goes by.  The names are in loose spelling, as
`looseName` leaves it.
-/

namespace DeclAtlas.Character

open Text

/-- A named set of characters as it is written in a table. -/
structure Entry where
  names : List String
  /-- The ranges. -/
  written : List String

/-- The worth of a digit. -/
def digitWorth (c : Char) : Nat :=
  if c ≤ '9' then c.toNat - '0'.toNat
  else if c ≤ 'Z' then c.toNat - 'A'.toNat + 10
  else c.toNat - 'a'.toNat + 36

/-- Reads numbers; `read` is the worth of the digits of the present one and `place` that of a one
in the place of the next. -/
def readNumbers (read place : Nat) : List Char → List Nat
  | [] => []
  | c :: r =>
    let d := digitWorth c
    if d < 31 then (read + d * place) :: readNumbers 0 1 r
    else readNumbers (read + (d - 31) * place) (place * 31) r

/-- The ranges that are described by gaps and lengths, the first gap being that behind `next`. -/
def rangesFrom (next : Nat) : List Nat → CodeRanges
  | gap :: more :: rest =>
    (next + gap, next + gap + more) :: rangesFrom (next + gap + more + 1) rest
  | _ => []

/-- The set of an entry. -/
def Entry.set (e : Entry) : CharSet :=
  .ofRanges (rangesFrom 0 (readNumbers 0 1 (e.written.flatMap String.toList)))

/-- The member of a list of named things that goes by a name. -/
def lookUp {α : Type} (things : List (List String × α)) (name : String) : Option α :=
  (things.find? (·.1.contains name)).map Prod.snd

/-- The set that goes by a name in a table. -/
def find? (table : List Entry) (name : String) : Option CharSet :=
  (table.find? (·.names.contains name)).map Entry.set

/-- The set that goes by a name in a table, or no characters. -/
def ofTable (table : List Entry) (name : String) : CharSet := (find? table name).getD .nothing

/-- The characters that have one of the names in a table. -/
def allOf (table : List Entry) (names : List String) : CharSet := .unionOf (names.map (ofTable table))

/-- Whether a character counts in the loose spelling of a name. -/
def countsInName (c : Char) : Bool := c.toNat < 128 && c != ' ' && c != '_' && c != '-'

/-- A name in loose spelling: in small letters, without an *is* in front and without blanks, low
lines, hyphens and characters beyond ASCII.  An *is* before a single *c* stays, since that is the
name of the property of comments and not of the category *c*. -/
def looseName (name : List Char) : String :=
  let letters := fun s : List Char => (s.filter countsInName).map Char.toLower
  match name with
  | i :: s :: rest =>
    if i.toLower = 'i' ∧ s.toLower = 's' then
      if letters rest = ['c'] then "isc" else String.ofList (letters rest)
    else String.ofList (letters name)
  | _ => String.ofList (letters name)

end DeclAtlas.Character
