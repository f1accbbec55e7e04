/-!
# Records of a schema

A record has fields with ordinals.  The next ordinal lies above every one in use, and a gap below
it belongs to a retired field and must not be used again.
-/

namespace DeclAtlas.Schema

/-- A field of a record. -/
structure Field where
  name : String
  ordinal : Nat
  /-- Its type, as written. -/
  type : String
  /-- Its annotations, as written. -/
  annotations : List String
  /-- The declaration without its comment and final semicolon. -/
  raw : String
  deriving Repr, DecidableEq

/-- A record type. -/
structure Record where
  name : String
  /-- The names of its ancestors and its own, joined by dots. -/
  qualifiedName : String
  /-- Its own fields, in order of declaration. -/
  fields : List Field
  declaredAnnotations : List String
  /-- The qualified names of the records directly inside. -/
  nested : List String
  deriving Repr, DecidableEq

namespace Record

/-- A record without members. -/
def empty (name qualifiedName : String) : Record := ⟨name, qualifiedName, [], [], []⟩

/-- The ordinals in use, in order of declaration. -/
def ordinals (r : Record) : List Nat := r.fields.map Field.ordinal

/-- The largest ordinal in use. -/
def maxOrdinal? (r : Record) : Option Nat := r.ordinals.max?

/-- The largest number an ordinal can be. -/
def ordinalLimit : Nat := 4294967295

/-- The next ordinal: one more than the largest, up to the limit, and 0 without fields. -/
def nextOrdinal (r : Record) : Nat :=
  match r.maxOrdinal? with
  | none => 0
  | some m => min (m + 1) ordinalLimit

/-- The ordinals below the largest that no field uses, in ascending order. -/
def gaps (r : Record) : List Nat :=
  match r.maxOrdinal? with
  | none => []
  | some m => (List.range m).filter fun n => !r.ordinals.contains n

end Record

/-- The record of a name: one whose qualified name it is, or else one whose own name it is. -/
def find? (records : List Record) (name : String) : Option Record :=
  (records.find? (·.qualifiedName == name)).or (records.find? (·.name == name))

end DeclAtlas.Schema
