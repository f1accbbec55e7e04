import DeclAtlas.Schema.Syntax

/-!
# Reading canonical schema text

The reader keeps the open records as a stack, each with the depth of braces at which it was opened,
and the innermost open record apart from all others.  Closing is pure brace arithmetic: an open
record is closed as soon as the depth falls to the depth of its opening, and its parent is taken
back from the records set aside.

The result lists records in the order in which they were last set aside, so a nested record comes
before the one that holds it.
-/

namespace DeclAtlas.Schema

/-- An open record. -/
structure Opening where
  /-- The record's own name. -/
  name : String
  depth : Nat
  deriving Repr, DecidableEq

/-- The qualified name of the innermost open record, innermost first. -/
def qualifiedNameOf (stack : List Opening) : String :=
  ".".intercalate (stack.reverse.map Opening.name)

/-- What has been read so far. -/
structure Reading where
  /-- The records that are not the innermost open one. -/
  aside : List Record
  /-- The open records, innermost first. -/
  stack : List Opening
  depth : Nat
  /-- The innermost open record. -/
  current : Option Record
  deriving Repr, DecidableEq

namespace Reading

/-- Nothing read yet. -/
def start : Reading := ⟨[], [], 0, none⟩

/-- Opens a record inside the innermost open one. -/
def openRecord (r : Reading) (name : String) : Reading :=
  let stack := ⟨name, r.depth⟩ :: r.stack
  { r with
    aside := r.aside ++ r.current.toList
    stack := stack
    current := some (Record.empty name (qualifiedNameOf stack)) }

/-- Takes the first record of a qualified name out of a list. -/
def takeOut? (name : String) : List Record → Option (Record × List Record)
  | [] => none
  | r :: rs =>
    if r.qualifiedName = name then some (r, rs)
    else (takeOut? name rs).map fun t => (t.1, r :: t.2)

/-- Sets the innermost open record aside and goes back to its parent, the innermost record of
`stack`. -/
def returnTo (stack : List Opening) (aside : List Record) (current : Option Record) :
    List Record × Option Record :=
  let aside := aside ++ current.toList
  if stack.isEmpty then (aside, none)
  else match takeOut? (qualifiedNameOf stack) aside with
    | none => (aside, none)
    | some (parent, rest) =>
      let closed := current.toList.map Record.qualifiedName
      (rest, some { parent with nested := parent.nested ++ closed })

/-- Closes the open records whose depth has been reached again. -/
def closeFinished (depth : Nat) (stack : List Opening) (aside : List Record)
    (current : Option Record) : Reading :=
  match stack with
  | [] => ⟨aside, [], depth, current⟩
  | o :: rest =>
    if o.depth < depth then ⟨aside, o :: rest, depth, current⟩
    else
      let (aside, current) := returnTo rest aside current
      closeFinished depth rest aside current

/-- Adds to a record what a line declares inside it. -/
def declareIn (l : Line) (r : Record) : Record :=
  { r with
    fields := r.fields ++ (field? l).toList
    declaredAnnotations := r.declaredAnnotations ++ (declaredAnnotation? l).toList }

/-- Reads one line. -/
def feed (r : Reading) (l : Line) : Reading :=
  let opened := match openedRecord? l with
    | some name => r.openRecord name
    | none => r
  closeFinished (opened.depth + l.count '{' - l.count '}') opened.stack opened.aside
    (opened.current.map (declareIn l))

/-- The records read, those still open last. -/
def records (r : Reading) : List Record := r.aside ++ r.current.toList

end Reading

/-- Reads lines one after another. -/
def readLines (ls : List Line) : Reading := ls.foldl Reading.feed Reading.start

/-- The records that canonical schema text declares. -/
def parse (text : String) : List Record := (readLines (Text.linesOf text)).records

end DeclAtlas.Schema
