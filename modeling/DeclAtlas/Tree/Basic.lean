import DeclAtlas.Path
import DeclAtlas.Text.Utf8

/-!
# Directory trees

A directory tree is a value: files with their bytes, programs known by their names, and directories.
Paths lead from the root of the tree to an entry.  Two dots lead back to the directory above, and
every component but the last must be a directory, as must the last one if a slash follows it.

Reading, writing and removing are functions on trees; each says why it fails in the words of the
operating system (`FileError.message`).
-/

namespace DeclAtlas

/-- A directory tree. -/
inductive Tree where
  | file (content : Bytes)
  /-- A file that is run as a program, known by its name. -/
  | program (name : String)
  | directory (entries : List (String × Tree))
  deriving Repr

/-- Why a file cannot be used. -/
inductive FileError where
  | notFound
  | denied
  | notDirectory
  | isDirectory
  | notText
  deriving Repr, DecidableEq

/-- The reason why a file cannot be used. -/
def FileError.reason : FileError → String
  | .notFound => "No such file or directory"
  | .denied => "Permission denied"
  | .notDirectory => "Not a directory"
  | .isDirectory => "Is a directory"
  | .notText => "stream did not contain valid UTF-8"

/-- The message for a file that cannot be used: the reason with its number in the system. -/
def FileError.message (e : FileError) : String :=
  match e with
  | .notFound => e.reason ++ " (os error 2)"
  | .denied => e.reason ++ " (os error 13)"
  | .notDirectory => e.reason ++ " (os error 20)"
  | .isDirectory => e.reason ++ " (os error 21)"
  | .notText => e.reason

namespace Tree

/-- A tree without entries. -/
def empty : Tree := .directory []

/-- The entries of a directory. -/
def entries : Tree → List (String × Tree)
  | .directory es => es
  | _ => []

/-- Whether a tree is a directory. -/
def isDirectory : Tree → Bool
  | .directory _ => true
  | _ => false

/-- What lies at the end of a sequence of names. -/
def at? (t : Tree) : List String → Option Tree
  | [] => some t
  | n :: ns => (t.entries.lookup n).bind fun s => s.at? ns

/-- Entries with the one of name `n` replaced, or added at the end. -/
def replaceEntry (n : String) (t : Tree) : List (String × Tree) → List (String × Tree)
  | [] => [(n, t)]
  | (m, s) :: es => if m = n then (n, t) :: es else (m, s) :: replaceEntry n t es

/-- The tree with `s` at the end of a sequence of names, the directories on the way created. -/
def put (t : Tree) (ns : List String) (s : Tree) : Tree :=
  match ns with
  | [] => s
  | n :: ns =>
    .directory (replaceEntry n (((t.entries.lookup n).getD empty).put ns s) t.entries)

/-- The tree without what lies at the end of a sequence of names. -/
def erase (t : Tree) : List String → Tree
  | [] => empty
  | [n] => .directory (t.entries.filter (·.1 != n))
  | n :: ns =>
    match t.entries.lookup n with
    | none => t
    | some s => .directory (replaceEntry n (s.erase ns) t.entries)

/-! ### Paths -/

/-- Follows one component from the entry whose names, the last one first, are `ns`. -/
def follow (t : Tree) (ns : List String) (c : Path.Component) : Except FileError (List String) :=
  match t.at? ns.reverse with
  | none => .error .notFound
  | some s =>
    if !s.isDirectory then .error .notDirectory
    else match c with
      | .root => .ok []
      | .here => .ok ns
      | .up => .ok ns.tail
      | .entry n => if (s.entries.lookup n).isSome then .ok (n :: ns) else .error .notFound

/-- Whether a path can only be one of a directory. -/
def demandsDirectory (p : String) : Bool :=
  match (Text.pieces '/' p.toList).getLast? with
  | some piece => Path.isIdle piece
  | none => false

/-- The names that an absolute path leads through. -/
def resolve (t : Tree) (p : String) : Except FileError (List String) := do
  if p.isEmpty then .error .notFound
  else
    let ns ← (Path.components p).foldlM (follow t) []
    if demandsDirectory p && !((t.at? ns.reverse).any isDirectory) then .error .notDirectory
    else .ok ns.reverse

/-- The absolute path through some names. -/
def pathOf (ns : List String) : String := "/" ++ "/".intercalate ns

/-- What lies at the end of an absolute path. -/
def find (t : Tree) (p : String) : Except FileError Tree := do
  match t.at? (← t.resolve p) with
  | some s => .ok s
  | none => .error .notFound

/-- Whether anything lies at the end of an absolute path. -/
def hasPath (t : Tree) (p : String) : Bool := (t.find p).isOk

/-- The absolute path without dots that leads to the same entry. -/
def canonical (t : Tree) (p : String) : Except FileError String := (t.resolve p).map pathOf

/-! ### Files -/

/-- The bytes of a file. -/
def readBytes (t : Tree) (p : String) : Except FileError Bytes := do
  match ← t.find p with
  | .file content => .ok content
  | .program _ => .error .notText
  | .directory _ => .error .isDirectory

/-- The text of a file. -/
def readText (t : Tree) (p : String) : Except FileError String := do
  match Text.decode? (← t.readBytes p) with
  | some s => .ok s
  | none => .error .notText

/-- The names of the file that is written under a path. -/
def target (t : Tree) (p : String) : Except FileError (List String) := do
  if p.isEmpty then .error .notFound
  else
    let cs := Path.components p
    match cs.getLast? with
    | some (.entry n) =>
      let ns ← cs.dropLast.foldlM (follow t) []
      match t.at? ns.reverse with
      | none => .error .notFound
      | some d =>
        if !d.isDirectory then .error .notDirectory
        else match d.entries.lookup n with
          | some (.directory _) => .error .isDirectory
          | some _ =>
            if demandsDirectory p then .error .notDirectory else .ok (ns.reverse ++ [n])
          | none => if demandsDirectory p then .error .isDirectory else .ok (ns.reverse ++ [n])
    | _ => .error .isDirectory

/-- The tree with a file written; the directory that holds it must be there. -/
def write (t : Tree) (p : String) (content : Bytes) : Except FileError Tree := do
  .ok (t.put (← t.target p) (.file content))

end Tree

end DeclAtlas
