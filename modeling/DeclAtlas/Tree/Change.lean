import DeclAtlas.Tree.Basic

/-!
# Changes between trees

What has to be done to one tree to get another: entries to remove, directories to make and files to
write, each given by the names that lead to it.  The outer layer carries the changes out on a disk.
-/

namespace DeclAtlas

/-- A change of a tree. -/
inductive TreeChange where
  | remove (names : List String)
  | makeDirectory (names : List String)
  | write (names : List String) (content : Bytes)
  deriving Repr, DecidableEq

namespace Tree

mutual

/-- What makes a tree where there is nothing. -/
def additions (names : List String) : Tree → List TreeChange
  | .file content => [.write names content]
  | .program _ => []
  | .directory es => .makeDirectory names :: entryAdditions names es

/-- What makes some entries where there are none. -/
def entryAdditions (names : List String) : List (String × Tree) → List TreeChange
  | [] => []
  | (n, t) :: es => additions (names ++ [n]) t ++ entryAdditions names es

end

/-- The entries that are no longer there. -/
def removals (names : List String) (old new : List (String × Tree)) : List TreeChange :=
  (old.filter fun e => (new.lookup e.1).isNone).map fun e => .remove (names ++ [e.1])

mutual

/-- What turns `old` into the new tree. -/
def changes (names : List String) (old : Tree) : Tree → List TreeChange
  | .directory es =>
    match old with
    | .directory olds => removals names olds es ++ entryChanges names olds es
    | _ => .remove names :: additions names (.directory es)
  | .file content =>
    match old with
    | .file c => if c = content then [] else [.write names content]
    | .program _ => [.write names content]
    | .directory _ => [.remove names, .write names content]
  | .program _ => []

/-- What turns the entries `olds` into the new ones, removals apart. -/
def entryChanges (names : List String) (olds : List (String × Tree)) :
    List (String × Tree) → List TreeChange
  | [] => []
  | (n, t) :: es =>
    (match olds.lookup n with
      | some old => changes (names ++ [n]) old t
      | none => additions (names ++ [n]) t) ++ entryChanges names olds es

end

end Tree

end DeclAtlas
