import DeclAtlas.Text.Find

/-!
# Paths

Paths are strings with components between slashes.  Repeated slashes and single dots count for
nothing, except that a dot may begin a relative path; two dots stay a component of their own.
Paths are ordered component by component, not character by character.
-/

namespace DeclAtlas.Path

open Text

/-- A component of a path. -/
inductive Component where
  | root
  /-- The current directory, at the beginning of a path only. -/
  | here
  /-- The parent directory. -/
  | up
  | entry (name : String)
  deriving Repr, DecidableEq

/-- Whether a path begins at the root. -/
def isAbsolute (p : String) : Bool := startsWith ['/'] p.toList

/-- The component a piece between slashes stands for. -/
def componentOf? (piece : List Char) : Option Component :=
  if piece = [] ∨ piece = ['.'] then none
  else if piece = ['.', '.'] then some .up
  else some (.entry (String.ofList piece))

/-- The components of a path. -/
def components (p : String) : List Component :=
  let ps := pieces '/' p.toList
  let lead := if isAbsolute p then [.root] else if ps.head? = some ['.'] then [.here] else []
  lead ++ ps.filterMap componentOf?

/-- A component as written. -/
def Component.text : Component → String
  | .root => "/"
  | .here => "."
  | .up => ".."
  | .entry n => n

/-- The name of the entry that a path ends in. -/
def fileName? (p : String) : Option String :=
  match (components p).getLast? with
  | some (.entry n) => some n
  | _ => none

/-- Whether a piece between slashes counts for nothing. -/
def isIdle (piece : List Char) : Bool := piece == [] || piece == ['.']

/-- The pieces before the last one that counts, those at the end that do not count left out. -/
def dropLast? (pieces : List (List Char)) : Option (List (List Char)) :=
  match pieces.reverse.dropWhile isIdle with
  | [] => none
  | _ :: rest => some (rest.dropWhile isIdle).reverse

/-- The path without its last component, otherwise as written. -/
def parent? (p : String) : Option String :=
  let s := p.toList
  let (lead, body) :=
    if startsWith ['/'] s then (['/'], s.drop 1)
    else if startsWith ['.', '/'] s then (['.'], s.drop 1)
    else ([], s)
  (dropLast? (pieces '/' body)).map fun ps => String.ofList (lead ++ joinWith ['/'] ps)

/-- The name of the last entry up to its last dot; a dot at the beginning does not count. -/
def fileStem? (p : String) : Option String :=
  (fileName? p).map fun n =>
    match cutLast? '.' n.toList with
    | some (stem, _) => if stem.isEmpty then n else String.ofList stem
    | none => n

/-- A path below a directory; an absolute path stays as it is. -/
def join (dir p : String) : String :=
  if isAbsolute p || dir.isEmpty then p
  else if endsWith ['/'] dir.toList then dir ++ p
  else dir ++ "/" ++ p

/-- The pieces after the first `n` that count. -/
def dropCounted (n : Nat) : List (List Char) → List (List Char)
  | [] => []
  | p :: ps =>
    if isIdle p then dropCounted n ps
    else match n with
      | 0 => p :: ps
      | n + 1 => dropCounted n ps

/-- Whether a component stands for a piece of the path that counts. -/
def Component.counts (c : Component) : Bool := c != .root && c != .here

/-- A path as written, without the pieces at its end that count for nothing. -/
def trimIdle (p : String) : String :=
  match (pieces '/' p.toList).reverse.dropWhile isIdle with
  | [] => "".intercalate ((components p).map Component.text)
  | q :: qs => String.ofList (joinWith ['/'] (q :: qs).reverse)

/-- What a path adds to the directory it begins with, as written; nothing if it begins with
another one. -/
def below? (dir p : String) : Option String :=
  match components dir with
  | [] => some (trimIdle p)
  | d :: ds =>
    if (d :: ds).isPrefixOf (components p) then
      let rest := dropCounted ((d :: ds).countP Component.counts) (pieces '/' p.toList)
      some (trimIdle (String.ofList (joinWith ['/'] rest)))
    else none

/-- The order of components: root, current, parent, then entries by name. -/
def Component.rank : Component → Nat × String
  | .root => (0, "")
  | .here => (1, "")
  | .up => (2, "")
  | .entry n => (3, n)

/-- Whether a component comes before another. -/
def Component.before (a b : Component) : Bool :=
  a.rank.1 < b.rank.1 || (a.rank.1 == b.rank.1 && a.rank.2 < b.rank.2)

/-- Whether a list of components comes before or equals another. -/
def componentsLe : List Component → List Component → Bool
  | [], _ => true
  | _ :: _, [] => false
  | a :: as, b :: bs => a.before b || (a == b && componentsLe as bs)

/-- Whether two paths have the same components, so that they name the same file. -/
def isSame (p q : String) : Bool := components p == components q

/-- Whether a path comes before another or has the same components. -/
def le (p q : String) : Bool := componentsLe (components p) (components q)

end DeclAtlas.Path
