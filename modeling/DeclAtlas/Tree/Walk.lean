import DeclAtlas.Glob.Rule
import DeclAtlas.Tree.Basic

/-!
# Walking a directory tree

A walk collects the files below a directory.  Three things decide about an entry, each only where
the one before is silent: the globs that are asked for, the rule files on the way, and whether the
name begins with a dot.  A directory that is left out is not entered.

Rule files count from the innermost directory outwards, those of the directories above the walk
included.  `.ignore` always counts; `.gitignore` and the exclusions of a repository count only
inside a repository, and only up to its top, which an entry `.git` or `.jj` marks.
-/

namespace DeclAtlas

/-- A file that a walk has found. -/
structure FoundFile where
  path : String
  content : Bytes
  deriving Repr, DecidableEq

/-- The rules that a directory adds for what lies below it. -/
structure Scope where
  /-- The rules that always count. -/
  ignore : RuleSet
  git : RuleSet
  /-- The exclusions of a repository. -/
  exclude : RuleSet
  /-- Whether the directory is the top of a repository. -/
  isTop : Bool
  deriving Repr

namespace Scope

/-- The lines of a rule file, up to the first one that is no text.  A carriage return belongs to the
line break after it. -/
def ruleLines (content : Bytes) : List Line :=
  let ls := (content.splitOn 10).map Text.decode?
  let texts := (ls.takeWhile Option.isSome).map fun l => (l.getD "").toList
  let isLast := texts.length = ls.length
  let ended := if isLast then texts.dropLast else texts
  let lines := ended.map (fun l => (Text.dropEnd? ['\r'] l).getD l) ++
    (if isLast then texts.getLast?.toList else [])
  match lines with
  | [] => []
  | l :: ls => l.dropWhile (· == '\uFEFF') :: ls

/-- The rules of a file in a directory; none if there is no such file. -/
def rulesAt (base : String) (t : Tree) (names : List String) : RuleSet :=
  match t.at? names with
  | some (.file content) => .ofLines base (ruleLines content)
  | _ => ⟨base, []⟩

/-- What the directory `t` adds under the path `base`. -/
def ofTree (base : String) (t : Tree) : Scope where
  ignore := rulesAt base t [".ignore"]
  git := rulesAt base t [".gitignore"]
  exclude := rulesAt base t [".git", "info", "exclude"]
  isTop := (t.at? [".git"]).isSome || (t.at? [".jj"]).isSome

/-- The scopes up to the top of the innermost repository. -/
def upToTop : List (Scope × String) → List (Scope × String)
  | [] => []
  | s :: ss => if s.1.isTop then [s] else s :: upToTop ss

/-- The first verdict that some rules of the scopes give; each scope comes with the path by which
it knows the entry. -/
def firstVerdict (rules : Scope → RuleSet) (isDirectory : Bool) : List (Scope × String) → Verdict
  | [] => .silent
  | (s, path) :: ss =>
    ((rules s).verdict path isDirectory).orElse (firstVerdict rules isDirectory ss)

/-- The verdict of rule files, the innermost scope first. -/
def verdict (ss : List (Scope × String)) (isDirectory : Bool) : Verdict :=
  let always := firstVerdict ignore isDirectory ss
  if ss.any (·.1.isTop) then
    let inside := upToTop ss
    (always.orElse (firstVerdict git isDirectory inside)).orElse
      (firstVerdict exclude isDirectory inside)
  else always

end Scope

/-- Where a walk is: the wanted globs and the rules that hold there. -/
structure WalkPlace where
  /-- The globs that are asked for. -/
  wanted : RuleSet
  /-- The rules of the directories within the walk, the innermost first. -/
  inner : List Scope
  /-- The rules of the directories above the walk, the innermost first. -/
  outer : List Scope

namespace WalkPlace

/-- Whether an entry is left out.  It is known by its path within the walk and by its absolute
path. -/
def leavesOut (w : WalkPlace) (name path absolute : String) (isDirectory : Bool) : Bool :=
  let scopes := w.inner.map (·, path) ++ w.outer.map (·, absolute)
  match (w.wanted.wanted path isDirectory).orElse (Scope.verdict scopes isDirectory) with
  | .leave => true
  | .take => false
  | .silent => Text.startsWith ['.'] name.toList

/-- The place below a directory. -/
def enter (w : WalkPlace) (path : String) (t : Tree) : WalkPlace :=
  { w with inner := Scope.ofTree path t :: w.inner }

mutual

/-- The files of a tree under a path. -/
def files (w : WalkPlace) (path absolute : String) : Tree → List FoundFile
  | .file content => [⟨path, content⟩]
  | .program _ => []
  | .directory es => entryFiles (w.enter path (.directory es)) path absolute es

/-- The files of some entries of a directory. -/
def entryFiles (w : WalkPlace) (path absolute : String) : List (String × Tree) → List FoundFile
  | [] => []
  | (name, t) :: es =>
    let path' := Path.join path name
    let absolute' := Path.join absolute name
    (if w.leavesOut name path' absolute' t.isDirectory then [] else files w path' absolute' t) ++
      entryFiles w path absolute es

end

end WalkPlace

namespace Tree

/-- The rules of the directories that some names lead through, the innermost first. -/
def scopesAbove (t : Tree) (above : List String) : List String → List Scope
  | [] => []
  | n :: ns =>
    scopesAbove ((t.at? [n]).getD empty) (above ++ [n]) ns ++ [Scope.ofTree (pathOf above) t]

/-- The files below a directory that the globs ask for. -/
def walk (t : Tree) (dir : String) (wanted : RuleSet) : List FoundFile :=
  match t.resolve dir with
  | .error _ => []
  | .ok ns =>
    match t.at? ns with
    | none => []
    | some d => WalkPlace.files ⟨wanted, [], t.scopesAbove [] ns⟩ dir (pathOf ns) d

end Tree

end DeclAtlas
