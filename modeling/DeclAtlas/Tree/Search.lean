import DeclAtlas.Pattern.Reader
import DeclAtlas.Sources
import DeclAtlas.Tree.Walk

/-!
# Searching a directory tree

A search tries a pattern on every line of the files that a walk finds.  The files are taken in the
order of their paths, so the hits form one list that depends on the files alone, and a limit cuts
it off.  Files that are no text count as empty.
-/

namespace DeclAtlas

namespace FoundFile

/-- The lines of a file. -/
def lines (f : FoundFile) : List Line :=
  match Text.decode? f.content with
  | some s => Text.linesOf s
  | none => []

/-- The lines of a file in `p`, reported under the path `path`; `n` is the number of the first. -/
def lineHits (p : Line → Bool) (path : String) (n : Nat) : List Line → List Hit
  | [] => []
  | l :: ls =>
    if p l then ⟨path, n, String.ofList l⟩ :: lineHits p path (n + 1) ls
    else lineHits p path (n + 1) ls

/-- The hits in a file: its lines in `p`, or the file itself if it has one. -/
def hits (p : Line → Bool) (filesOnly : Bool) (root : String) (f : FoundFile) : List Hit :=
  let path := (Path.below? root f.path).getD f.path
  if filesOnly then
    if f.lines.any p then [⟨path, 0, ""⟩] else []
  else lineHits p path 1 f.lines

end FoundFile

/-- Files in the order of their paths. -/
def sortFiles (fs : List FoundFile) : List FoundFile :=
  fs.mergeSort fun a b => Path.le a.path b.path

/-- The hits in some files, in the order of the files' paths and of the lines. -/
def hitsIn (p : Line → Bool) (filesOnly : Bool) (root : String) (fs : List FoundFile) :
    List Hit :=
  (sortFiles fs).flatMap (FoundFile.hits p filesOnly root)

namespace Tree

/-- Searches the files below `dir`; paths are reported relative to `root`, and `limit` counts where
the request sets no limit of its own. -/
def search (t : Tree) (root dir : String) (limit : Nat) (r : SearchRequest) :
    Except SourceError (List Hit) :=
  match Pattern.ofString? r.pattern with
  | none => .error (.invalidPattern r.pattern)
  | some p =>
    match RuleSet.ofGlobs dir r.globs with
    | .error g => .error (.invalidGlob g)
    | .ok wanted =>
      .ok ((hitsIn p.isMatch r.filesOnly root (t.walk dir wanted)).take
        (r.maxResults.getD limit))

end Tree

end DeclAtlas
