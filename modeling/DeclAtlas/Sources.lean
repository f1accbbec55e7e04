import DeclAtlas.Path

/-!
# Sources of text

Everything a query looks at comes from one of four sources: a text search, the build graph, the
schema compiler and the files themselves.  A source is a function into a monad, so a query can run
against plain functions, against functions that record what they are asked, and against a
directory tree that changes on the way.
-/

namespace DeclAtlas

/-- A line or a file that a search has found. -/
structure Hit where
  /-- The file, relative to the project root. -/
  path : String
  /-- The line, counted from 1; 0 for a whole file. -/
  line : Nat
  /-- The text of the line; empty for a whole file. -/
  text : String
  deriving Repr, DecidableEq

/-- What a search is asked for. -/
structure SearchRequest where
  /-- A regular expression, tried on every line. -/
  pattern : String
  /-- The globs of the files to look at. -/
  globs : List String
  /-- Whether files are reported instead of lines. -/
  filesOnly : Bool := false
  /-- The number of hits at which to stop, if not the configured one. -/
  maxResults : Option Nat := none
  deriving Repr, DecidableEq

/-- Why a source gives no answer. -/
inductive SourceError where
  /-- The tool is not there. -/
  | unavailable (tool hint : String)
  /-- The tool ended without success. -/
  | failed (tool status detail : String)
  /-- The tool could not be started. -/
  | cannotRun (tool cause : String)
  /-- The pattern is no regular expression. -/
  | invalidPattern (pattern : String)
  | invalidGlob (glob : String)
  deriving Repr, DecidableEq

/-- The message for a source that gives no answer. -/
def SourceError.message : SourceError → String
  | .unavailable tool hint => "`" ++ tool ++ "` is not available. Run:\n  " ++ hint
  | .failed tool status detail => "`" ++ tool ++ "` failed (" ++ status ++ "): " ++ detail
  | .cannotRun tool cause => "failed to run `" ++ tool ++ "`: " ++ cause
  | .invalidPattern pattern => "invalid search pattern `" ++ pattern ++ "`"
  | .invalidGlob glob => "invalid file glob `" ++ glob ++ "`"

/-- A text search over the declaration files. -/
abbrev Searcher (m : Type → Type) := SearchRequest → m (Except SourceError (List Hit))

/-- A query on the build graph; the answer is a list of labels. -/
abbrev GraphAsker (m : Type → Type) := String → m (Except SourceError (List String))

/-- The compilation of a schema file to canonical text. -/
abbrev Compiler (m : Type → Type) := String → m (Except SourceError String)

/-- The reading of a file; a failure is given by its cause. -/
abbrev FileReader (m : Type → Type) := String → m (Except String String)

/-- The sources of a project. -/
structure Sources (m : Type → Type) where
  search : Searcher m
  graph : GraphAsker m
  compile : Compiler m
  read : FileReader m

/-- The elements of an answer; a source that fails counts as one that finds nothing. -/
def orEmpty {ε α : Type} : Except ε (List α) → List α
  | .ok xs => xs
  | .error _ => []

/-- What `find?` finds in the first of some files in which it finds anything.  It is told the path of a
file and its text; a file that cannot be read is passed over. -/
def firstInFiles? {m : Type → Type} [Monad m] {α : Type} (read : FileReader m) (root : String)
    (find? : String → String → Option α) : List Hit → m (Option α)
  | [] => pure none
  | h :: hs => do
    match ← read (Path.join root h.path) with
    | .error _ => firstInFiles? read root find? hs
    | .ok t =>
      match find? h.path t with
      | some a => pure (some a)
      | none => firstInFiles? read root find? hs

end DeclAtlas
