import DeclAtlas.Input
import DeclAtlas.Nesting.Block
import DeclAtlas.Path
import DeclAtlas.Pattern.Reader
import DeclAtlas.Settings
import DeclAtlas.Sources
import DeclAtlas.Text.WordChar

/-!
# Cross references

A cross reference gathers what the checkout says about one symbol: declarations, implementation
files, the registration with its members, the type group that lists the symbol, uses that a
compatibility flag gates, and tests.  Each section is fed by a search of its own, and a search that
fails leaves its section empty.
-/

namespace DeclAtlas

open Text Nesting

/-- How often a file is found. -/
structure FileCount where
  path : String
  /-- The number of hits in it. -/
  references : Nat
  deriving Repr, DecidableEq

/-- The macro that lists a group of types. -/
structure TypeGroup where
  macroName : String
  /-- The file that defines it. -/
  path : String
  /-- The line, counted from 1. -/
  line : Nat
  deriving Repr, DecidableEq

/-- What is known about a symbol. -/
structure CrossReference where
  symbol : String
  /-- Its declarations, the primary one first. -/
  declarations : List Hit
  implementations : List FileCount
  registration : Option Hit
  /-- The members its registration block declares. -/
  registeredMembers : List String
  typeGroup : Option TypeGroup
  /-- The uses gated by a flag. -/
  gating : List Hit
  tests : List String
  deriving Repr, DecidableEq

namespace CrossReference

/-! ### The searches -/

/-- The search for declarations of a symbol. -/
def declarationsOf (s : SearchSettings) (symbol : String) : SearchRequest where
  pattern := "class\\s+" ++ symbol ++ "\\b"
  globs := [s.headerGlob]

/-- The search for member definitions of a symbol. -/
def implementationsOf (s : SearchSettings) (symbol : String) : SearchRequest where
  pattern := "\\b" ++ symbol ++ "::"
  globs := [s.implGlob]

/-- The search for the registration of a symbol. -/
def registrationOf (s : SearchSettings) (symbol : String) : SearchRequest where
  pattern := "JSG_RESOURCE_TYPE\\s*\\(\\s*" ++ symbol ++ "\\b"
  globs := [s.headerGlob]

/-- The search for tests that mention a symbol. -/
def testsOf (symbol : String) : SearchRequest where
  pattern := "\\b" ++ symbol ++ "\\b"
  globs := ["*test*.js", "*test*.ts", "*test*.c++", "*.wd-test"]
  filesOnly := true

/-- The search for uses of a symbol on a line that asks for a flag. -/
def gatingOf (s : SearchSettings) (symbol : String) : SearchRequest where
  pattern :=
    "flags\\.get\\w*\\(\\).*\\b" ++ symbol ++ "\\b|\\b" ++ symbol ++ "\\b.*flags\\.get"
  globs := [s.headerGlob]

/-- The search for headers that mention a type group. -/
def typeGroupsIn (s : SearchSettings) : SearchRequest where
  pattern := "EW_\\w+_ISOLATE_TYPES"
  globs := [s.headerGlob]
  filesOnly := true

/-! ### The sections -/

/-- Reads the brace that opens a class, or the colon before its bases. -/
def classOpening? : Reader Unit
  | ':' :: r => some ((), r)
  | '{' :: r => some ((), r)
  | _ => none

/-- Reads a class head that opens or derives: `class`, a name, perhaps `final`, a colon or brace. -/
def classHead? : Reader Unit := fun s => do
  let s ← (literal? "class" s).bind blanks?
  let (_, s) ← word? s
  let s := trimStart s
  classOpening? (((literal? "final" s).map trimStart).getD s)

/-- Whether a hit looks like the definition of a class. -/
def isPrimary (h : Hit) : Bool := (findMatch? classHead? h.text.toList).isSome

/-- The hits with the first primary declaration moved to the front. -/
def primaryFirst (hits : List Hit) : List Hit :=
  match hits.find? isPrimary with
  | some h => h :: hits.eraseP isPrimary
  | none => hits

/-- Counts one more hit in a file; a file not seen before comes last. -/
def countIn (counts : List FileCount) (path : String) : List FileCount :=
  match counts with
  | [] => [⟨path, 1⟩]
  | c :: cs =>
    if Path.isSame c.path path then { c with references := c.references + 1 } :: cs
    else c :: countIn cs path

/-- The files of some hits with their numbers of hits, in order of first occurrence; a file is named
as its first hit names it. -/
def countByFile (hits : List Hit) : List FileCount :=
  (hits.map Hit.path).foldl countIn []

/-- Adds a file at the end of some files, unless it is one of them. -/
def addPath (paths : List String) (path : String) : List String :=
  if paths.any (Path.isSame · path) then paths else paths ++ [path]

/-- The files of some hits, each once, in order of first occurrence. -/
def uniquePaths (hits : List Hit) : List String := (hits.map Hit.path).foldl addPath []

/-- What the registration macros of members go on with after `JSG_`. -/
def memberStems : List String :=
  ["METHOD", "STATIC_METHOD", "READONLY_PROTOTYPE_PROPERTY", "PROTOTYPE_PROPERTY",
   "LAZY_INSTANCE_PROPERTY", "LAZY_READONLY_INSTANCE_PROPERTY", "INSTANCE_PROPERTY",
   "READONLY_INSTANCE_PROPERTY", "NESTED_TYPE", "INHERIT", "TS_"]

/-- Whether a line mentions a macro that registers a member. -/
def isMemberLine (l : Line) : Bool :=
  memberStems.any fun m => containsString ("JSG_" ++ m) l

/-- The largest number of members that are listed. -/
def memberLimit : Nat := 30

/-- The member lines of the block registered at line `line`, counted from 1. -/
def membersAt (content : String) (line : Nat) : List String :=
  match blockAt? (linesOf content) (line - 1) with
  | none => []
  | some b => (((b.lines.map trim).filter isMemberLine).take memberLimit).map String.ofList

/-- Whether a word is the macro of a type group. -/
def isGroupMacro (w : List Char) : Bool :=
  ((dropLead? "EW_".toList w).bind (dropEnd? "_ISOLATE_TYPES".toList)).any (!·.isEmpty)

/-- The first type group macro that stands on a line as a whole word. -/
def groupMacro? (l : Line) : Option (List Char) := (words l).find? isGroupMacro

/-- How many lines after a type group macro may list its members. -/
def groupSpan : Nat := 80

/-- Whether a line mentions a name as a whole word. -/
def mentions (name : List Char) (l : Line) : Bool := (words l).contains name

/-- The first type group of some lines, the first of which has number `line`, that lists the name
on its own line or soon after. -/
def groupIn? (name : List Char) (path : String) (line : Nat) : List Line → Option TypeGroup
  | [] => none
  | l :: ls =>
    match groupMacro? l with
    | some w =>
      if ((l :: ls).take (groupSpan + 1)).any (mentions name) then
        some ⟨String.ofList w, path, line⟩
      else groupIn? name path (line + 1) ls
    | none => groupIn? name path (line + 1) ls

section

variable {m : Type → Type} [Monad m]

/-- The members registered at a hit; none if the file cannot be read. -/
def registeredMembersAt (read : FileReader m) (root : String) (hit : Hit) : m (List String) := do
  match ← read (Path.join root hit.path) with
  | .error _ => pure []
  | .ok t => pure (membersAt t hit.line)

/-- The first type group in some files that lists the symbol. -/
def typeGroupIn? (read : FileReader m) (root symbol : String) (files : List Hit) :
    m (Option TypeGroup) :=
  firstInFiles? read root (fun path t => groupIn? symbol.toList path 1 (linesOf t)) files

/-- The hits of a search. -/
def hitsOf (search : Searcher m) (r : SearchRequest) : m (List Hit) := do
  pure (orEmpty (← search r))

/-- The pattern of the lines that mention a symbol as a whole word. -/
def mentionPattern (symbol : String) : String := "\\b" ++ symbol ++ "\\b"

/-- The first type group in the headers that lists the symbol; none is found of a symbol that is too
long for the pattern of its mentions. -/
def findTypeGroup? (search : Searcher m) (read : FileReader m) (root : String) (s : SearchSettings)
    (symbol : String) : m (Option TypeGroup) := do
  let files ← hitsOf search (typeGroupsIn s)
  if Pattern.isAdmitted (mentionPattern symbol) then typeGroupIn? read root symbol files
  else pure none

/-- The cross reference of a symbol that is known to be an identifier. -/
def gather (search : Searcher m) (read : FileReader m) (root : String) (s : SearchSettings)
    (symbol : String) : m CrossReference := do
  let declarations ← hitsOf search (declarationsOf s symbol)
  let implementations ← hitsOf search (implementationsOf s symbol)
  let registrations ← hitsOf search (registrationOf s symbol)
  let tests ← hitsOf search (testsOf symbol)
  let gating ← hitsOf search (gatingOf s symbol)
  let typeGroup ← findTypeGroup? search read root s symbol
  let members ← match registrations.head? with
    | some h => registeredMembersAt read root h
    | none => pure []
  pure {
    symbol := symbol
    declarations := primaryFirst declarations
    implementations := countByFile implementations
    registration := registrations.head?
    registeredMembers := members
    typeGroup := typeGroup
    gating := gating
    tests := uniquePaths tests }

end

end CrossReference

/-- The cross reference of a symbol. -/
def lookupCrossReference {m : Type → Type} [Monad m] (search : Searcher m) (read : FileReader m)
    (root : String) (s : SearchSettings) (symbol : String) :
    m (Except InputError CrossReference) :=
  match checkIdentifier .symbol symbol with
  | .error e => pure (.error e)
  | .ok () => Except.ok <$> CrossReference.gather search read root s symbol

end DeclAtlas
