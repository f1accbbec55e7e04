import DeclAtlas.Project
import DeclAtlas.Settings.Reader
import DeclAtlas.Tool
import DeclAtlas.Tree.Search

/-!
# Checkouts

A checkout is a directory of a tree.  Opening it reads its settings and gives a project whose
sources are the tree itself: the search walks it, and the build graph and the schema compiler are
tools that are run in it.  Since a tool may change the tree, a query is a function of the tree that
gives the tree back.
-/

namespace DeclAtlas

/-- A step that works on a directory tree. -/
abbrev OnTree := StateM Tree

/-- Why settings cannot be loaded. -/
inductive SettingsError where
  | unreadable (e : FileError)
  /-- The settings file does not hold settings. -/
  | malformed
  deriving Repr, DecidableEq

/-- The message for settings that cannot be loaded. -/
def SettingsError.message : SettingsError → String
  | .unreadable e => "Failed to read config file: " ++ e.message
  | .malformed => "Failed to parse config file: not a valid settings document"

/-- Why a checkout cannot be opened. -/
inductive OpenError where
  | notFound (path : String)
  | settings (e : SettingsError)
  deriving Repr, DecidableEq

/-- The message for a checkout that cannot be opened. -/
def OpenError.message : OpenError → String
  | .notFound path => "Path not found: " ++ path
  | .settings e => "Configuration error: " ++ e.message

namespace Checkout

/-- The settings of a directory; the default ones if it has no settings file. -/
def loadSettings (t : Tree) (root : String) : Except SettingsError Settings :=
  let path := Path.join root Settings.fileName
  if !t.hasPath path then .ok {}
  else match t.readText path with
    | .error e => .error (.unreadable e)
    | .ok text =>
      match Settings.ofText? text with
      | some s => .ok s
      | none => .error .malformed

/-! ### Tools -/

/-- Runs a tool; a tool that cannot be started leaves the tree as it is. -/
def runTool (directory tool : String) (args : List String) : OnTree (Except FileError Outcome) := do
  match Tool.run (← get) directory tool args with
  | .ok (outcome, t) =>
    set t
    pure (.ok outcome)
  | .error e => pure (.error e)

/-- Why a tool that cannot be started gives no answer: either it is not there, or it cannot run. -/
def startError (tool hint : String) (e : FileError) : SourceError :=
  if e = .notFound then .unavailable tool hint else .cannotRun tool e.message

/-- The labels that a tool has written, one on a line; blank lines do not count. -/
def labelsIn (output : Bytes) : List String :=
  (((Text.linesOf (Text.decodeLossy output)).map Text.trim).filter (!·.isEmpty)).map String.ofList

/-- Asks the build graph by running the build tool. -/
def askGraph (root tool : String) : GraphAsker OnTree := fun expression => do
  match ← runTool root tool ["query", expression, "--output", "label"] with
  | .error e => pure (.error (startError tool ("install " ++ tool ++ " or add it to PATH") e))
  | .ok outcome =>
    if outcome.ending.isSuccess then pure (.ok (labelsIn outcome.output))
    else pure (.error (.failed tool outcome.ending.text ("query '" ++ expression ++ "'")))

/-- The name under which the schema compiler is reported. -/
def compilerName : String := "capnp"

/-- The command that builds the schema compiler. -/
def buildHint (tool : String) (s : SchemaSettings) : String :=
  tool ++ " build " ++ " ".intercalate s.buildTargets

/-- Builds the schema compiler if it or its plugin is missing; tells whether that went well. -/
def ensureBuilt (root tool : String) (s : SchemaSettings) : OnTree Bool := do
  let t ← get
  if t.hasPath (Path.join root s.compiler) && t.hasPath (Path.join root s.plugin) then pure true
  else match ← runTool root tool ("build" :: s.buildTargets) with
    | .ok outcome => pure outcome.ending.isSuccess
    | .error _ => pure false

/-- The arguments of the schema compiler for a file. -/
def compilerArgs (root : String) (s : SchemaSettings) (file : String) : List String :=
  ["compile", "--no-standard-import"] ++ s.importPaths.map (fun p => "-I" ++ Path.join root p) ++
    ((Path.parent? file).map ("-I" ++ ·)).toList ++ ["-o" ++ Path.join root s.plugin, file]

/-- Compiles a schema file to canonical text. -/
def compileSchema (root tool : String) (s : SchemaSettings) : Compiler OnTree := fun file => do
  let hint := buildHint tool s
  if !(← ensureBuilt root tool s) then pure (.error (.unavailable compilerName hint))
  else
    match ← runTool root (Path.join root s.compiler)
        (compilerArgs root s (Path.join root file)) with
    | .error e => pure (.error (startError compilerName hint e))
    | .ok outcome =>
      if outcome.ending.isSuccess then pure (.ok (Text.decodeLossy outcome.output))
      else
        pure (.error (.failed compilerName outcome.ending.text
          (Text.trimString (Text.decodeLossy outcome.error))))

/-! ### Projects -/

/-- Searches the source directory. -/
def searchTree (root : String) (s : SearchSettings) : Searcher OnTree := fun r => do
  pure ((← get).search root (Path.join root s.sourceDir) s.maxResults r)

/-- Reads a file. -/
def readFile : FileReader OnTree := fun p => do
  pure (((← get).readText p).mapError FileError.message)

/-- The sources of a project at an absolute path. -/
def sources (root : String) (s : Settings) : Sources OnTree where
  search := searchTree root s.search
  graph := askGraph root s.graph.tool
  compile := compileSchema root s.graph.tool s.schema
  read := readFile

/-- The project at an absolute path with given settings. -/
def project (root : String) (s : Settings) : Project OnTree := ⟨root, s, sources root s⟩

/-- Opens the project at an absolute path. -/
def openAt (t : Tree) (path : String) : Except OpenError (Project OnTree) :=
  match t.canonical path with
  | .error _ => .error (.notFound path)
  | .ok root =>
    match loadSettings t root with
    | .error e => .error (.settings e)
    | .ok s => .ok (project root s)

/-- Opens the project at an absolute path; settings that cannot be loaded give way to the default
ones, and the reason is told. -/
def openAnyway (t : Tree) (path : String) :
    Except FileError (Project OnTree × Option SettingsError) := do
  let root ← t.canonical path
  match loadSettings t root with
  | .error e => .ok (project root {}, some e)
  | .ok s => .ok (project root s, none)

end Checkout

end DeclAtlas
