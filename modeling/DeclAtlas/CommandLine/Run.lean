import DeclAtlas.Checkout
import DeclAtlas.CommandLine.Invocation
import DeclAtlas.Query
import DeclAtlas.Service.Session

/-!
# Running the program

An invocation is carried out in a working directory of a tree.  It ends with a status, 0 or 1, and
leaves a text on standard output and one on standard error.  Paths on the command line are relative
to the working directory, those of schema files to the project root.
-/

namespace DeclAtlas.CommandLine

/-- What a run of the program leaves. -/
structure Result where
  status : Nat
  /-- What is written to standard output. -/
  output : String := ""
  /-- What is written to standard error. -/
  error : String := ""
  deriving Repr, DecidableEq

namespace Result

/-- The result of a run that fails with a message. -/
def failure (message : String) : Result := ⟨1, "", "error: " ++ message ++ "\n"⟩

/-- The result of a run that has done what it says. -/
def success (message : String) : Result := ⟨0, "✓ " ++ message ++ "\n", ""⟩

/-- The result of a run after some words on standard error. -/
def preceded (words : String) (r : Result) : Result := { r with error := words ++ r.error }

end Result

/-- A path of the command line as seen from the working directory. -/
def locate (directory path : String) : String :=
  if path.isEmpty then path else Path.join directory path

/-- The words that follow a settings file that has been made. -/
def settingsHint : String :=
  "hint: Every key is optional; edit only the values that differ in your checkout.\n"

/-- Makes a settings file that holds the default settings; one that is there is kept. -/
def makeSettings (directory root : String) : OnTree Result := do
  let path := Path.join root Settings.fileName
  let place := locate directory path
  if (← get).hasPath place then
    pure (.failure (Settings.fileName ++ " already exists at " ++ path))
  else match (← get).write place (Text.encodeString Settings.template) with
    | .error e => pure (.failure ("Failed to write config file: " ++ e.message))
    | .ok t =>
      set t
      pure (.preceded settingsHint (.success ("Created " ++ Settings.fileName ++ " at " ++ path)))

/-- Writes a report to the file asked for, or to standard output. -/
def deliver (directory : String) (output : Option String) (text : String) : OnTree Result := do
  match output with
  | none => pure ⟨0, text, ""⟩
  | some path =>
    match (← get).write (locate directory path) (Text.encodeString text) with
    | .error e => pure (.failure ("Could not write output file: " ++ e.message))
    | .ok t =>
      set t
      pure (.success ("Wrote " ++ path))

/-- The query of a command; the schema file is below `root`. -/
def Command.query? (root : String) : Command → Option Query
  | .interface typeName => some (.interface typeName)
  | .ordinal file record => some (.ordinal (Path.join root file) record)
  | .deps target direction depth => some (.dependencies target direction depth)
  | .compat date flag => some (.compat date flag)
  | .xref symbol => some (.crossReference symbol)
  | .init => none
  | .mcp => none

/-- A schema file that a query is about and that is not there. -/
def absentFile? (t : Tree) : Query → Option String
  | .ordinal file _ => if t.hasPath file then none else some file
  | _ => none

/-- Asks a project and delivers the report. -/
def ask (directory : String) (i : Invocation) (p : Project OnTree) (q : Query) :
    OnTree Result := do
  match absentFile? (← get) q with
  | some file => pure (.failure ("Schema file not found: " ++ file))
  | none =>
    match ← p.answer q with
    | .error e => pure (.failure e.message)
    | .ok r => deliver directory i.output (r.render i.format)

/-- Serves the messages on standard input. -/
def serve (p : Project OnTree) (input : List String) : OnTree Result := do
  let (stage, replies) ← Service.converse p .opening input
  pure ⟨stage.status, String.join (replies.map (· ++ "\n")), ""⟩

/-- The words on settings that give way to the default ones. -/
def settingsWarning (e : SettingsError) : String :=
  "warning: Failed to load config: " ++ e.message ++ ". Using defaults.\n"

/-- Carries out an invocation in a directory, with lines on standard input. -/
def run (directory : String) (input : List String) (i : Invocation) : OnTree Result := do
  if i.command = .init then makeSettings directory i.root
  else match Checkout.openAnyway (← get) (locate directory i.root) with
    | .error _ => pure (.failure ("Could not resolve path: " ++ i.root))
    | .ok (p, e?) =>
      let r ← match i.command.query? p.root with
        | some q => ask directory i p q
        | none => serve p input
      pure (match e? with
        | some e => .preceded (settingsWarning e) r
        | none => r)

end DeclAtlas.CommandLine
