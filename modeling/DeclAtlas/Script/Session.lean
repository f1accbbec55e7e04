import DeclAtlas.Script.Syntax
import DeclAtlas.Tree.Basic

/-!
# Running scripts: the state

A run of a script changes a directory tree and writes to its descriptors.  What has been written is
part of the state: for standard output and standard error, and for the command substitution that is
being carried out.  A run ends when its commands end, or early: by an exit, by a signal, or because
the bound on its steps is reached.
-/

namespace DeclAtlas.Script

/-- Where a descriptor leads. -/
inductive Sink where
  | output
  | error
  /-- The command substitution that is being carried out. -/
  | capture
  /-- Nowhere. -/
  | discard
  /-- The end of a file. -/
  | file (names : List String)
  deriving Repr, DecidableEq

/-- Why the commands that follow are not run. -/
inductive Halt where
  /-- The script has ended itself. -/
  | exit (status : Nat)
  | signal (number : Nat)
  /-- The bound on the steps is reached. -/
  | exhausted
  /-- A loop is left, or begun again, `levels` loops further out. -/
  | leave (again : Bool) (levels : Nat)
  /-- A function has ended itself. -/
  | finish (status : Nat)
  deriving Repr, DecidableEq

/-- The state of a run. -/
structure Session where
  tree : Tree
  /-- The working directory, as an absolute path. -/
  directory : String
  name : String
  params : List String
  /-- The values of the variables. -/
  bindings : List (String × String) := []
  functions : List (String × Command) := []
  /-- The status of the last command. -/
  status : Nat := 0
  /-- The line of the command that is being carried out. -/
  line : Nat := 1
  /-- The input that is not yet read. -/
  input : Bytes := []
  descriptors : List (Nat × Sink) := [(1, .output), (2, .error)]
  /-- What has been written to standard output. -/
  output : Bytes := []
  /-- What has been written to standard error. -/
  error : Bytes := []
  /-- What the command substitution has written. -/
  captured : Bytes := []

/-- A part of a run. -/
abbrev Action := ExceptT Halt (StateM Session)

namespace Session

/-- A path as seen from the working directory. -/
def absolute (s : Session) (p : String) : String := if p.isEmpty then "" else Path.join s.directory p

/-- The bytes of a file. -/
def readBytes (s : Session) (p : String) : Except FileError Bytes :=
  s.tree.readBytes (s.absolute p)

/-- The value of a variable. -/
def valueOf? (s : Session) (name : String) : Option String := s.bindings.lookup name

/-- Sets a variable. -/
def assign (s : Session) (name value : String) : Session :=
  { s with bindings := (name, value) :: s.bindings.filter (·.1 != name) }

/-- Writes to a descriptor. -/
def write (s : Session) (descriptor : Nat) (bs : Bytes) : Session :=
  match s.descriptors.lookup descriptor with
  | some .output => { s with output := s.output ++ bs }
  | some .error => { s with error := s.error ++ bs }
  | some .capture => { s with captured := s.captured ++ bs }
  | some (.file names) =>
    match s.tree.at? names with
    | some (.file content) => { s with tree := s.tree.put names (.file (content ++ bs)) }
    | _ => s
  | some .discard => s
  | none => s

/-- Makes a descriptor lead elsewhere. -/
def redirect (s : Session) (descriptor : Nat) (sink : Sink) : Session :=
  { s with descriptors := (descriptor, sink) :: s.descriptors.filter (·.1 != descriptor) }

/-- The session after a part of the run whose variables are its own: what it has written and done
to the tree stays, the rest is as before. -/
def rejoin (before after : Session) : Session :=
  { before with
    tree := after.tree
    input := after.input
    output := after.output
    error := after.error
    captured := after.captured
    status := after.status }

end Session

/-- Writes text to a descriptor. -/
def emit (descriptor : Nat) (s : String) : Action Unit :=
  modify (·.write descriptor (Text.encodeString s))

/-- Writes a line to a descriptor. -/
def emitLine (descriptor : Nat) (s : String) : Action Unit := emit descriptor (s ++ "\n")

/-- Reports a failure of a utility, which then has status `status`. -/
def complain (message : String) (status : Nat) : Action Nat := do
  emitLine 2 message
  pure status

/-- Reports a failure of the script itself, with its name and the line it has come to. -/
def complainHere (message : String) (status : Nat) : Action Nat := do
  let s ← get
  complain (s.name ++ ": " ++ toString s.line ++ ": " ++ message) status

/-- Reports a failure that ends the script. -/
def giveUp {α : Type} (message : String) : Action α := do
  throw (.exit (← complainHere message 2))

end DeclAtlas.Script
