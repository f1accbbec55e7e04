import DeclAtlas.Script.Run

/-!
# Tools

A tool is a program that is run with arguments in a directory.  It can change the tree, and it ends
with a status or by a signal.  A tool that cannot be started has no outcome at all.
-/

namespace DeclAtlas

open Script

/-- How a tool has ended. -/
inductive Ending where
  /-- By itself. -/
  | status (n : Nat)
  /-- By a signal. -/
  | signal (n : Nat)
  deriving Repr, DecidableEq

namespace Ending

/-- Whether a tool has ended well. -/
def isSuccess : Ending → Bool
  | .status n => n == 0
  | .signal _ => false

/-- The name of a signal between parentheses, after a blank; nothing if it has none. -/
def signalName (n : Nat) : String :=
  match signals.find? (·.2 == n) with
  | some (name, _) => " (SIG" ++ name ++ ")"
  | none => ""

/-- The words for the end of a tool. -/
def text : Ending → String
  | .status n => "exit status: " ++ toString n
  | .signal n => "signal: " ++ toString n ++ signalName n

end Ending

/-- What a tool has done. -/
structure Outcome where
  ending : Ending
  /-- What it has written to standard output. -/
  output : Bytes
  /-- What it has written to standard error. -/
  error : Bytes
  deriving Repr, DecidableEq

namespace Tool

/-- The bound on the nesting of steps of a script. -/
def stepLimit : Nat := 20000

/-- How a run has ended. -/
def endingOf : Except Halt Nat → Ending
  | .ok n => .status (n % 256)
  | .error (.exit n) => .status (n % 256)
  | .error (.finish n) => .status (n % 256)
  | .error (.leave _ _) => .status 0
  | .error (.signal n) => .signal n
  | .error .exhausted => .signal 9

/-- Carries a program out. -/
def perform (program tool : String) (args : List String) : Action Nat :=
  match utilities.lookup program with
  | some u => u args
  | none => runShell stepLimit tool args

/-- Whether a tool can get a text as an argument. -/
def isPassable (s : String) : Bool := !s.toList.contains '\x00'

/-- Runs a tool in a directory. -/
def run (t : Tree) (directory tool : String) (args : List String) :
    Except FileError (Outcome × Tree) := do
  if !((tool :: args).all isPassable) then .error .denied
  else if !(← t.find directory).isDirectory then .error .notDirectory
  else
    let start : Session := { tree := t, directory := directory, name := tool, params := args }
    let program ← program? start tool
    let (result, final) := ((perform program tool args).run).run start
    .ok (⟨endingOf result, final.output, final.error⟩, final.tree)

end Tool

end DeclAtlas
