/-!
# Shell scripts

A tool of a checkout may be a shell script.  A script is a command, and a command is built from
simple commands: words, with assignments before them.  A word consists of pieces, since quoting and
expansion concern parts of it; what a piece stands for is found out when the command runs.
-/

namespace DeclAtlas.Script

/-- A piece of a word. -/
inductive Piece where
  /-- Text as it stands. -/
  | text (s : List Char) (quoted : Bool)
  /-- The value of a parameter; `change` with `arg` says what is done with it. -/
  | param (name : String) (change : String) (arg : List Piece) (quoted : Bool)
  | output (script : List Char) (quoted : Bool)
  deriving Repr

/-- A word. -/
abbrev Word := List Piece

/-- What a redirection does. -/
inductive RedirectionKind where
  /-- Reads from a file. -/
  | input
  /-- Writes to a file. -/
  | output
  /-- Writes to the end of a file. -/
  | append
  /-- Stands for another descriptor. -/
  | duplicate
  deriving Repr, DecidableEq

/-- A redirection of a descriptor. -/
structure Redirection where
  descriptor : Nat
  /-- What it does. -/
  kind : RedirectionKind
  /-- The file or the other descriptor. -/
  target : Word
  deriving Repr

/-- A command. -/
inductive Command where
  | nothing
  /-- Assignments and words, and the line they stand on. -/
  | simple (line : Nat) (assignments : List (String × Word)) (words : List Word)
  | redirected (c : Command) (rs : List Redirection)
  /-- The second command reads what the first one writes. -/
  | pipe (c d : Command)
  /-- Turns success into failure. -/
  | negated (c : Command)
  | sequence (c d : Command)
  /-- The second command only if the first one succeeds. -/
  | both (c d : Command)
  /-- The second command only if the first one fails. -/
  | either (c d : Command)
  /-- One of two commands, as a test decides. -/
  | conditional (test yes no : Command)
  /-- A command for every item, or for every parameter. -/
  | each (name : String) (items : Option (List Word)) (body : Command)
  /-- A command as long as a test succeeds, or fails. -/
  | loop (while_ : Bool) (test body : Command)
  /-- The command of the first arm with a matching pattern. -/
  | select (subject : Word) (arms : List (List Word × Command))
  /-- A command whose variables are its own. -/
  | separate (c : Command)
  /-- The definition of a function. -/
  | define (name : String) (body : Command)
  deriving Repr

/-- The line of a command without parts, with or without redirections. -/
def Command.line? : Command → Option Nat
  | .simple line _ _ => some line
  | .redirected c _ => c.line?
  | _ => none

end DeclAtlas.Script
