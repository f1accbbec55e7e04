import DeclAtlas.Script.Condition
import DeclAtlas.Script.Printing

/-!
# Utilities for scripts

The programs that scripts use: they print, look at files and change them.  A utility gets its
arguments and returns its status, 0 for success; what it says about a failure goes to standard
error.
-/

namespace DeclAtlas.Script

/-- A utility. -/
abbrev Utility := List String → Action Nat

/-- The options and the operands among some arguments. -/
def splitOptions (args : List String) : List String × List String :=
  args.partition fun a => Text.startsWith ['-'] a.toList && a != "-"

/-- Whether an option letter is among some options. -/
def hasOption (c : Char) (options : List String) : Bool := options.any fun o => o.toList.contains c

/-- Carries a utility out on every operand; one failure makes it fail. -/
def onEach (f : String → Action Nat) : List String → Action Nat
  | [] => pure 0
  | a :: as => do
    let first ← f a
    let rest ← onEach f as
    pure (if first = 0 then rest else first)

/-- Says why an operand cannot be used. -/
def complainAbout (utility operand : String) (e : FileError) : Action Nat :=
  complain (utility ++ ": " ++ operand ++ ": " ++ e.reason) 1

/-- Writes the input that is not yet read. -/
def copyInput : Action Nat := do
  let s ← get
  set ({ s with input := [] }.write 1 s.input)
  pure 0

/-- Writes files to standard output. -/
def cat : Utility := fun args => do
  let (options, operands) := splitOptions args
  match options with
  | o :: _ => complain ("cat: unrecognized option '" ++ o ++ "'") 1
  | [] =>
    if operands.isEmpty then copyInput
    else onEach (fun p => do
      if p = "-" then copyInput
      else
        let s ← get
        match s.readBytes p with
        | .ok bs =>
          set (s.write 1 bs)
          pure 0
        | .error e => complainAbout "cat" p e) operands

/-- Creates files that are not there. -/
def touch : Utility := fun args => do
  let (_, operands) := splitOptions args
  onEach (fun p => do
    let s ← get
    if s.tree.hasPath (s.absolute p) then pure 0
    else match s.tree.write (s.absolute p) [] with
      | .ok t =>
        set { s with tree := t }
        pure 0
      | .error e => complain ("touch: cannot touch '" ++ p ++ "': " ++ e.reason) 1) operands

/-- Creates directories, with `-p` also those above them. -/
def mkdir : Utility := fun args => do
  let (options, operands) := splitOptions args
  let parents := hasOption 'p' options
  onEach (fun p => do
    let s ← get
    let path := s.absolute p
    match s.tree.find path with
    | .ok t =>
      if parents && t.isDirectory then pure 0
      else complain ("mkdir: cannot create directory '" ++ p ++ "': File exists") 1
    | .error _ =>
      let names := (Path.components path).filterMap fun c => match c with
        | .entry n => some n
        | _ => none
      if parents || (s.tree.at? names.dropLast).any Tree.isDirectory then
        set { s with tree := s.tree.put names Tree.empty }
        pure 0
      else
        complain ("mkdir: cannot create directory '" ++ p ++ "': No such file or directory") 1)
    operands

/-- Removes files, with `-r` also directories. -/
def remove : Utility := fun args => do
  let (options, operands) := splitOptions args
  onEach (fun p => do
    let s ← get
    match s.tree.resolve (s.absolute p) with
    | .error e =>
      if hasOption 'f' options then pure 0
      else complain ("rm: cannot remove '" ++ p ++ "': " ++ e.reason) 1
    | .ok names =>
      if (s.tree.at? names).any Tree.isDirectory && !hasOption 'r' options then
        complain ("rm: cannot remove '" ++ p ++ "': Is a directory") 1
      else
        set { s with tree := s.tree.erase names }
        pure 0) operands

/-- The names under which an entry is copied to a path: within it, if it is a directory. -/
def copyTarget (s : Session) (source target : String) : Except FileError (List String) := do
  let path := s.absolute target
  match s.tree.find path with
  | .ok (.directory _) =>
    match Path.fileName? source with
    | some n => .ok ((← s.tree.resolve path) ++ [n])
    | none => .error .isDirectory
  | _ => s.tree.target path

/-- Copies an entry, and with `move` removes the old one. -/
def copy (utility : String) (move : Bool) : Utility := fun args => do
  let (_, operands) := splitOptions args
  match operands with
  | [source, target] =>
    let s ← get
    match s.tree.resolve (s.absolute source), copyTarget s source target with
    | .ok old, .ok new =>
      match s.tree.at? old with
      | some t =>
        let tree := if move then s.tree.erase old else s.tree
        set { s with tree := tree.put new t }
        pure 0
      | none => complainAbout utility source .notFound
    | .error e, _ => complain (utility ++ ": cannot stat '" ++ source ++ "': " ++ e.reason) 1
    | _, .error e =>
      complain (utility ++ ": cannot create regular file '" ++ target ++ "': " ++ e.reason) 1
  | _ => complain (utility ++ ": missing file operand") 1

/-- Prints the last component of a path, without an ending if one is given. -/
def basename : Utility := fun args => do
  match args with
  | [] => complain "basename: missing operand" 1
  | p :: rest =>
    let name := (Path.fileName? p).getD "/"
    let name := match rest with
      | ending :: _ =>
        ((Text.dropEnd? ending.toList name.toList).filter (!·.isEmpty)).map String.ofList |>.getD name
      | [] => name
    emitLine 1 name
    pure 0

/-- Prints a path without its last component. -/
def dirname : Utility := fun args => do
  match args with
  | [] => complain "dirname: missing operand" 1
  | p :: _ =>
    let parent := (Path.parent? p).getD (if Path.isAbsolute p then "/" else ".")
    emitLine 1 (if parent.isEmpty then "." else parent)
    pure 0

/-- Writes bytes to standard output. -/
def printBytes (bs : Bytes) : Action Nat := do
  modify (·.write 1 bs)
  pure 0

/-- Prints by a format. -/
def printf : Utility := fun args =>
  match args with
  | [] => complain "printf: usage: printf format [arg ...]" 2
  | format :: rest => printBytes (printFormat format rest)

/-- Tests a condition that a closing bracket ends. -/
def bracket : Utility := fun args => do
  match args.getLast? with
  | some "]" => pure (testStatus (← get) args.dropLast)
  | _ => complain "[: missing ]" 2

/-- The utilities that are programs of their own, and their names. -/
def utilities : List (String × Utility) :=
  [("true", fun _ => pure 0), ("false", fun _ => pure 1),
   ("echo", fun args => printBytes (echoPlainly args)), ("printf", printf), ("cat", cat),
   ("test", fun args => do pure (testStatus (← get) args)), ("[", bracket), ("touch", touch),
   ("mkdir", mkdir), ("rm", remove), ("cp", copy "cp" false), ("mv", copy "mv" true),
   ("basename", basename), ("dirname", dirname), ("chmod", fun _ => pure 0),
   ("sleep", fun _ => pure 0),
   ("pwd", fun _ => do
      emitLine 1 (← get).directory
      pure 0)]

/-- The names under which scripts are run. -/
def shellNames : List String := ["sh", "dash", "bash"]

/-- The directories that programs without a slash in their names are looked for in. -/
def programDirectories : List (List String) := [["bin"], ["usr", "bin"]]

/-- A tree with all programs in place. -/
def programTree : Tree :=
  let names := utilities.map Prod.fst ++ shellNames
  programDirectories.foldl (fun t dir =>
    names.foldl (fun t n => t.put (dir ++ [n]) (.program n)) t) Tree.empty

end DeclAtlas.Script
