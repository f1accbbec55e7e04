import DeclAtlas.CommandLine.Help
import DeclAtlas.CommandLine.Run
import DeclAtlas.Tree.Change

/-!
# The program

The outer layer: it reads the directories an invocation is about into a tree, has the invocation
carried out on it, and writes the changes back to the disk.  Symbolic links are not followed below
the project root.
-/

namespace DeclAtlas.Program

/-- The names that a path leads through, two dots taken back. -/
def namesOf (path : String) : List String :=
  (Path.components path).foldl (fun ns c => match c with
    | .entry n => ns ++ [n]
    | .up => ns.dropLast
    | _ => ns) []

/-- The bytes of a file on the disk. -/
def readBytes (path : String) : IO Bytes := do
  return (← IO.FS.readBinFile path).toList

/-- The names of rule files, which count for the directories below them. -/
def ruleFileNames : List String := [".gitignore", ".ignore"]

/-- Reads a directory without what its directories hold; of its files only the rules are read. -/
def readShallow (path : String) : IO Tree := do
  let mut t := Tree.empty
  for e in ← ((← IO.currentDir) / path).readDir do
    match (← e.path.symlinkMetadata).type with
    | .dir => t := t.put [e.fileName] Tree.empty
    | .file =>
      let content ←
        if ruleFileNames.contains e.fileName then readBytes e.path.toString else pure []
      t := t.put [e.fileName] (.file content)
    | _ => pure ()
  return t

/-- Reads a directory with everything below it. -/
partial def readDeep (path : String) : IO Tree := do
  let mut t := Tree.empty
  for e in ← ((← IO.currentDir) / path).readDir do
    match (← e.path.symlinkMetadata).type with
    | .dir => t := t.put [e.fileName] (← readDeep e.path.toString)
    | .file => t := t.put [e.fileName] (.file (← readBytes e.path.toString))
    | _ => pure ()
  return t

/-- Adds the directories that `names` lead through to a tree, as far as they are on the disk. -/
def addPath (t : Tree) (names : List String) : IO Tree := do
  let mut t := t
  for n in [1:names.length + 1] do
    let ns := names.take n
    let path := Tree.pathOf ns
    if (t.at? ns).all fun s => s.entries.isEmpty then
      if ← ((← IO.currentDir) / path).isDir then t := t.put ns (← readShallow path)
  return t

/-- The tree that an invocation works on: the programs, the way to the working directory and to the
output file, and the project. -/
def readAround (directory : String) (i : CommandLine.Invocation) : IO Tree := do
  let root := namesOf (Path.join directory i.root)
  let mut t ← addPath Script.programTree (namesOf directory)
  t ← addPath t root
  if let some output := i.output then
    t ← addPath t (namesOf (Path.join directory output)).dropLast
  if ← ((← IO.currentDir) / Tree.pathOf root).isDir then
    t := t.put root (← readDeep (Tree.pathOf root))
  return t

/-- Carries a change out on the disk. -/
def apply : TreeChange → IO Unit
  | .remove names => do
    let path := (← IO.currentDir) / Tree.pathOf names
    if ← path.isDir then IO.FS.removeDirAll path else IO.FS.removeFile path
  | .makeDirectory names => IO.FS.createDirAll (Tree.pathOf names)
  | .write names content => IO.FS.writeBinFile (Tree.pathOf names) ⟨content.toArray⟩

/-- Carries out what turns one tree into another. -/
def writeBack (before after : Tree) : IO Unit :=
  (Tree.changes [] before after).forM apply

/-- Serves a session on standard input and output. -/
partial def serve (p : Project OnTree) (stage : Service.Stage) (t : Tree) : IO UInt32 := do
  if stage = .broken then return UInt32.ofNat stage.status
  let line ← (← IO.getStdin).getLine
  if line.isEmpty then return UInt32.ofNat stage.status
  let ((next, reply), after) := (Service.takeLine p stage line).run t
  writeBack t after
  if let some reply := reply then
    IO.println reply
    (← IO.getStdout).flush
  serve p next after

/-- Carries an invocation out in the working directory. -/
def run (i : CommandLine.Invocation) : IO UInt32 := do
  let directory := (← IO.currentDir).toString
  let before ← readAround directory i
  match i.command, Checkout.openAnyway before (CommandLine.locate directory i.root) with
  | .mcp, .ok (p, e?) =>
    if let some e := e? then IO.eprint (CommandLine.settingsWarning e)
    serve p .opening before
  | _, _ =>
    let (r, after) := (CommandLine.run directory [] i).run before
    writeBack before after
    IO.print r.output
    IO.eprint r.error
    return UInt32.ofNat r.status

end DeclAtlas.Program

/-- Runs the program on its arguments. -/
def main (args : List String) : IO UInt32 := do
  match DeclAtlas.CommandLine.parse args with
  | .error e =>
    IO.print e.output
    IO.eprint e.complaint
    return UInt32.ofNat e.exitCode
  | .ok i => DeclAtlas.Program.run i
