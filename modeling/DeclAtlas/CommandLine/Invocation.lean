import DeclAtlas.CommandLine.Arguments
import DeclAtlas.Dependency.Report
import DeclAtlas.Report

/-!
# Invocations of the program

The commands of the program with their arguments.  Root, format, output and verbosity can be given
before the command and after it; what stands after the command counts.
-/

namespace DeclAtlas.CommandLine

/-- A command with its arguments. -/
inductive Command where
  | interface (typeName : String)
  | ordinal (file : String) (record : Option String)
  | deps (target : String) (direction : Direction) (depth : Nat)
  | compat (date flag : Option String)
  | xref (symbol : String)
  | init
  | mcp
  deriving Repr, DecidableEq

/-- An invocation of the program. -/
structure Invocation where
  command : Command
  root : String
  /-- How the report is written. -/
  format : Format
  /-- The file that the report is written to. -/
  output : Option String
  /-- Whether the tools that are run are logged. -/
  verbose : Bool
  deriving Repr, DecidableEq

/-- The words for formats. -/
def formatWords : List String := ["markdown", "json"]

/-- The format of a word. -/
def formatOf (word : String) : Format := if word = "json" then .json else .markdown

/-- The words for directions. -/
def directionWords : List String := ["rdeps", "deps"]

/-- The direction of a word. -/
def directionOf (word : String) : Direction := if word = "deps" then .forward else .reverse

/-- The options of every level. -/
def sharedOptions : List OptionSpec :=
  [⟨"root", none, .value .path⟩, ⟨"format", some 'f', .value (.choice formatWords)⟩,
   ⟨"output", some 'o', .value .path⟩, ⟨"verbose", some 'v', .switch⟩, ⟨"help", some 'h', .help⟩]

/-- The commands with their own options and positional arguments. -/
def commandLevels : List (String × Level) :=
  let level := fun (own : List OptionSpec) (positionals : List Positional) =>
    (⟨own ++ sharedOptions, positionals, []⟩ : Level)
  [("interface", level [] [⟨"type_name", .text, true⟩]),
   ("ordinal", level [] [⟨"file", .path, true⟩, ⟨"record", .text, false⟩]),
   ("deps", level [⟨"direction", none, .value (.choice directionWords)⟩,
      ⟨"depth", none, .value .count⟩] [⟨"target", .text, true⟩]),
   ("compat", level [⟨"date", none, .value .text⟩, ⟨"flag", none, .value .text⟩] []),
   ("xref", level [] [⟨"symbol", .text, true⟩]),
   ("init", level [] []),
   ("mcp", level [] [])]

/-- The level before the command. -/
def rootLevel : Level where
  options := sharedOptions ++ [⟨"version", some 'V', .version⟩]
  positionals := []
  subcommands := commandLevels.map Prod.fst ++ ["help"]

/-- The outcome of asking for help on commands. -/
def helpOn (topics : List String) : UsageError :=
  match topics with
  | [] => .displayHelp
  | [topic] => if rootLevel.subcommands.contains topic then .displayHelp else .invalidSubcommand
  | _ => .invalidSubcommand

/-- The command of a name with the values given for it. -/
def commandOf (name : String) (g : Given) : Command :=
  match name with
  | "interface" => .interface ((g.get? "type_name").getD "")
  | "ordinal" => .ordinal ((g.get? "file").getD "") (g.get? "record")
  | "deps" =>
    .deps ((g.get? "target").getD "") (directionOf ((g.get? "direction").getD "rdeps"))
      ((count? ((g.get? "depth").getD "1")).getD 1)
  | "compat" => .compat (g.get? "date") (g.get? "flag")
  | "xref" => .xref ((g.get? "symbol").getD "")
  | "init" => .init
  | _ => .mcp

/-- The invocation of a command with the values given after and before its name. -/
def invocationOf (name : String) (after before : Given) : Invocation :=
  let value? := fun key => (after.get? key).or (before.get? key)
  { command := commandOf name after
    root := (value? "root").getD "."
    format := formatOf ((value? "format").getD "markdown")
    output := value? "output"
    verbose := (value? "verbose").isSome }

/-- The invocation that the arguments after the program's name make. -/
def parse (args : List String) : Except UsageError Invocation := do
  let (s, rest) ← rootLevel.scan rootLevel.start args
  match rest with
  | none =>
    let s ← s.settle
    .error (if s.given.isEmpty then .nothingGiven else .missingSubcommand)
  | some (name, args) =>
    match commandLevels.lookup name with
    | none => .error (helpOn args)
    | some level =>
      let after ← level.read args
      let s ← s.settle
      .ok (invocationOf name after s.given)

end DeclAtlas.CommandLine
