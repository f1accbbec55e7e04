import DeclAtlas.Text.CharClass
import DeclAtlas.Text.Find

/-!
# Arguments of a command line

One level of a command line has options, positional arguments and perhaps subcommands, after the
name of which the next level begins.  `Level.scan` reads the arguments of a level from left to
right.  The value of an option is kept pending until the next option or positional argument comes,
and is checked only then; a value attached to its option is checked at once.  So of two mistakes
the one that is settled first is reported.
-/

namespace DeclAtlas.CommandLine

open Text

/-- Why arguments do not make a command.  Two of the causes are requests for information. -/
inductive UsageError where
  | displayHelp
  | displayVersion
  /-- Nothing but the name of the program was given. -/
  | nothingGiven
  | missingSubcommand
  | invalidSubcommand
  | unknownArgument
  | missingRequiredArgument
  /-- A value is missing or is none of those allowed. -/
  | invalidValue
  | unreadableValue
  /-- An option that counts once is given again. -/
  | repeatedArgument
  | unneededValue
  deriving Repr, DecidableEq

/-- The exit code of the program for arguments that make no command. -/
def UsageError.exitCode : UsageError → Nat
  | .displayHelp => 0
  | .displayVersion => 0
  | _ => 2

/-- What values an argument takes. -/
inductive ValueKind where
  /-- Any text. -/
  | text
  /-- A path, which must not be empty. -/
  | path
  | choice (words : List String)
  /-- A number of at most 32 bits. -/
  | count
  deriving Repr, DecidableEq

/-- The exclusive bound of counts. -/
def countBound : Nat := 4294967296

/-- The number that a text writes, after a sign or none; after a minus sign it can only be zero. -/
def count? (s : String) : Option Nat :=
  match s.toList with
  | '+' :: r => asciiNatBelow? countBound r
  | '-' :: r => asciiNatBelow? 1 r
  | r => asciiNatBelow? countBound r

/-- Refuses values that are not of a kind. -/
def ValueKind.check (k : ValueKind) (v : String) : Except UsageError Unit :=
  match k with
  | .text => .ok ()
  | .path => if v.isEmpty then .error .invalidValue else .ok ()
  | .choice words => if words.contains v then .ok () else .error .invalidValue
  | .count => if (count? v).isSome then .ok () else .error .unreadableValue

/-- What an option does. -/
inductive OptionKind where
  | switch
  | value (kind : ValueKind)
  | help
  | version
  deriving Repr, DecidableEq

/-- An option. -/
structure OptionSpec where
  /-- Its name after two hyphens. -/
  name : String
  /-- Its letter after one hyphen. -/
  short : Option Char
  /-- What it does. -/
  kind : OptionKind
  deriving Repr, DecidableEq

/-- A positional argument. -/
structure Positional where
  name : String
  kind : ValueKind
  required : Bool
  deriving Repr, DecidableEq

/-- One level of a command line. -/
structure Level where
  options : List OptionSpec
  /-- Its positional arguments, in order. -/
  positionals : List Positional
  subcommands : List String
  deriving Repr, DecidableEq

/-- The values given for arguments, in the order in which they were settled. -/
abbrev Given := List (String × String)

/-- The value given for an argument. -/
def Given.get? (g : Given) (name : String) : Option String :=
  (g.find? (·.1 == name)).map Prod.snd

/-- An argument whose values have not been settled. -/
structure Pending where
  name : String
  kind : ValueKind
  /-- The value, if it has come already. -/
  value : Option String
  deriving Repr, DecidableEq

/-- How far the arguments of a level have been read. -/
structure Scan where
  /-- The values that are settled. -/
  given : Given
  /-- The argument that is not. -/
  pending : Option Pending
  /-- Whether the next argument is the value of an option. -/
  awaiting : Bool
  /-- The positional arguments still to come. -/
  positionals : List Positional
  /-- Whether two hyphens have ended the options. -/
  trailing : Bool
  deriving Repr, DecidableEq

namespace Scan

/-- Settles a value of an argument. -/
def give (s : Scan) (name : String) (kind : ValueKind) (value : String) : Except UsageError Scan :=
  if (s.given.get? name).isSome then .error .repeatedArgument
  else (kind.check value).map fun _ => { s with given := s.given ++ [(name, value)] }

/-- Settles the pending argument. -/
def settle (s : Scan) : Except UsageError Scan :=
  match s.pending with
  | none => .ok s
  | some p =>
    match p.value with
    | none => .error .invalidValue
    | some v => ({ s with pending := none }).give p.name p.kind v

/-- Takes an option that has no value attached. -/
def takeOption (s : Scan) (o : OptionSpec) : Except UsageError Scan := do
  let s ← s.settle
  match o.kind with
  | .help => .error .displayHelp
  | .version => .error .displayVersion
  | .switch => ({ s with awaiting := false }).give o.name .text "true"
  | .value kind => .ok { s with pending := some ⟨o.name, kind, none⟩, awaiting := true }

/-- Takes an option with the value attached to it. -/
def takeAttached (s : Scan) (o : OptionSpec) (value : String) : Except UsageError Scan :=
  match o.kind with
  | .value kind => do
    let s ← s.settle
    ({ s with awaiting := false }).give o.name kind value
  | _ => .error .unneededValue

/-- Takes an option by its name, without the two hyphens. -/
def takeLong (s : Scan) (options : List OptionSpec) (arg : List Char) : Except UsageError Scan :=
  let (name, value) := match cut? ['='] arg with
    | some (n, v) => (n, some v)
    | none => (arg, none)
  match options.find? (·.name.toList == name) with
  | none => .error .unknownArgument
  | some o =>
    match value with
    | some v => s.takeAttached o (String.ofList v)
    | none => s.takeOption o

/-- The value attached to a letter; an equals sign before it does not belong to it. -/
def attachedValue : List Char → List Char
  | '=' :: r => r
  | r => r

/-- Takes options by their letters, without the hyphen. -/
def takeShorts (s : Scan) (options : List OptionSpec) : List Char → Except UsageError Scan
  | [] => .ok s
  | c :: r =>
    match options.find? (·.short == some c) with
    | none => .error .unknownArgument
    | some o =>
      match o.kind with
      | .value _ =>
        if r.isEmpty then s.takeOption o
        else s.takeAttached o (String.ofList (attachedValue r))
      | _ => do takeShorts (← s.takeOption o) options r

/-- Takes the value that an option awaits. -/
def takeValue (s : Scan) (value : String) : Scan :=
  { s with
    pending := s.pending.map fun p => { p with value := some value }
    awaiting := false }

/-- Takes a positional argument of a level; one too many is refused whatever is pending. -/
def takePositional (s : Scan) (l : Level) (value : String) : Except UsageError Scan :=
  match s.positionals with
  | p :: ps => do
    let t ← s.settle
    .ok { t with
      pending := some ⟨p.name, p.kind, some value⟩, positionals := ps, awaiting := false }
  | [] =>
    if l.subcommands.isEmpty || (s.trailing && l.subcommands.contains value) then
      .error .unknownArgument
    else .error .invalidSubcommand

end Scan

/-- What remains of the arguments after a level: nothing, or a subcommand with its arguments. -/
abbrev Rest := Option (String × List String)

/-- Whether an argument is read as options: not a single hyphen. -/
inductive Spelling where
  | long (text : List Char)
  | shorts (letters : List Char)
  | escape
  | plain

/-- How an argument is spelled. -/
def spelling (arg : String) : Spelling :=
  match arg.toList with
  | ['-', '-'] => .escape
  | '-' :: '-' :: r => .long r
  | '-' :: c :: r => .shorts (c :: r)
  | _ => .plain

namespace Level

/-- Reads the arguments of a level. -/
def scan (l : Level) (s : Scan) : List String → Except UsageError (Scan × Rest)
  | [] => .ok (s, none)
  | a :: as =>
    if s.trailing then do l.scan (← s.takePositional l a) as
    else if !s.awaiting && l.subcommands.contains a then .ok (s, some (a, as))
    else match spelling a with
      | .escape => l.scan { s with trailing := true } as
      | .long text => do l.scan (← s.takeLong l.options text) as
      | .shorts letters => do l.scan (← s.takeShorts l.options letters) as
      | .plain =>
        if s.awaiting then l.scan (s.takeValue a) as
        else do l.scan (← s.takePositional l a) as

/-- The beginning of a level. -/
def start (l : Level) : Scan := ⟨[], none, false, l.positionals, false⟩

/-- The values given on a level without subcommands. -/
def read (l : Level) (args : List String) : Except UsageError Given := do
  let (s, _) ← l.scan l.start args
  let s ← s.settle
  if s.positionals.any (·.required) then .error .missingRequiredArgument else .ok s.given

end Level

end DeclAtlas.CommandLine
