import DeclAtlas.Service.Value

/-!
# Arguments

An offer of the service takes arguments by name.  Each of its parameters accepts one kind of value,
and null or nothing at all where the parameter is optional.  Arguments are checked in the order of
their names, then required parameters without an argument are looked for in the order of their
declaration; an argument without a parameter is passed over.
-/

namespace DeclAtlas.Service

/-- The kind of value that a parameter accepts. -/
inductive Kind where
  | text
  | path
  | count
  deriving Repr, DecidableEq

/-- What a kind of value is called in a message. -/
def Kind.description : Kind → String
  | .text => "a string"
  | .path => "path string"
  | .count => "u32"

/-- A parameter. -/
structure Parameter where
  name : String
  kind : Kind
  isRequired : Bool := false
  deriving Repr, DecidableEq

/-- The arguments of a call by name. -/
abbrev Arguments := List (String × Value)

/-- Why arguments are refused. -/
inductive ArgumentError where
  | wrongKind (found : Value) (expected : Kind)
  /-- A number that is no count. -/
  | outOfRange (found : Value)
  /-- Nothing is given for a required parameter. -/
  | missing (name : String)
  deriving Repr

/-- The message for arguments that are refused. -/
def ArgumentError.message : ArgumentError → String
  | .wrongKind v k => "invalid type: " ++ v.description ++ ", expected " ++ k.description
  | .outOfRange v => "invalid value: " ++ v.description ++ ", expected " ++ Kind.count.description
  | .missing name => "missing field `" ++ name ++ "`"

/-- Counts are less than this. -/
def countBound : Nat := 4294967296

/-- Whether a value is of a kind. -/
def Kind.check (k : Kind) (v : Value) : Except ArgumentError Unit :=
  match k, v with
  | .text, .text _ => .ok ()
  | .path, .text _ => .ok ()
  | .count, .natural n => if n < countBound then .ok () else .error (.outOfRange v)
  | .count, .negative _ => .error (.outOfRange v)
  | _, _ => .error (.wrongKind v k)

/-- Whether a value can be given for a parameter. -/
def Parameter.check (p : Parameter) (v : Value) : Except ArgumentError Unit :=
  match p.isRequired, v with
  | false, .null => .ok ()
  | _, _ => p.kind.check v

namespace Arguments

/-- Checks an argument against its parameter, if it has one. -/
def checkOne (ps : List Parameter) (arg : String × Value) : Except ArgumentError Unit :=
  match ps.find? (·.name == arg.1) with
  | some p => p.check arg.2
  | none => .ok ()

/-- The first required parameter without an argument. -/
def missing? (args : Arguments) (ps : List Parameter) : Option Parameter :=
  ps.find? fun p => p.isRequired && (args.lookup p.name).isNone

/-- Checks arguments against parameters. -/
def check (args : Arguments) (ps : List Parameter) : Except ArgumentError Unit := do
  (args.mergeSort fun a b => decide (a.1 ≤ b.1)).forM (checkOne ps)
  match args.missing? ps with
  | some p => .error (.missing p.name)
  | none => .ok ()

/-- The text given for a parameter. -/
def text? (args : Arguments) (name : String) : Option String :=
  match args.lookup name with
  | some (.text s) => some s
  | _ => none

/-- The count given for a parameter. -/
def count? (args : Arguments) (name : String) : Option Nat :=
  match args.lookup name with
  | some (.natural n) => some n
  | _ => none

/-- The text given for a required parameter. -/
def text (args : Arguments) (name : String) : String := (args.text? name).getD ""

end Arguments

end DeclAtlas.Service
