import DeclAtlas.Input
import DeclAtlas.Path
import DeclAtlas.Schema.Reader
import DeclAtlas.Sources

/-!
# The next ordinal

Before a field is added to a schema, one asks for the next free ordinal of a record, or for a
summary of all records of the file.  A record report also names the gaps that must not be filled
and the fields with the highest ordinals.
-/

namespace DeclAtlas.Schema

/-- The highest ordinal in use and its field. -/
structure Highest where
  ordinal : Nat
  field : String
  deriving Repr, DecidableEq

/-- What is reported of one record. -/
structure OrdinalReport where
  qualifiedName : String
  schemaFile : String
  totalFields : Nat
  nextOrdinal : Nat
  highest : Option Highest
  gaps : List Nat
  declaredAnnotations : List String
  /-- The fields with the highest ordinals, in ascending order. -/
  lastFields : List Field
  deriving Repr, DecidableEq

/-- One line of a summary. -/
structure RecordSummary where
  qualifiedName : String
  totalFields : Nat
  highest : Option Nat
  nextOrdinal : Nat
  deriving Repr, DecidableEq

/-- What is reported of a schema. -/
inductive Outcome where
  | record (r : OrdinalReport)
  | summary (schemaFile : String) (records : List RecordSummary)
  deriving Repr, DecidableEq

/-- How many fields a report shows. -/
def lastFieldCount : Nat := 5

/-- Fields in ascending order of ordinals; equal ones keep their order. -/
def sortFields (fs : List Field) : List Field :=
  fs.mergeSort fun a b => decide (a.ordinal ≤ b.ordinal)

/-- The report of a record. -/
def Record.report (r : Record) (schemaFile : String) : OrdinalReport :=
  let sorted := sortFields r.fields
  { qualifiedName := r.qualifiedName
    schemaFile := schemaFile
    totalFields := r.fields.length
    nextOrdinal := r.nextOrdinal
    highest := sorted.getLast?.map fun f => ⟨f.ordinal, f.name⟩
    gaps := r.gaps
    declaredAnnotations := r.declaredAnnotations
    lastFields := sorted.drop (sorted.length - lastFieldCount) }

/-- The summary of a record. -/
def Record.summary (r : Record) : RecordSummary :=
  ⟨r.qualifiedName, r.fields.length, r.maxOrdinal?, r.nextOrdinal⟩

/-- Why a schema gives no report. -/
inductive OrdinalError where
  | input (e : InputError)
  | compile (file : String) (e : SourceError)
  | notFound (name file : String) (available : List String)
  deriving Repr, DecidableEq

/-- The message for a schema that gives no report. -/
def OrdinalError.message : OrdinalError → String
  | .input e => e.message
  | .compile file e => "Could not compile `" ++ file ++ "`: " ++ e.message
  | .notFound name file available =>
    "Struct '" ++ name ++ "' not found in " ++ file ++ "\n\nAvailable: " ++
      ", ".intercalate available

/-- The name under which a schema file is reported. -/
def schemaName (file : String) : String := (Path.fileName? file).getD file

/-- The outcome for the records of a file: the report of the named one, or a summary. -/
def outcome (schemaFile : String) (records : List Record) :
    Option String → Except OrdinalError Outcome
  | none => .ok (.summary schemaFile (records.map Record.summary))
  | some name =>
    match find? records name with
    | some r => .ok (.record (r.report schemaFile))
    | none => .error (.notFound name schemaFile (records.map Record.qualifiedName))

/-- Refuses a malformed record name, if one is given. -/
def checkRecord : Option String → Except InputError Unit
  | none => .ok ()
  | some name => checkRecordName name

/-- The report on a schema file. -/
def lookupOrdinal {m : Type → Type} [Monad m] (compile : Compiler m) (file : String)
    (record : Option String) : m (Except OrdinalError Outcome) :=
  match checkRecord record with
  | .error e => pure (.error (.input e))
  | .ok () => do
    match ← compile file with
    | .error e => pure (.error (.compile file e))
    | .ok text => pure (outcome (schemaName file) (parse text) record)

end DeclAtlas.Schema
