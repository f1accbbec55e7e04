import DeclAtlas.Compat.Flag
import DeclAtlas.Input
import DeclAtlas.Sources

/-!
# Compatibility flags at a date

Without a date the flags in use are listed by the way they are turned on; with a date they are
sorted into those that are on and those that are not yet.  Dates are compared as texts, and flags
of one date keep their order.
-/

namespace DeclAtlas.Compat

/-- The flags in use, by the way they are turned on. -/
structure Listing where
  /-- The number of flags in use. -/
  active : Nat
  /-- The number of retired flags. -/
  obsolete : Nat
  /-- The flags that a date decides on, by date. -/
  dated : List Flag
  /-- The flags turned on by name only. -/
  optIn : List Flag
  /-- The experimental flags that no date decides on. -/
  experimental : List Flag
  deriving Repr, DecidableEq

/-- The flags in use at a date. -/
structure Snapshot where
  date : String
  /-- The flags that are on, by date. -/
  enabled : List Flag
  /-- The flags that a later date turns on, by date. -/
  notYetEnabled : List Flag
  /-- The flags turned on by name only. -/
  optIn : List Flag
  /-- The experimental flags that no date decides on. -/
  experimental : List Flag
  deriving Repr, DecidableEq

/-- What is reported of compatibility flags. -/
inductive FlagReport where
  | listing (l : Listing)
  | atDate (s : Snapshot)
  deriving Repr, DecidableEq

/-- The state of a flag in use at a date. -/
inductive FlagState where
  | enabled
  | notYetEnabled
  | optIn
  | experimental
  deriving Repr, DecidableEq

/-- The state of a flag at a date. -/
def Flag.stateAt (f : Flag) (date : String) : FlagState :=
  if f.enableAllDates then .enabled
  else match f.enableDate with
    | some d => if d ≤ date then .enabled else .notYetEnabled
    | none => if f.experimental then .experimental else .optIn

/-- The date by which a flag is sorted; one without a date comes first. -/
def Flag.sortDate (f : Flag) : String := f.enableDate.getD ""

/-- Flags by date; flags of one date keep their order. -/
def sortByDate (fs : List Flag) : List Flag :=
  fs.mergeSort fun a b => decide (a.sortDate ≤ b.sortDate)

/-- The flags in use. -/
def activeFlags (fs : List Flag) : List Flag := fs.filter (!·.obsolete)

/-- The listing of some flags. -/
def listFlags (fs : List Flag) : Listing :=
  let active := activeFlags fs
  { active := active.length
    obsolete := (fs.filter Flag.obsolete).length
    dated := sortByDate (active.filter Flag.isDated)
    optIn := active.filter fun f => !f.isDated && !f.experimental
    experimental := active.filter fun f => !f.isDated && f.experimental }

/-- The flags in use that are in a state at a date. -/
def flagsIn (state : FlagState) (fs : List Flag) (date : String) : List Flag :=
  (activeFlags fs).filter fun f => f.stateAt date == state

/-- The states of some flags at a date. -/
def flagsAtDate (fs : List Flag) (date : String) : Snapshot where
  date := date
  enabled := sortByDate (flagsIn .enabled fs date)
  notYetEnabled := sortByDate (flagsIn .notYetEnabled fs date)
  optIn := flagsIn .optIn fs date
  experimental := flagsIn .experimental fs date

/-- Why there is no report on flags. -/
inductive FlagError where
  | input (e : InputError)
  | compile (e : SourceError)
  | noFlags (file : String)
  | noMatch (query : String) (total : Nat)
  deriving Repr, DecidableEq

/-- The message for a report on flags that cannot be given. -/
def FlagError.message : FlagError → String
  | .input e => e.message
  | .compile e => "Could not compile compatibility flags: " ++ e.message
  | .noFlags file => "No compatibility flags found in `" ++ file ++ "`."
  | .noMatch query total =>
    "No flags matching '" ++ query ++ "'. There are " ++ toString total ++ " total flags."

/-- The flags that a query selects; all of them without a query. -/
def select (fs : List Flag) : Option String → Except FlagError (List Flag)
  | none => .ok fs
  | some query =>
    match fs.filter (·.matchesQuery query) with
    | [] => .error (.noMatch query fs.length)
    | g :: gs => .ok (g :: gs)

/-- The report on some flags. -/
def reportOn (fs : List Flag) : Option String → FlagReport
  | none => .listing (listFlags fs)
  | some date => .atDate (flagsAtDate fs date)

/-- The report on the flags of a schema. -/
def reportOf (file text : String) (date flag : Option String) : Except FlagError FlagReport :=
  match flags text with
  | [] => .error (.noFlags file)
  | f :: fs => (select (f :: fs) flag).map (reportOn · date)

/-- Refuses a malformed date, if one is given. -/
def checkOptionalDate : Option String → Except InputError Unit
  | none => .ok ()
  | some date => checkDate date

/-- The report on the flags of a schema file. -/
def lookupFlags {m : Type → Type} [Monad m] (compile : Compiler m) (file : String)
    (date flag : Option String) : m (Except FlagError FlagReport) :=
  match checkOptionalDate date with
  | .error e => pure (.error (.input e))
  | .ok () => do
    match ← compile file with
    | .error e => pure (.error (.compile e))
    | .ok text => pure (reportOf file text date flag)

end DeclAtlas.Compat
