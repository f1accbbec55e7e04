import DeclAtlas.Schema.Syntax
import DeclAtlas.Text.LowerCase

/-!
# Compatibility flags

A compatibility flag is a boolean field of the flag schema whose annotations say how it is turned
on: from a date on, at all dates, by name, or only experimentally.  A flag whose field name begins
with `obsolete` is kept for its ordinal only.
-/

namespace DeclAtlas.Compat

open Text Schema

/-- A flag with its annotations. -/
structure Flag where
  fieldName : String
  /-- The ordinal of the schema field. -/
  ordinal : Nat
  /-- The name that turns the flag on. -/
  enableFlag : Option String
  /-- The name that turns the flag off. -/
  disableFlag : Option String
  enableDate : Option String
  enableAllDates : Bool
  experimental : Bool
  /-- Whether another system relies on the flag. -/
  neededByFl : Bool
  /-- What implies the flag, as written. -/
  impliedBy : Option String
  /-- Whether the flag is retired. -/
  obsolete : Bool
  deriving Repr, DecidableEq

namespace Flag

/-- The name shown to users: the one that turns the flag on, or else the field's. -/
def displayName (f : Flag) : String := f.enableFlag.getD f.fieldName

/-- Whether a date decides on the flag. -/
def isDated (f : Flag) : Bool := f.enableAllDates || f.enableDate.isSome

/-- Whether one of the flag's names contains the query, letter case aside. -/
def matchesQuery (f : Flag) (query : String) : Bool :=
  let q := lower query.toList
  let holds := fun (s : String) => contains q (lower s.toList)
  holds f.fieldName || f.enableFlag.any holds || f.disableFlag.any holds

end Flag

/-- The exclusive bound of flag ordinals. -/
def flagOrdinalBound : Nat := 4294967296

/-- Reads `$name("value")`. -/
def quotedAnnotation? : Reader (List Char × List Char) := fun s => do
  let (name, s) ← (literal? "$" s).bind word?
  let s ← literal? "(\"" s
  let value := s.takeWhile (· != '"')
  let s ← literal? "\")" (s.dropWhile (· != '"'))
  some ((name, value), s)

/-- The argument of the first annotation of a name. -/
def valueOf? (name : String) (as : List (List Char × List Char)) : Option (List Char) :=
  (as.find? (·.1 == name.toList)).map Prod.snd

/-- The value of the first quoted annotation of a name on a line. -/
def quotedValue? (name : String) (l : Line) : Option String :=
  (valueOf? name (allMatches (fun _ => quotedAnnotation?) l)).map String.ofList

/-- The argument of the first annotation of a name on a line, unless it is empty. -/
def rawValue? (name : String) (l : Line) : Option String :=
  ((valueOf? name (annotations l)).filter (!·.isEmpty)).map String.ofList

/-- The flag that a line of the schema declares. -/
def flag? (l : Line) : Option Flag := do
  let ((name, digits), s) ← fieldHead? l
  let _ ← literal? "Bool" s
  let ordinal ← asciiNatBelow? flagOrdinalBound digits
  some {
    fieldName := String.ofList name
    ordinal := ordinal
    enableFlag := quotedValue? "compatEnableFlag" l
    disableFlag := quotedValue? "compatDisableFlag" l
    enableDate := quotedValue? "compatEnableDate" l
    enableAllDates := containsString "$compatEnableAllDates(" l
    experimental := containsString "$experimental(" l
    neededByFl := containsString "$neededByFl(" l
    impliedBy := rawValue? "impliedByAfterDate" l
    obsolete := startsWith "obsolete".toList name }

/-- The flags that canonical schema text declares. -/
def flags (text : String) : List Flag := (linesOf text).filterMap flag?

end DeclAtlas.Compat
