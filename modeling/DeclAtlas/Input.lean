import DeclAtlas.Text.Reading

/-!
# Arguments of a query

The arguments of a query are checked before anything is searched, compiled or read: a type name or
symbol must be a plain identifier, a record name a dotted path of words, and a date four, two and
two digits joined by hyphens.
-/

namespace DeclAtlas

open Text

/-- What an identifier is asked for. -/
inductive IdentifierRole where
  | typeName
  | symbol
  deriving Repr, DecidableEq

/-- The role as messages name it. -/
def IdentifierRole.text : IdentifierRole → String
  | .typeName => "type name"
  | .symbol => "symbol"

/-- Why an argument is refused. -/
inductive InputError where
  | invalidIdentifier (role : IdentifierRole) (value : String)
  | invalidRecordName (value : String)
  | invalidDate (value : String)
  | emptyReference
  deriving Repr, DecidableEq

/-- The message for a refused argument. -/
def InputError.message : InputError → String
  | .invalidIdentifier role value =>
    "Invalid " ++ role.text ++ " `" ++ value ++ "`: expected a plain identifier."
  | .invalidRecordName value =>
    "Invalid record name `" ++ value ++ "`: expected a name like `Worker` or `Worker.Binding`."
  | .invalidDate value => "Invalid date `" ++ value ++ "`: expected YYYY-MM-DD."
  | .emptyReference =>
    "Empty dependency reference: expected a name such as `ssl` or `rust:base64`, or a label like " ++
      "`@ada-url//:ada`."

/-- Whether a text is an ASCII letter or low line followed by word characters. -/
def isIdentifier : List Char → Bool
  | [] => false
  | c :: r => (c.isAlpha || c == '_') && r.all isWord

/-- Whether a text is one or more non-empty words joined by dots. -/
def isRecordName (s : List Char) : Bool :=
  (pieces '.' s).all fun w => !w.isEmpty && w.all isWord

/-- Whether a text is made of four, two and two digits joined by hyphens. -/
def isDate (s : List Char) : Bool :=
  match pieces '-' s with
  | [y, m, d] =>
    y.length == 4 && m.length == 2 && d.length == 2 && (y ++ m ++ d).all isDigit
  | _ => false

/-- Accepts identifiers. -/
def checkIdentifier (role : IdentifierRole) (value : String) : Except InputError Unit :=
  if isIdentifier value.toList then .ok () else .error (.invalidIdentifier role value)

/-- Accepts record names. -/
def checkRecordName (value : String) : Except InputError Unit :=
  if isRecordName value.toList then .ok () else .error (.invalidRecordName value)

/-- Accepts dates. -/
def checkDate (value : String) : Except InputError Unit :=
  if isDate value.toList then .ok () else .error (.invalidDate value)

end DeclAtlas
