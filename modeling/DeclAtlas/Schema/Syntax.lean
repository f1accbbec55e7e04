import DeclAtlas.Schema.Record
import DeclAtlas.Text.Find
import DeclAtlas.Text.Reading

/-!
# Lines of canonical schema text

What single lines of a compiled schema say: a record opens, a field is declared, an annotation is
declared.  Field ordinals are 16-bit numbers written in ASCII digits; a line whose ordinal does not
fit declares no field.
-/

namespace DeclAtlas.Schema

open Text

/-- Whether `c` is a hexadecimal digit. -/
def isHexDigit (c : Char) : Bool :=
  c.isDigit || ('a' ≤ c && c ≤ 'f') || ('A' ≤ c && c ≤ 'F')

/-- Reads the opening of a record; the value is the record's name. -/
def recordOpening? : Reader (List Char) := fun s => do
  let s ← (literal? "struct" s).bind blanks?
  let (name, s) ← word? s
  let s ← (blanks? s).bind (literal? "@0x")
  let (_, s) ← run? isHexDigit s
  let s ← literal? "\x7b" (trimStart s)
  some (name, s)

/-- The name of the record that a line opens. -/
def openedRecord? (l : Line) : Option String := (findMatch? recordOpening? l).map String.ofList

/-- Reads blanks, a name, blanks, an at sign, digits, blanks and a colon, which begin a field. -/
def fieldHead? : Reader (List Char × List Char) := fun s => do
  let (name, s) ← (blanks? s).bind word?
  let s ← (blanks? s).bind (literal? "@")
  let (digits, s) ← run? isDigit s
  let s ← (blanks? s).bind (literal? ":")
  some ((name, digits), s)

/-- Reads `$name(args)`, up to the first closing parenthesis. -/
def annotation? : Reader (List Char × List Char) := fun s => do
  let (name, s) ← (literal? "$" s).bind word?
  let s ← literal? "(" s
  let args := s.takeWhile (· != ')')
  let s ← literal? ")" (s.dropWhile (· != ')'))
  some ((name, args), s)

/-- All annotations on a line. -/
def annotations (l : Line) : List (List Char × List Char) := allMatches (fun _ => annotation?) l

/-- An annotation as written. -/
def annotationText (a : List Char × List Char) : String :=
  String.ofList ('$' :: a.1 ++ '(' :: a.2 ++ [')'])

/-- Reads blanks, a number sign and a blank, which begin a comment. -/
def comment? : Reader Unit := fun s => do
  let s ← (blanks? s).bind (literal? "#")
  let s ← blanks? s
  some ((), s)

/-- A text up to its first comment. -/
def beforeComment (s : List Char) : List Char :=
  match s with
  | [] => []
  | c :: r => if (comment? (c :: r)).isSome then [] else c :: beforeComment r

/-- A declaration without its comment, its final semicolon and the blanks around it. -/
def declarationText (l : Line) : String :=
  let s := beforeComment (trim l)
  String.ofList ((dropEnd? [';'] s).getD s)

/-- The exclusive bound of field ordinals. -/
def fieldOrdinalBound : Nat := 65536

/-- The field that a line declares. -/
def field? (l : Line) : Option Field := do
  let ((name, digits), s) ← fieldHead? l
  let (type, _) ← run? (!isBlank ·) s
  let ordinal ← asciiNatBelow? fieldOrdinalBound digits
  some {
    name := String.ofList name
    ordinal := ordinal
    type := String.ofList (dropEndWhile (fun c => c == ';' || c == ',') type)
    annotations := (annotations l).map annotationText
    raw := declarationText l }

/-- The name of the annotation that a line declares. -/
def declaredAnnotation? (l : Line) : Option String := do
  let s ← (blanks? l).bind (literal? "annotation")
  let (name, s) ← (blanks? s).bind word?
  let _ ← (blanks? s).bind (literal? "@0x")
  some (String.ofList name)

end DeclAtlas.Schema
