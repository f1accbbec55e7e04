import DeclAtlas.Text.Reading
import DeclAtlas.Toml.Value

/-!
# Scalars of a TOML document

Strings in their four spellings, and the values written without quotes: truth values, numbers, dates
and times.  An unquoted value is the longest run of characters that such values are made of, and is
then classified as a whole.
-/

namespace DeclAtlas.Toml

open Text

/-! ### Strings -/

/-- Whether `c` may stand for itself in a comment or a string. -/
def isPlain (c : Char) : Bool := c == '\t' || (32 ≤ c.toNat && c.toNat != 127)

/-- A character given by the number of its code point, in `n` hexadecimal digits. -/
def codePoint? (n : Nat) : Reader Char := fun s => do
  let (v, s) ← hexNumber? n 0 s
  (charOf? v).map (·, s)

/-- The character that an escape stands for, after its backslash. -/
def escape? : Reader Char
  | 'b' :: s => some ('\x08', s)
  | 't' :: s => some ('\t', s)
  | 'n' :: s => some ('\n', s)
  | 'f' :: s => some ('\x0c', s)
  | 'r' :: s => some ('\r', s)
  | 'e' :: s => some ('\x1b', s)
  | '"' :: s => some ('"', s)
  | '\\' :: s => some ('\\', s)
  | 'x' :: s => codePoint? 2 s
  | 'u' :: s => codePoint? 4 s
  | 'U' :: s => codePoint? 8 s
  | _ => none

/-- Reads a string in double quotes to its end; `n` bounds the number of characters. -/
def basicRest? : Nat → List Char → Reader (List Char)
  | 0, _, _ => none
  | n + 1, acc, s =>
    match s with
    | '"' :: s => some (acc.reverse, s)
    | '\\' :: s => (escape? s).bind fun e => basicRest? n (e.1 :: acc) e.2
    | c :: s => if isPlain c then basicRest? n (c :: acc) s else none
    | [] => none

/-- Reads a string in single quotes to its end. -/
def literalRest? (s : List Char) : Option (List Char × List Char) :=
  match s.dropWhile (fun c => isPlain c && c != '\'') with
  | '\'' :: rest => some (s.takeWhile (fun c => isPlain c && c != '\''), rest)
  | _ => none

/-- A text without the line break it begins with. -/
def skipNewline : List Char → List Char
  | '\n' :: s => s
  | '\r' :: '\n' :: s => s
  | s => s

/-- Whether `c` separates keys and values inside a line. -/
def isSpace (c : Char) : Bool := c == ' ' || c == '\t'

/-- What follows a backslash at the end of a line: the first character that is neither space nor
line break. -/
def skipContinuation? (s : List Char) : Option (List Char) :=
  match s.dropWhile isSpace with
  | '\n' :: r => some (r.dropWhile fun c => isSpace c || c == '\n' || c == '\r')
  | '\r' :: '\n' :: r => some (r.dropWhile fun c => isSpace c || c == '\n' || c == '\r')
  | _ => none

/-- How many quotes end a string of several lines: those after the third belong to the text, and at
most two of them can. -/
def closingQuotes? (q : Char) (s : List Char) : Option (List Char × List Char) :=
  let n := (s.takeWhile (· == q)).length
  if n < 3 then none
  else some (List.replicate (min (n - 3) 2) q, s.drop (min n 5))

/-- Reads a string of several lines to its end; line breaks stand for themselves, and escapes count
only between double quotes. -/
def multilineRest? (q : Char) : Nat → List Char → Reader (List Char)
  | 0, _, _ => none
  | n + 1, acc, s =>
    match closingQuotes? q s with
    | some (extra, rest) => some (acc.reverse ++ extra, rest)
    | none =>
      match s with
      | [] => none
      | '\n' :: r => multilineRest? q n ('\n' :: acc) r
      | '\r' :: '\n' :: r => multilineRest? q n ('\n' :: '\r' :: acc) r
      | c :: r =>
        if c = '\\' ∧ q = '"' then
          match skipContinuation? r with
          | some r => multilineRest? q n acc r
          | none => (escape? r).bind fun e => multilineRest? q n (e.1 :: acc) e.2
        else if isPlain c then multilineRest? q n (c :: acc) r
        else none

/-- Reads a string on one line. -/
def lineString? : Reader (List Char)
  | '"' :: s => basicRest? (s.length + 1) [] s
  | '\'' :: s => literalRest? s
  | _ => none

/-- Reads a string in any of its spellings. -/
def string? : Reader (List Char)
  | '"' :: '"' :: '"' :: s => multilineRest? '"' (s.length + 1) [] (skipNewline s)
  | '\'' :: '\'' :: '\'' :: s => multilineRest? '\'' (s.length + 1) [] (skipNewline s)
  | s => lineString? s

/-! ### Numbers -/

/-- The digits of a number without the low lines between them, each of which must stand between two
digits. -/
def plainDigits? (p : Char → Bool) (s : List Char) : Option (List Char) :=
  let groups := pieces '_' s
  if groups.all fun g => !g.isEmpty && g.all p then some groups.flatten else none

/-- The number that digits write in a base. -/
def numberIn? (base : Nat) (s : List Char) : Option Nat :=
  s.foldl (fun acc c => acc.bind fun n => (hexValue? c).bind fun v =>
    if v < base then some (base * n + v) else none) (some 0)

/-- A sign and the text after it. -/
def splitSign : List Char → Int × List Char
  | '-' :: s => (-1, s)
  | '+' :: s => (1, s)
  | s => (1, s)

/-- Whether digits have no superfluous zero in front. -/
def isLeadFree : List Char → Bool
  | ['0'] => true
  | '0' :: _ => false
  | _ => true

/-- An integer in base ten. -/
def decimal? (s : List Char) : Option Int := do
  let (sign, s) := splitSign s
  let ds ← plainDigits? Char.isDigit s
  if isLeadFree ds then (numberIn? 10 ds).map fun n => sign * n else none

/-- An integer in another base, which a letter after a zero names. -/
def based? : List Char → Option Int
  | '0' :: b :: s => do
    let base ← if b = 'x' then some 16 else if b = 'o' then some 8 else if b = 'b' then some 2
      else none
    let ds ← plainDigits? (fun c => c != '_') s
    (numberIn? base ds).map Int.ofNat
  | _ => none

/-- The number of an exponent after its letter. -/
def exponent? (s : List Char) : Option Int := do
  let (sign, s) := splitSign s
  let ds ← plainDigits? Char.isDigit s
  (numberIn? 10 ds).map fun n => sign * n

/-- The parts of a number before and after the letter of its exponent. -/
def splitExponent (s : List Char) : List Char × Option (List Char) :=
  match s.dropWhile (fun c => c != 'e' && c != 'E') with
  | _ :: e => (s.takeWhile (fun c => c != 'e' && c != 'E'), some e)
  | [] => (s, none)

/-- The digits before and after the point of a number without sign and exponent, those before it
without a superfluous zero in front; none stand after a point that is missing. -/
def pointParts? (s : List Char) : Option (List Char × List Char) :=
  let parts : Option (List Char × List Char) :=
    match cut? ['.'] s with
    | some (whole, fraction) => do
      some (← plainDigits? Char.isDigit whole, ← plainDigits? Char.isDigit fraction)
    | none => (plainDigits? Char.isDigit s).map (·, [])
  parts.filter fun p => isLeadFree p.1

/-- A number with a fraction or an exponent, without its sign. -/
def unsignedFloat? (s : List Char) : Option Number.Decimal := do
  let (mantissa, exponent) := splitExponent s
  let (whole, fraction) ← pointParts? mantissa
  let e ← match exponent with
    | some e => exponent? e
    | none => if mantissa.contains '.' then some 0 else none
  let n ← numberIn? 10 (whole ++ fraction)
  some ⟨n, e - fraction.length⟩

/-- A number with a fraction or an exponent, or one of the special numbers. -/
def float? (s : List Char) : Option FloatValue :=
  let (sign, unsigned) := splitSign s
  if unsigned = "inf".toList then some (.infinite (sign < 0))
  else if unsigned = "nan".toList then some .notANumber
  else (unsignedFloat? unsigned).map (.finite (sign < 0))

/-! ### Unquoted values -/

/-- Whether `c` can stand in an unquoted value. -/
def isUnquoted (c : Char) : Bool :=
  c.isAlphanum || c == '+' || c == '-' || c == '_' || c == '.' || c == ':'

/-- Whether a text is a date. -/
def isDate (s : List Char) : Bool := (date? s).any fun d => d.2.isEmpty

/-- The run of characters of an unquoted value; a date takes the time after a space with it. -/
def unquoted (s : List Char) : List Char × List Char :=
  let w := s.takeWhile isUnquoted
  let rest := s.dropWhile isUnquoted
  match rest with
  | ' ' :: c :: r =>
    if isDate w && c.isDigit then
      (w ++ ' ' :: (c :: r).takeWhile isUnquoted, (c :: r).dropWhile isUnquoted)
    else (w, rest)
  | _ => (w, rest)

/-- The value that an unquoted text stands for. -/
def classify? (s : List Char) : Option Value :=
  if s = "true".toList then some (.bool true)
  else if s = "false".toList then some (.bool false)
  else match (decimal? s).or (based? s) with
    | some n => some (.integer n)
    | none => ((float? s).map .float).or ((Moment.ofChars? s).map .datetime)

end DeclAtlas.Toml
