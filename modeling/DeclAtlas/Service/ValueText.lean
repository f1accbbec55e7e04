import DeclAtlas.Report.Json
import DeclAtlas.Service.Value
import DeclAtlas.Text.Reading

/-!
# Values as text

Values travel as JSON, one on a line.  Reading takes any JSON text; of two members with one name the
later one counts.  A number that is not exact is rounded in steps: first its digits, as many as 64
bits hold, then what its power of ten makes of them.  Writing puts nothing between the parts of a value, and members stay in their
order.
-/

namespace DeclAtlas.Service.Value

open Text

/-! ### Reading strings -/

/-- The code that a short escape stands for. -/
def shortEscape? : Char → Option Nat
  | '"' => some 0x22
  | '\\' => some 0x5C
  | '/' => some 0x2F
  | 'b' => some 0x08
  | 'f' => some 0x0C
  | 'n' => some 0x0A
  | 'r' => some 0x0D
  | 't' => some 0x09
  | _ => none

/-- The codes between the quotes of a string, after the opening one. -/
def codes? : List Char → Option (List Nat × List Char)
  | [] => none
  | '"' :: s => some ([], s)
  | '\\' :: 'u' :: a :: b :: c :: d :: s => do
    let u ← hexNat? [a, b, c, d]
    let (us, s) ← codes? s
    some (u :: us, s)
  | '\\' :: e :: s => do
    let u ← shortEscape? e
    let (us, s) ← codes? s
    some (u :: us, s)
  | c :: s => do
    if c.toNat < 32 then none
    else
      let (us, s) ← codes? s
      some (c.toNat :: us, s)

/-- Whether a code is the first half of a pair. -/
def isHighHalf (u : Nat) : Bool := 0xD800 ≤ u && u < 0xDC00

/-- Whether a code is the second half of a pair. -/
def isLowHalf (u : Nat) : Bool := 0xDC00 ≤ u && u < 0xE000

/-- The characters of some codes; two halves of a pair make one character. -/
def ofCodes? : List Nat → Option (List Char)
  | [] => some []
  | u :: us =>
    if isHighHalf u then
      match us with
      | [] => none
      | v :: vs =>
        if isLowHalf v then do
          let c ← charOf? (0x10000 + (u - 0xD800) * 0x400 + (v - 0xDC00))
          (ofCodes? vs).map (c :: ·)
        else none
    else do
      let c ← charOf? u
      (ofCodes? us).map (c :: ·)

/-- Reads a string after its opening quote. -/
def stringRest? : Reader String := fun s => do
  let (us, s) ← codes? s
  (ofCodes? us).map fun cs => (String.ofList cs, s)

/-! ### Reading numbers -/

/-- Reads the digits after a point; none if there is no point. -/
def fraction? : Reader (List Char)
  | '.' :: s => run? Char.isDigit s
  | s => some ([], s)

/-- Reads an exponent; zero if there is none. -/
def exponent? (s : List Char) : Option (Int × List Char) :=
  let digits := fun (sign : Int) (s : List Char) => do
    let (ds, s) ← run? Char.isDigit s
    let n ← asciiNat? ds
    some (sign * n, s)
  match s with
  | c :: s =>
    if c = 'e' || c = 'E' then
      match s with
      | '-' :: s => digits (-1) s
      | '+' :: s => digits 1 s
      | s => digits 1 s
    else some (0, c :: s)
  | [] => some (0, [])

/-- The number that `n` and some more digits make, as far as it is an exact whole number, and how
many digits are left. -/
def takeDigits (n : Nat) : List Char → Nat × Nat
  | [] => (n, 0)
  | c :: cs =>
    let m := 10 * n + (c.toNat - 48)
    if m < naturalBound then takeDigits m cs else (n, (c :: cs).length)

/-- The digits of a number as one whole number, with the power of ten that goes with it.  Digits
before the point that do not fit count as zeros, and those after it are left out. -/
def digitsOf (whole part : List Char) : Number.Decimal :=
  let (n, zeros) := takeDigits 0 whole
  let (m, dropped) := takeDigits n part
  ⟨m, (zeros : Int) - (part.length - dropped : Nat)⟩

/-- The largest power of ten in one step. -/
def stepExponent : Nat := 308

/-- A power of ten, rounded. -/
def powerOfTen (n : Nat) : Number.Binary64 :=
  (Number.Binary64.ofDecimal? ⟨1, n⟩).getD Number.Binary64.zero

/-- A number divided `n` times by the largest power of ten. -/
def shrink : Nat → Number.Binary64 → Number.Binary64
  | 0, x => x
  | n + 1, x =>
    if x.mantissa = 0 then x
    else shrink n ((x.div? (powerOfTen stepExponent)).getD Number.Binary64.zero)

/-- A number times a power of ten, if it is not too large. -/
def scale? (x : Number.Binary64) (e : Int) : Option Number.Binary64 :=
  if x.mantissa = 0 then some x
  else if 0 ≤ e then
    if e ≤ stepExponent then x.mul? (powerOfTen e.toNat) else none
  else
    let n := e.natAbs - 1
    (shrink (n / stepExponent) x).div? (powerOfTen (n % stepExponent + 1))

/-- The rounded number with the given digits and exponent. -/
def round? (isNegative : Bool) (whole part : List Char) (e : Int) : Option Value := do
  let d := digitsOf whole part
  let x ← Number.Binary64.ofDecimal? ⟨d.significand, 0⟩
  (scale? x (d.exponent + e)).map (.rounded isNegative)

/-- The number of a sign, digits before and after the point, and an exponent. -/
def ofParts? (isNegative : Bool) (whole part : List Char) (e : Int) (isWhole : Bool) :
    Option Value := do
  let n ← asciiNat? whole
  let exact := if isWhole && !(isNegative && n == 0) then ofInt? (if isNegative then -n else n)
    else none
  exact.or (round? isNegative whole part e)

/-- Reads a number without its sign. -/
def unsigned? (isNegative : Bool) : Reader Value := fun s => do
  let (whole, s₁) ← run? Char.isDigit s
  if whole.length > 1 && whole.head? == some '0' then none
  else
    let (part, s₂) ← fraction? s₁
    let (e, s₃) ← exponent? s₂
    let v ← ofParts? isNegative whole part e (s₃.length == s₁.length)
    some (v, s₃)

/-! ### Reading values -/

/-- Whether `c` may stand between the parts of a value. -/
def isSpace (c : Char) : Bool := c == ' ' || c == '\t' || c == '\n' || c == '\r'

/-- A text without the blanks it begins with. -/
def skipSpace (s : List Char) : List Char := s.dropWhile isSpace

/-- Members with one more; it takes the place of one with its name. -/
def setMember (ms : List (String × Value)) (name : String) (v : Value) : List (String × Value) :=
  ms.filter (·.1 != name) ++ [(name, v)]

/-- Reads a value without brackets. -/
def leaf? (s : List Char) : Option (Value × List Char) :=
  match s with
  | '"' :: r => (stringRest? r).map fun t => (.text t.1, t.2)
  | '-' :: r => unsigned? true r
  | s =>
    ((literal? "null" s).map (Value.null, ·)).or <|
      ((literal? "true" s).map (Value.flag true, ·)).or <|
        ((literal? "false" s).map (Value.flag false, ·)).or (unsigned? false s)

mutual

/-- Reads a value; `n` bounds the number of its parts. -/
def valueWithin? : Nat → Reader Value
  | 0, _ => none
  | n + 1, s =>
    match s with
    | '[' :: r =>
      match skipSpace r with
      | ']' :: r => some (.sequence [], r)
      | r => (itemsWithin? n r).map fun xs => (.sequence xs.1, xs.2)
    | '{' :: r =>
      match skipSpace r with
      | '}' :: r => some (.record [], r)
      | r => (membersWithin? n [] r).map fun ms => (.record ms.1, ms.2)
    | s => leaf? s

/-- Reads the items of a sequence and its closing bracket. -/
def itemsWithin? : Nat → Reader (List Value)
  | 0, _ => none
  | n + 1, s => do
    let (v, s) ← valueWithin? n s
    match skipSpace s with
    | ',' :: r => (itemsWithin? n (skipSpace r)).map fun vs => (v :: vs.1, vs.2)
    | ']' :: r => some ([v], r)
    | _ => none

/-- Reads the members of a record and its closing brace. -/
def membersWithin? : Nat → List (String × Value) → Reader (List (String × Value))
  | 0, _, _ => none
  | n + 1, ms, s => do
    let s ← dropLead? ['"'] s
    let (name, s) ← stringRest? s
    let s ← dropLead? [':'] (skipSpace s)
    let (v, s) ← valueWithin? n (skipSpace s)
    match skipSpace s with
    | ',' :: r => membersWithin? n (setMember ms name v) (skipSpace r)
    | '}' :: r => some (setMember ms name v, r)
    | _ => none

end

/-- The value that a text writes. -/
def ofText? (text : String) : Option Value := do
  let s := skipSpace text.toList
  let (v, rest) ← valueWithin? (2 * s.length + 2) s
  if (skipSpace rest).isEmpty then some v else none

/-! ### Writing -/

mutual

/-- The text of a value on one line. -/
def chars : Value → List Char
  | .null => ['n', 'u', 'l', 'l']
  | .flag true => ['t', 'r', 'u', 'e']
  | .flag false => ['f', 'a', 'l', 's', 'e']
  | .natural n => Nat.toDigits 10 n
  | .negative n => '-' :: Nat.toDigits 10 n
  | .rounded isNegative x => (if isNegative then ['-'] else []) ++ roundedText x
  | .text s => Json.quote s
  | .sequence [] => ['[', ']']
  | .sequence (x :: xs) => '[' :: chars x ++ itemChars xs ++ [']']
  | .record [] => ['{', '}']
  | .record ((k, v) :: ms) => '{' :: Json.quote k ++ ':' :: chars v ++ memberChars ms ++ ['}']

/-- The text of the items after the first. -/
def itemChars : List Value → List Char
  | [] => []
  | x :: xs => ',' :: chars x ++ itemChars xs

/-- The text of the members after the first. -/
def memberChars : List (String × Value) → List Char
  | [] => []
  | (k, v) :: ms => ',' :: Json.quote k ++ ':' :: chars v ++ memberChars ms

end

/-- The line that writes a value. -/
def line (v : Value) : String := String.ofList v.chars

end DeclAtlas.Service.Value
