import DeclAtlas.Number.Shortest
import DeclAtlas.Text.Hidden

/-!
# Values

Callers of the service pass values: null, truth values, numbers, texts, sequences and records.  A
whole number of at most 64 bits is exact; every other number is rounded to 53 binary digits, and
only the former can be a count.  A value that does not suit is described in the message that
refuses it.
-/

namespace DeclAtlas.Service

/-- A value that a caller passes. -/
inductive Value where
  | null
  | flag (b : Bool)
  /-- A whole number. -/
  | natural (n : Nat)
  /-- The whole number `-n`. -/
  | negative (n : Nat)
  /-- A number that is rounded. -/
  | rounded (isNegative : Bool) (magnitude : Number.Binary64)
  | text (s : String)
  | sequence (xs : List Value)
  | record (ms : List (String × Value))
  deriving Repr, Inhabited

namespace Value

/-- Exact whole numbers are less than this. -/
def naturalBound : Nat := 18446744073709551616

/-- Exact whole numbers are at least as large as the negative of this. -/
def negativeLimit : Nat := 9223372036854775808

/-- The whole number `n`, if it is exact. -/
def ofInt? : Int → Option Value
  | .ofNat n => if n < naturalBound then some (.natural n) else none
  | .negSucc n => if n < negativeLimit then some (.negative (n + 1)) else none

/-- A rounded number whose point stands between these two places is written without an exponent,
the first place not included. -/
def positionalPoints : Int × Int := (-5, 16)

/-- A rounded number as written: the fewest digits that tell it apart from its neighbours.  They
are written in place between a hundred-thousandth and ten quadrillion, with an exponent outside,
whose sign is always written. -/
def roundedText (x : Number.Binary64) : List Char :=
  let d := x.shortest
  let point := d.point
  match d.shortDigits with
  | [] => ['0', '.', '0']
  | c :: cs =>
    let ds := c :: cs
    let zeros := point - ds.length
    if 0 ≤ zeros ∧ point ≤ positionalPoints.2 then
      ds ++ List.replicate zeros.toNat '0' ++ ['.', '0']
    else if 0 < point ∧ point ≤ positionalPoints.2 then
      ds.take point.toNat ++ '.' :: ds.drop point.toNat
    else if positionalPoints.1 < point ∧ point ≤ 0 then
      ['0', '.'] ++ List.replicate (-point).toNat '0' ++ ds
    else
      let mantissa := if cs.isEmpty then ds else c :: '.' :: cs
      let e := point - 1
      mantissa ++ 'e' :: (if e < 0 then '-' else '+') :: Nat.toDigits 10 e.natAbs

/-- What a value is called in a message. -/
def description : Value → String
  | .null => "null"
  | .flag b => "boolean `" ++ (if b then "true" else "false") ++ "`"
  | .natural n => "integer `" ++ toString n ++ "`"
  | .negative n => "integer `-" ++ toString n ++ "`"
  | .rounded isNegative x =>
    "floating point `" ++ (if isNegative then "-" else "") ++ String.ofList (roundedText x) ++ "`"
  | .text s => "string " ++ Text.quoted s
  | .sequence _ => "sequence"
  | .record _ => "map"

end Value

end DeclAtlas.Service
