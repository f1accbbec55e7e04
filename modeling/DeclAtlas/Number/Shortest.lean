import DeclAtlas.Number.Binary64

/-!
# The shortest decimal of a binary number

Of the decimals that are rounded to a binary number, `shortest` takes one with the fewest digits,
and of those the nearest.  A decimal with `n` digits that is rounded to the number exists only if
one of the two neighbours of the number among the decimals with `n` digits is one, so only those
are tried; seventeen digits always suffice.
-/

namespace DeclAtlas.Number

namespace Binary64

/-- The place of the point of a quotient: the number of digits before it, or if there are none, the
number of zeros after it with a minus. -/
def pointOf (num den : Nat) : Int :=
  if den ≤ num then (Nat.toDigits 10 (num / den)).length
  else
    let zeros := (Nat.toDigits 10 (den / num)).length
    if den = num * Nat.pow 10 (zeros - 1) then 2 - zeros else 1 - zeros

/-- Whether a decimal is rounded to the number.  The ends of the interval are halfway to the
neighbours of the number, and count if it is even; below a power of two the neighbour is only half
as far away. -/
def isNearestTo (x : Binary64) (d : Decimal) : Bool :=
  let quarter := inUnits d.toRatio.1 d.toRatio.2 (x.exponent - 2)
  let below := if 2 * x.mantissa = mantissaBound ∧ minExponent < x.exponent then 1 else 2
  let low := (4 * x.mantissa - below) * quarter.2
  let high := (4 * x.mantissa + 2) * quarter.2
  if x.mantissa % 2 = 0 then low ≤ quarter.1 && quarter.1 ≤ high
  else low < quarter.1 && quarter.1 < high

/-- The better of the two neighbours of the number among the decimals with `n` digits, if one of
them is rounded to it. -/
def decimalOf? (x : Binary64) (n : Nat) : Option Decimal :=
  let r := x.toRatio
  let e := pointOf r.1 r.2 - n
  let num := r.1 * Nat.pow 10 (-e).toNat
  let den := r.2 * Nat.pow 10 e.toNat
  let down : Decimal := ⟨num / den, e⟩
  let up : Decimal := ⟨num / den + 1, e⟩
  match x.isNearestTo down, x.isNearestTo up with
  | true, true => some ⟨roundDiv num den, e⟩
  | true, false => some down
  | false, true => some up
  | false, false => none

/-- The decimal with the fewest digits that is rounded to the number. -/
def shortest (x : Binary64) : Decimal :=
  if x.mantissa = 0 then ⟨0, 0⟩
  else ((List.range 18).findSome? fun n => if n = 0 then none else x.decimalOf? n).getD ⟨0, 0⟩

end Binary64

end DeclAtlas.Number
