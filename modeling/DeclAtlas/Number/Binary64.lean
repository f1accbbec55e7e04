/-!
# Decimals and numbers of 53 binary digits

A decimal is a whole number and a power of ten.  The place of its point tells how large it is
without working it out: `point` digits stand before the point, and a number of no digits there is
below one.

A binary number is a whole number below `2 ^ 53` and a power of two from `2 ^ -1074` to
`2 ^ 971`.  Every other number is rounded to the nearest of them, of two equally near ones to the
one that is even in its last digit; a number too large for them has no place among them.
-/

namespace DeclAtlas.Number

/-! ### Decimals -/

/-- The number `significand · 10 ^ exponent`. -/
structure Decimal where
  /-- The digits. -/
  significand : Nat
  /-- How many zeros follow the digits; if negative, how many digits stand after the point. -/
  exponent : Int
  deriving Repr, DecidableEq

namespace Decimal

/-- The digits without the zeros in front. -/
def digits (d : Decimal) : List Char := Nat.toDigits 10 d.significand

/-- How many digits stand before the point; zero or negative if zeros follow it. -/
def point (d : Decimal) : Int := d.digits.length + d.exponent

/-- The digits without the zeros at their end; of zero, none are left. -/
def shortDigits (d : Decimal) : List Char := (d.digits.reverse.dropWhile (· == '0')).reverse

/-- The number as a quotient of two whole numbers. -/
def toRatio (d : Decimal) : Nat × Nat :=
  (d.significand * Nat.pow 10 d.exponent.toNat, Nat.pow 10 (-d.exponent).toNat)

end Decimal

/-! ### Binary numbers -/

/-- The number `mantissa · 2 ^ exponent`, without its sign. -/
structure Binary64 where
  /-- The digits. -/
  mantissa : Nat
  /-- The power of two. -/
  exponent : Int
  deriving Repr, DecidableEq

namespace Binary64

/-- The least power of two. -/
def minExponent : Int := -1074

/-- The largest power of two. -/
def maxExponent : Int := 971

/-- Mantissas are less than this. -/
def mantissaBound : Nat := 9007199254740992

/-- Nothing. -/
def zero : Binary64 := ⟨0, minExponent⟩

/-- The quotient of two numbers as a whole number; a half goes to the even neighbour. -/
def roundDiv (num den : Nat) : Nat :=
  let q := num / den
  let r := num % den
  if 2 * r < den ∨ (2 * r = den ∧ q % 2 = 0) then q else q + 1

/-- The quotient `num / den` in units of `2 ^ e`, again as a quotient. -/
def inUnits (num den : Nat) (e : Int) : Nat × Nat :=
  (Nat.shiftLeft num (-e).toNat, Nat.shiftLeft den e.toNat)

/-- The power of two in whose units the quotient `num / den` is less than the bound of mantissas,
and no smaller than need be. -/
def exponentOf (num den : Nat) : Int :=
  let e := max ((num.log2 : Int) - den.log2 - 53) minExponent
  let units := inUnits num den e
  if units.1 / units.2 < mantissaBound then e else e + 1

/-- The number nearest to a quotient, if it is not too large. -/
def ofRatio? (num den : Nat) : Option Binary64 :=
  if num = 0 then some zero
  else
    let e := exponentOf num den
    let units := inUnits num den e
    let m := roundDiv units.1 units.2
    let rounded : Binary64 := if m = mantissaBound then ⟨m / 2, e + 1⟩ else ⟨m, e⟩
    if rounded.exponent ≤ maxExponent then some rounded else none

/-- The number as a quotient of two whole numbers. -/
def toRatio (x : Binary64) : Nat × Nat :=
  (Nat.shiftLeft x.mantissa x.exponent.toNat, Nat.shiftLeft 1 (-x.exponent).toNat)

/-- The product of two numbers, rounded. -/
def mul? (x y : Binary64) : Option Binary64 :=
  ofRatio? (x.toRatio.1 * y.toRatio.1) (x.toRatio.2 * y.toRatio.2)

/-- The quotient of two numbers, rounded. -/
def div? (x y : Binary64) : Option Binary64 :=
  ofRatio? (x.toRatio.1 * y.toRatio.2) (x.toRatio.2 * y.toRatio.1)

/-- Numbers whose point stands further to the right than this are too large. -/
def largestPoint : Int := 310

/-- Numbers whose point stands further to the left than this are rounded to nothing. -/
def smallestPoint : Int := -330

/-- The number nearest to a decimal, if it is not too large. -/
def ofDecimal? (d : Decimal) : Option Binary64 :=
  if d.significand = 0 ∨ d.point < smallestPoint then some zero
  else if largestPoint < d.point then none
  else ofRatio? d.toRatio.1 d.toRatio.2

end Binary64

end DeclAtlas.Number
