/-! # Finite binary64 numbers

A finite double is a sign, a significand below `2 ^ 53` and an exponent, so rounding and decimal
conversion are exact arithmetic on natural numbers.  `ofRatio` rounds a quotient of naturals to
the nearest double, a tie to the even significand; multiplication and division are rounded the
same way.
-/
namespace SchemaTypings
namespace Decimal

/-- **A finite binary64 number** of magnitude `significand * 2 ^ exponent`.  Every value has one
form: either the significand has 53 bits, or the exponent is the least one, `-1074`. -/
structure Binary64 where
  negative : Bool
  significand : Nat
  exponent : Int
  deriving DecidableEq, Repr

namespace Binary64

/-- Number of bits of a significand. -/
def precision : Nat := 53

/-- The exponent of the smallest positive double. -/
def minExponent : Int := -1074

/-- The exponent of the largest finite doubles. -/
def maxExponent : Int := 971

/-- Zero with the given sign. -/
def zero (negative : Bool) : Binary64 := ⟨negative, 0, minExponent⟩

/-- Whether the number is a zero of either sign. -/
def isZero (x : Binary64) : Bool := x.significand = 0

/-- The same magnitude with the given sign. -/
def withSign (x : Binary64) (negative : Bool) : Binary64 := { x with negative }

/-- The magnitude as a fraction: numerator and denominator. -/
def ratio (x : Binary64) : Nat × Nat :=
  if 0 ≤ x.exponent then (x.significand * Nat.pow 2 x.exponent.toNat, 1)
  else (x.significand, Nat.pow 2 (-x.exponent).toNat)

/-- The quotient `num / den` rounded to the nearest integer, a tie to the even one. -/
def roundHalfEven (num den : Nat) : Nat :=
  let quotient := num / den
  let twice := 2 * (num % den)
  if twice < den then quotient
  else if den < twice then quotient + 1
  else if quotient % 2 = 0 then quotient else quotient + 1

/-- `num / den` in units of `2 ^ exponent`, as a fraction. -/
def scale (num den : Nat) (exponent : Int) : Nat × Nat :=
  if 0 ≤ exponent then (num, den * Nat.pow 2 exponent.toNat)
  else (num * Nat.pow 2 (-exponent).toNat, den)

/-- The exponent at which `num / den` fills a 53-bit significand, but not below the least one. -/
def fittingExponent (num den : Nat) : Int :=
  let guess : Int := (Nat.log2 num : Int) - (Nat.log2 den : Int) - 52
  let (n, d) := scale num den guess
  let exact := if n / d < Nat.pow 2 52 then guess - 1 else guess
  max exact minExponent

/-- The double nearest to `num / den`, or nothing when it is beyond the finite range. -/
def ofRatio (num den : Nat) : Option Binary64 :=
  if num = 0 then some (zero false) else
  let exponent := fittingExponent num den
  let (n, d) := scale num den exponent
  let significand := roundHalfEven n d
  let (significand, exponent) :=
    if significand = Nat.pow 2 53 then (Nat.pow 2 52, exponent + 1) else (significand, exponent)
  if exponent > maxExponent then none else some ⟨false, significand, exponent⟩

/-- The rounded product of two magnitudes. -/
def mul (x y : Binary64) : Option Binary64 :=
  let (xn, xd) := x.ratio
  let (yn, yd) := y.ratio
  ofRatio (xn * yn) (xd * yd)

/-- The rounded quotient of two magnitudes; the divisor is not zero. -/
def div (x y : Binary64) : Option Binary64 :=
  let (xn, xd) := x.ratio
  let (yn, yd) := y.ratio
  ofRatio (xn * yd) (xd * yn)

/-- The double nearest to a power of ten; `exponent` is at most 308. -/
def powerOfTen (exponent : Nat) : Binary64 :=
  (ofRatio (Nat.pow 10 exponent) 1).getD (zero false)

/-- The largest exponent of a power of ten that is a finite double. -/
def maxPowerOfTen : Nat := 308

/-- Divides by `10 ^ exponent`, in steps of at most `10 ^ 308`, each step rounded.  `steps` bounds
their number. -/
def divPowerOfTen (steps : Nat) (x : Binary64) (exponent : Nat) : Binary64 :=
  match steps with
  | 0 => zero false
  | steps + 1 =>
    if exponent ≤ maxPowerOfTen then (x.div (powerOfTen exponent)).getD (zero false)
    else if x.isZero then x
    else divPowerOfTen steps ((x.div (powerOfTen maxPowerOfTen)).getD (zero false))
      (exponent - maxPowerOfTen)

/-- The value of the numeral `significand * 10 ^ exponent`: the significand is rounded first and
then scaled by one rounded power of ten, so a numeral of many digits may be off by one unit in the
last place.  Nothing, when the result is not finite. -/
def ofNumeral (negative : Bool) (significand : Nat) (exponent : Int) : Option Binary64 := do
  let start ← ofRatio significand 1
  let scaled ←
    if 0 ≤ exponent then
      if exponent.toNat ≤ maxPowerOfTen then start.mul (powerOfTen exponent.toNat)
      else if start.isZero then some start
      else none
    else
      -- four steps reach below the smallest double from any 64-bit significand
      some (start.divPowerOfTen 4 (-exponent).toNat)
  return scaled.withSign negative

end Binary64
end Decimal
end SchemaTypings
