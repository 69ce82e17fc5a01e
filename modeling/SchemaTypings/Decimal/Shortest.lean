import SchemaTypings.Decimal.Binary64

/-! # Shortest decimal digits

The digits of a double are the fewest that read back as the same double and, among those, the
nearest ones.  Two points of a decimal grid can be candidates: the one at or below the value and
the one above it.  The first grid, from coarse to fine, on which a candidate lies inside the
rounding interval gives the digits.
-/
namespace SchemaTypings
namespace Decimal

/-- A positive decimal `digits * 10 ^ exponent`, with no trailing zero in `digits`. -/
structure Digits where
  digits : Nat
  exponent : Int
  deriving DecidableEq, Repr

namespace Shortest

open Binary64

/-- The interval of reals that round to a double, over a common denominator.  The ends belong to
it when the significand is even. -/
structure Interval where
  low : Nat
  value : Nat
  high : Nat
  den : Nat
  closed : Bool

/-- The rounding interval of a positive double, in quarters of its last place. -/
def interval (x : Binary64) : Interval :=
  let m := x.significand
  -- below a power of two the doubles are twice as dense
  let dense := m = Nat.pow 2 52 ∧ minExponent < x.exponent
  let below := if dense then 1 else 2
  let quarters := x.exponent - 2
  let up := if 0 ≤ quarters then Nat.pow 2 quarters.toNat else 1
  let den := if 0 ≤ quarters then 1 else Nat.pow 2 (-quarters).toNat
  { low := (4 * m - below) * up
    value := 4 * m * up
    high := (4 * m + 2) * up
    den
    closed := m % 2 = 0 }

/-- Whether `point * unit` (over `den`) lies inside the interval. -/
def Interval.holds (i : Interval) (point : Nat) : Bool :=
  if i.closed then i.low ≤ point && point ≤ i.high else i.low < point && point < i.high

/-- The candidate of the grid of step `10 ^ exponent`, if one reads back. -/
def candidate? (i : Interval) (exponent : Int) : Option Nat :=
  let up := if 0 ≤ exponent then 1 else Nat.pow 10 (-exponent).toNat
  let step := (if 0 ≤ exponent then Nat.pow 10 exponent.toNat else 1) * i.den
  let scaled : Interval :=
    { i with low := i.low * up, value := i.value * up, high := i.high * up }
  let lower := scaled.value / step
  let upper := lower + 1
  let lowerIn := scaled.holds (lower * step) && lower ≠ 0
  let upperIn := scaled.holds (upper * step)
  match lowerIn, upperIn with
  | true, true =>
    let down := scaled.value - lower * step
    let rise := upper * step - scaled.value
    if down < rise then some lower
    else if rise < down then some upper
    else if lower % 2 = 0 then some lower else some upper
  | true, false => some lower
  | false, true => some upper
  | false, false => none

/-- Tries grids of step `10 ^ exponent` from coarse to fine. -/
def search (i : Interval) : Nat → Int → Digits
  | 0, exponent => ⟨0, exponent⟩
  | tries + 1, exponent =>
    match candidate? i exponent with
    | some digits => ⟨digits, exponent⟩
    | none => search i tries (exponent - 1)

/-- Number of decimal digits of `n`, at least one. -/
def digitCount (n : Nat) : Nat := (Nat.toDigits 10 n).length

/-- Moves trailing zeros of the digits into the exponent. -/
def stripZeros : Nat → Digits → Digits
  | 0, d => d
  | tries + 1, d =>
    if d.digits ≠ 0 ∧ d.digits % 10 = 0 then stripZeros tries ⟨d.digits / 10, d.exponent + 1⟩
    else d

end Shortest

open Shortest in
/-- **The shortest digits of a positive double**: the fewest digits that read back as it, and the
nearest of those. -/
def Digits.shortest (x : Binary64) : Digits :=
  let i := interval x
  -- the coarsest grid worth trying has its step just above the value
  let whole := i.value / i.den
  let start : Int :=
    if whole = 0 then -((digitCount (i.den / i.value) : Int) - 1) else (digitCount whole : Int)
  stripZeros 30 (search i 30 start)

/-- How a decimal is laid out as text: it is positional while the position of its decimal point
lies between `leastPoint` and `mostPoint`, and scientific otherwise. -/
structure Layout where
  leastPoint : Int
  mostPoint : Int
  /-- Sign written before a scientific exponent that is not negative. -/
  plus : String

namespace Layout

/-- `count` zeros. -/
def zeros (count : Nat) : String := String.ofList (List.replicate count '0')

/-- Positional text with at least one decimal. -/
def positional (text : String) (point : Int) : String :=
  let length : Int := text.length
  if point ≤ 0 then "0." ++ zeros (-point).toNat ++ text
  else if length ≤ point then text ++ zeros (point - length).toNat ++ ".0"
  else
    let cs := text.toList
    String.ofList (cs.take point.toNat) ++ "." ++ String.ofList (cs.drop point.toNat)

/-- Scientific text: one digit, the others after a point, and the exponent without padding. -/
def scientific (l : Layout) (text : String) (point : Int) : String :=
  let mantissa := match text.toList with
    | [] => ""
    | [d] => String.singleton d
    | d :: rest => String.singleton d ++ "." ++ String.ofList rest
  let exponent := point - 1
  mantissa ++ "e" ++ (if 0 ≤ exponent then l.plus else "-") ++ toString exponent.natAbs

/-- The text of a positive decimal. -/
def write (l : Layout) (d : Digits) : String :=
  let text := toString d.digits
  let point := (text.length : Int) + d.exponent
  if l.leastPoint ≤ point ∧ point ≤ l.mostPoint then positional text point
  else l.scientific text point

end Layout
end Decimal
end SchemaTypings
