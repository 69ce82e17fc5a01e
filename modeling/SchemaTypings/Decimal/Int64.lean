/-! # Integers of 64 bits

Counts that are given to the program are integers with a sign that fit into 64 bits.
-/
namespace SchemaTypings
namespace Decimal

/-- Whether an integer fits into 64 bits with a sign. -/
def fitsInt64 (n : Int) : Bool := -0x8000000000000000 ≤ n && n ≤ 0x7FFFFFFFFFFFFFFF

/-- The value of decimal digits. -/
def ofDigits (digits : List Char) : Nat :=
  digits.foldl (fun n c => n * 10 + (c.toNat - '0'.toNat)) 0

/-- The integer that a text writes: digits behind an optional sign, with a value that fits. -/
def int64? (text : String) : Option Int :=
  let (negative, digits) := match text.toList with
    | '-' :: rest => (true, rest)
    | '+' :: rest => (false, rest)
    | rest => (false, rest)
  let value : Int := if negative then -ofDigits digits else ofDigits digits
  if !digits.isEmpty && digits.all Char.isDigit && fitsInt64 value then some value else none

/-- An integer that a text writes fits. -/
theorem fitsInt64_of_int64? {text : String} {n : Int} (h : int64? text = some n) :
    fitsInt64 n = true := by
  unfold int64? at h
  grind

end Decimal
end SchemaTypings
