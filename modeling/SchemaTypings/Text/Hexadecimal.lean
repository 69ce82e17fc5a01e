/-! # Hexadecimal numerals

Digits of base 16 of either case, the numbers that they write, and the small digits of a number.
-/
namespace SchemaTypings
namespace Text

/-- The value of a hexadecimal digit of either case. -/
def hexValue? (c : Char) : Option Nat :=
  if c.isDigit then some (c.toNat - 48)
  else if 'a' ≤ c ∧ c ≤ 'f' then some (c.toNat - 87)
  else if 'A' ≤ c ∧ c ≤ 'F' then some (c.toNat - 55)
  else none

/-- The number that hexadecimal digits write, when all of them are digits. -/
def ofHex? (digits : List Char) : Option Nat :=
  digits.foldl (fun n? c => do return (← n?) * 16 + (← hexValue? c)) (some 0)

/-- The number that hexadecimal digits write; other characters count as zero. -/
def ofHex (digits : List Char) : Nat :=
  digits.foldl (fun n c => n * 16 + (hexValue? c).getD 0) 0

/-- The small hexadecimal digits of `n`, without padding. -/
def hexDigits (n : Nat) : List Char := Nat.toDigits 16 n

end Text
end SchemaTypings
