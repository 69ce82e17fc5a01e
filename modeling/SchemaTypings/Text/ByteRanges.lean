import SchemaTypings.Text.Ranges

/-! # Ranges of characters as ranges of bytes

The characters of a range are written with different numbers of bytes and do not fill all bytes that
could follow one another.  So a range falls into stretches, each of which is written by one range of
bytes at each place.  Surrogates belong to none of them.
-/
namespace SchemaTypings
namespace Text

/-- Bytes from one to another, both included. -/
abbrev ByteRange := Nat × Nat

/-- The bytes at each place of a character. -/
abbrev ByteSequence := List ByteRange

namespace ByteSequence

/-- The last code points that are written with one, two and three bytes. -/
def lastOfLength : List Nat := [0x7F, 0x7FF, 0xFFFF]

/-- How many characters share all bytes but the last one, two and three. -/
def blockSizes : List Nat := [64, 64 * 64, 64 * 64 * 64]

/-- Where the second part starts of a range that a block of `size` characters cuts. -/
def blockCut? (first last size : Nat) : Option Nat :=
  if first / size = last / size then none
  else if first % size ≠ 0 then some ((first / size + 1) * size)
  else if last % size ≠ size - 1 then some (last / size * size)
  else none

/-- Where a range falls apart that one range of bytes at each place cannot write: the end of its
first part and the start of its second part. -/
def seam? (first last : Nat) : Option (Nat × Nat) :=
  if first < 0xE000 ∧ 0xD7FF < last then some (0xD7FF, 0xE000)
  else if let some n := lastOfLength.find? fun n => first ≤ n && n < last then some (n, n + 1)
  else if last ≤ 0x7F then none
  else (blockSizes.findSome? (blockCut? first last)).map fun cut => (cut - 1, cut)

/-- The bytes of the characters from `first` to `last`, which differ at the same places. -/
def between (first last : Nat) : ByteSequence :=
  (String.utf8EncodeChar (Char.ofNat first)).zipWith (fun a b => (a.toNat, b.toNat))
    (String.utf8EncodeChar (Char.ofNat last))

/-- **The byte sequences of a range**, in increasing order. -/
def ofRange (first last : Nat) : List ByteSequence :=
  if last < first then []
  else match seam? first last with
    | none => [between first last]
    | some (stop, start) =>
      if stop < last ∧ first < start then ofRange first stop ++ ofRange start last else []
termination_by last + 1 - first

/-- A range without members needs no bytes. -/
theorem ofRange_eq_nil {first last : Nat} (h : last < first) : ofRange first last = [] := by
  rw [ofRange, if_pos h]

/-- The byte sequences of a set. -/
def ofRanges (set : Ranges) : List ByteSequence := set.flatMap fun range => ofRange range.1 range.2

end ByteSequence

end Text
end SchemaTypings
