/-! # Sets of characters given by ranges

Properties of characters beyond ASCII are tables of ranges of code points.  A stepped range holds
every second code point of a stretch, which is how capital and small letters alternate in most
scripts.
-/
namespace SchemaTypings
namespace Text

/-- Ranges of code points, both ends included. -/
abbrev Ranges := List (Nat × Nat)

/-- Whether some range holds the character. -/
def Ranges.holds (table : Ranges) (c : Char) : Bool :=
  table.any fun range => range.1 ≤ c.toNat && c.toNat ≤ range.2

/-- Ranges of code points, both ends included, with the distance between members. -/
abbrev SteppedRanges := List (Nat × Nat × Nat)

/-- Whether some stepped range holds the character. -/
def SteppedRanges.holds (table : SteppedRanges) (c : Char) : Bool :=
  table.any fun range =>
    range.1 ≤ c.toNat && c.toNat ≤ range.2.1 && (c.toNat - range.1) % range.2.2 == 0

end Text
end SchemaTypings
