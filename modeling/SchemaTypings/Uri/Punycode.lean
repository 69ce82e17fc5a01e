/-! # Punycode

The characters of a label beyond ASCII are written after its ASCII characters, in increasing
order, as differences in a mixed base whose thresholds adapt to the differences seen before.
-/
namespace SchemaTypings
namespace Uri
namespace Punycode

/-- A digit of base 36: letters first. -/
def digit (n : Nat) : Char := if n < 26 then Char.ofNat (97 + n) else Char.ofNat (22 + n)

/-- The value of a digit of base 36. -/
def digitValue? (c : Char) : Option Nat :=
  if 'a' ≤ c ∧ c ≤ 'z' then some (c.toNat - 97)
  else if 'A' ≤ c ∧ c ≤ 'Z' then some (c.toNat - 65)
  else if c.isDigit then some (c.toNat - 22)
  else none

/-- The threshold of the digit with weight index `k`. -/
def threshold (k bias : Nat) : Nat :=
  if k ≤ bias then 1 else if bias + 26 ≤ k then 26 else k - bias

/-- Divides a difference down until it is small, counting the weight passed. -/
def settle (delta k : Nat) : Nat × Nat :=
  if 455 < delta then settle (delta / 35) (k + 36) else (delta, k)
termination_by delta
decreasing_by exact Nat.div_lt_self (by omega) (by omega)

/-- The bias after a difference. -/
def adapt (delta count : Nat) (isFirst : Bool) : Nat :=
  let delta := if isFirst then delta / 700 else delta / 2
  let (delta, k) := settle (delta + delta / count) 0
  k + 36 * delta / (delta + 38)

/-- The digits of a difference; `fuel` bounds their number. -/
def writeDelta (bias : Nat) : Nat → Nat → Nat → List Char
  | 0, _, _ => []
  | fuel + 1, k, q =>
    let t := threshold k bias
    if q < t then [digit q]
    else digit (t + (q - t) % (36 - t)) :: writeDelta bias fuel (k + 36) ((q - t) / (36 - t))

/-- A label being written. -/
structure Progress where
  output : List Char
  delta : Nat
  bias : Nat
  handled : Nat

/-- Passes one character of the label while the code point `point` is inserted. -/
def pass (basic point : Nat) (p : Progress) (c : Char) : Progress :=
  if c.toNat < point then { p with delta := p.delta + 1 }
  else if c.toNat = point then
    { output := p.output ++ writeDelta p.bias (p.delta + 1) 36 p.delta
      delta := 0
      bias := adapt p.delta (p.handled + 1) (p.handled = basic)
      handled := p.handled + 1 }
  else p

/-- Inserts the code points `points`, which increase; `next` is the least one still possible. -/
def insertPoints (label : List Char) (basic : Nat) : List Nat → Nat → Progress → Progress
  | [], _, p => p
  | point :: rest, next, p =>
    let p := { p with delta := p.delta + (point - next) * (p.handled + 1) }
    let p := label.foldl (pass basic point) p
    insertPoints label basic rest (point + 1) { p with delta := p.delta + 1 }

/-- **The Punycode form of a label.** -/
def encode (label : List Char) : List Char :=
  let basic := label.filter fun c => c.toNat < 0x80
  let points := (((label.map Char.toNat).filter (0x80 ≤ ·)).mergeSort).eraseReps
  let start : Progress := ⟨[], 0, 72, basic.length⟩
  let extended := (insertPoints label basic.length points 0x80 start).output
  if basic.isEmpty then extended else basic ++ '-' :: extended

/-- Positions and weights are words of 32 bits. -/
def maxWord : Nat := 0xFFFFFFFF

/-- Reads one difference onto `sum`: the new sum and the rest of the digits.  A number that no word
holds is refused. -/
def readDelta (bias : Nat) : Nat → Nat → Nat → List Char → Option (Nat × List Char)
  | _, _, _, [] => none
  | k, weight, sum, c :: rest => do
    let d ← digitValue? c
    let sum := sum + d * weight
    let t := threshold k bias
    if maxWord < sum then none
    else if d < t then some (sum, rest)
    else if maxWord < weight * (36 - t) then none
    else readDelta bias (k + 36) (weight * (36 - t)) sum rest

/-- Inserts the code points that the digits describe; `fuel` bounds their number. -/
def readPoints : Nat → List Char → Nat → Nat → Nat → List Char → Option (List Char)
  | 0, _, _, _, _, _ => none
  | _ + 1, label, _, _, _, [] => some label
  | fuel + 1, label, point, index, bias, digits => do
    let (total, rest) ← readDelta bias 36 1 index digits
    let delta := total - index
    let count := label.length + 1
    let point := point + total / count
    let place := total % count
    if 0x10FFFF < point ∨ (0xD800 ≤ point ∧ point ≤ 0xDFFF) then none
    let label := label.take place ++ Char.ofNat point :: label.drop place
    readPoints fuel label point (place + 1) (adapt delta count (index = 0)) rest

/-- The characters before the last `-`, and those after it.  A `-` in front stands after nothing
and stays. -/
def cutLastHyphen (cs : List Char) : List Char × List Char :=
  let tail := (cs.reverse.takeWhile (· ≠ '-')).reverse
  if cs.length ≤ tail.length + 1 then ([], cs)
  else (cs.take (cs.length - tail.length - 1), tail)

/-- The label behind a Punycode form, if it is one. -/
def decode? (cs : List Char) : Option (List Char) :=
  let (basic, digits) := cutLastHyphen cs
  if basic.any fun c => 0x80 ≤ c.toNat then none
  else readPoints (digits.length + 1) basic 0x80 0 72 digits

end Punycode
end Uri
end SchemaTypings
