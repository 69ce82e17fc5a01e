import SchemaTypings.Text.Split
import SchemaTypings.Uri.Percent

/-! # Internet addresses

An IPv4 address is up to four numbers, decimal, octal or hexadecimal, the last of which fills the
bytes that are left.  An IPv6 address is eight groups of four hexadecimal digits; one run of zero
groups may be left out, and the last two groups may be an IPv4 address.
-/
namespace SchemaTypings
namespace Uri
namespace Address

/-- The number that digits of some base write. -/
def ofDigits (base : Nat) (cs : List Char) : Nat :=
  cs.foldl (fun n c => n * base + (Text.hexValue? c).getD 0) 0

/-- Whether every character is a digit of the base. -/
def areDigits (base : Nat) (cs : List Char) : Bool :=
  cs.all fun c => (Text.hexValue? c).any (· < base)

/-- One number of an IPv4 address; the base shows in its first characters. -/
def v4Number? (part : List Char) : Option Nat :=
  let (base, digits) := match part with
    | '0' :: 'x' :: rest => (16, rest)
    | '0' :: 'X' :: rest => (16, rest)
    | '0' :: c :: rest => (8, c :: rest)
    | part => (10, part)
  if part.isEmpty then none
  else if areDigits base digits then some (ofDigits base digits)
  else none

/-- The parts of a dotted name; one final dot is dropped. -/
def dottedParts (name : List Char) : List (List Char) :=
  let parts := Text.pieces (· = '.') name
  if 1 < parts.length ∧ parts.getLast? = some [] then parts.dropLast else parts

/-- Whether a name must be an IPv4 address because its last part is a number. -/
def endsInNumber (name : List Char) : Bool :=
  match (dottedParts name).getLast? with
  | some (c :: rest) => (c :: rest).all Char.isDigit || (v4Number? (c :: rest)).isSome
  | _ => false

/-- An IPv4 address as one number of 32 bits. -/
def v4? (name : List Char) : Option Nat := do
  let parts := dottedParts name
  if 4 < parts.length then none else
  let numbers ← parts.mapM v4Number?
  let last ← numbers.getLast?
  let leading := numbers.dropLast
  if leading.any (255 < ·) ∨ Nat.pow 256 (4 - leading.length) ≤ last then none
  else some (leading.zipIdx.foldl (fun sum (n, i) => sum + n * Nat.pow 256 (3 - i)) last)

/-- The dotted form of an IPv4 address. -/
def v4Text (address : Nat) : String :=
  ".".intercalate ([3, 2, 1, 0].map fun i => toString (address / Nat.pow 256 i % 256))

/-- A group of an IPv6 address. -/
def group? (part : List Char) : Option Nat :=
  if part.isEmpty ∨ 4 < part.length ∨ ¬ areDigits 16 part then none
  else some (ofDigits 16 part)

/-- A byte of an IPv4 address inside an IPv6 address: decimal without a leading zero. -/
def byte? (part : List Char) : Option Nat :=
  let n := ofDigits 10 part
  if part.isEmpty ∨ ¬ areDigits 10 part ∨ 255 < n ∨ (1 < part.length ∧ part.head? = some '0') then
    none
  else some n

/-- The groups of a stretch between colons; the last part may be an IPv4 address. -/
def groups? (mayEndInV4 : Bool) (cs : List Char) : Option (List Nat) :=
  if cs.isEmpty then some [] else
  let parts := Text.pieces (· = ':') cs
  let last := (parts.getLast?).getD []
  if mayEndInV4 && last.contains '.' then do
    let leading ← parts.dropLast.mapM group?
    match ← (Text.pieces (· = '.') last).mapM byte? with
    | [a, b, c, d] => some (leading ++ [a * 256 + b, c * 256 + d])
    | _ => none
  else parts.mapM group?

/-- What stands before the first double colon and after it, if there is one. -/
def cutDoubleColon : List Char → Option (List Char × List Char)
  | ':' :: ':' :: rest => some ([], rest)
  | c :: rest => (cutDoubleColon rest).map fun (before, after) => (c :: before, after)
  | [] => none

/-- The eight groups of an IPv6 address. -/
def v6? (cs : List Char) : Option (List Nat) :=
  match cutDoubleColon cs with
  | none => do
    let groups ← groups? true cs
    if groups.length = 8 then some groups else none
  | some (before, after) => do
    let front ← groups? false before
    let back ← groups? true after
    let present := front.length + back.length
    if 7 < present then none
    else some (front ++ List.replicate (8 - present) 0 ++ back)

/-- The lengths of the zero runs that start at each group. -/
def zeroRuns (groups : List Nat) : List Nat :=
  groups.zipIdx.map fun (_, i) => ((groups.drop i).takeWhile (· = 0)).length

/-- The text of an IPv6 address: the first longest run of at least two zero groups is left out. -/
def v6Text (groups : List Nat) : String :=
  let runs := zeroRuns groups
  let longest := runs.foldl max 0
  let show16 (list : List Nat) : String :=
    ":".intercalate (list.map fun n => String.ofList (Nat.toDigits 16 n))
  if longest < 2 then show16 groups
  else
    let start := (runs.findIdx? (· = longest)).getD 0
    show16 (groups.take start) ++ "::" ++ show16 (groups.drop (start + longest))

end Address
end Uri
end SchemaTypings
