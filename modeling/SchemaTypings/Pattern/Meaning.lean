import SchemaTypings.Pattern.Term
import SchemaTypings.Text.CaseForms

/-! # What patterns mean

A tree becomes a term in the flags that hold where it stands.  A pattern may switch from characters
to bytes.  It is refused if it could then match part of a character: where bytes beyond ASCII can be
matched one by one, or where a character, a class or a property needs characters to be meant.
-/
namespace SchemaTypings
namespace Pattern

open Text (Ranges)

/-- The flags that hold somewhere in a pattern. -/
structure Modes where
  ignoreCase : Bool := false
  /-- Whether lines have starts and ends of their own. -/
  multiLine : Bool := false
  dotMatchesNewline : Bool := false
  /-- Whether repetitions are lazy unless they say otherwise. -/
  swapGreed : Bool := false
  /-- Whether characters are matched, and not bytes. -/
  unicode : Bool := true
  /-- Whether a carriage return ends a line as well. -/
  crlf : Bool := false
  deriving DecidableEq, Repr

/-- The modes after a change of flags. -/
def Modes.apply (m : Modes) (change : FlagChange) : Modes where
  ignoreCase := change.apply .ignoreCase m.ignoreCase
  multiLine := change.apply .multiLine m.multiLine
  dotMatchesNewline := change.apply .dotMatchesNewline m.dotMatchesNewline
  swapGreed := change.apply .swapGreed m.swapGreed
  unicode := change.apply .unicode m.unicode
  crlf := change.apply .crlf m.crlf

/-- A change of nothing changes nothing. -/
theorem Modes.apply_empty (m : Modes) : m.apply {} = m := rfl

/-- What is matched. -/
def Modes.alphabet (m : Modes) : Alphabet := if m.unicode then .characters else .bytes

/-! ### Sets -/

/-- The last member of an alphabet. -/
def Alphabet.top : Alphabet → Nat
  | characters => 0x10FFFF
  | bytes => 0xFF

/-- What a range shares with another one, `distance` further on. -/
def shifted (range within : Nat × Nat) (distance : Int) : Ranges :=
  let first := max range.1 within.1
  let last := min range.2 within.2
  if first ≤ last then [((first + distance).toNat, (last + distance).toNat)] else []

/-- A set of bytes with both cases of its ASCII letters. -/
def withAsciiCases (set : Ranges) : Ranges :=
  Ranges.ordered (set ++ set.flatMap fun range =>
    shifted range (0x61, 0x7A) (-32) ++ shifted range (0x41, 0x5A) 32)

/-- A set with all case forms of its members. -/
def Alphabet.withCases : Alphabet → Ranges → Ranges
  | characters => Ranges.withCaseForms
  | bytes => withAsciiCases

/-- A set as it stands in the flags: with the cases of its members where case is ignored. -/
def Modes.cased (m : Modes) (set : Ranges) : Ranges :=
  if m.ignoreCase then m.alphabet.withCases set else set

/-- A set or what is not in it. -/
def Modes.negatedIf (m : Modes) (negated : Bool) (set : Ranges) : Ranges :=
  if negated then Ranges.complement m.alphabet.top set else set

/-- Whether a set is in ASCII. -/
def isAscii (set : Ranges) : Bool := set.all fun range => range.2 < 0x80

/-- A set, unless it holds bytes that are no characters. -/
def Modes.guarded? (m : Modes) (set : Ranges) : Option Ranges :=
  if m.unicode || isAscii set then some set else none

/-- A set that is closed by its bracket. -/
def Modes.closed? (m : Modes) (negated : Bool) (set : Ranges) : Option Ranges :=
  m.guarded? (m.negatedIf negated (m.cased set))

/-- The range between two characters. -/
def charRange (first last : Char) : Nat × Nat := (first.toNat, last.toNat)

/-- The members of a named ASCII class. -/
def AsciiClass.ranges : AsciiClass → Ranges
  | alnum => [charRange '0' '9', charRange 'A' 'Z', charRange 'a' 'z']
  | alpha => [charRange 'A' 'Z', charRange 'a' 'z']
  | ascii => [(0, 0x7F)]
  | blank => [charRange '\t' '\t', charRange ' ' ' ']
  | cntrl => [(0, 0x1F), (0x7F, 0x7F)]
  | digit => [charRange '0' '9']
  | graph => [charRange '!' '~']
  | lower => [charRange 'a' 'z']
  | print => [charRange ' ' '~']
  | punct => [charRange '!' '/', charRange ':' '@', charRange '[' '`', charRange '\x7b' '~']
  | space => [charRange '\t' '\r', charRange ' ' ' ']
  | upper => [charRange 'A' 'Z']
  | word => [charRange '0' '9', charRange 'A' 'Z', charRange '_' '_', charRange 'a' 'z']
  | xdigit => [charRange '0' '9', charRange 'A' 'F', charRange 'a' 'f']

/-- The members of a class with a letter of its own. -/
def Shorthand.ranges : Alphabet → Shorthand → Ranges
  | .characters, digit => Property.digits
  | .characters, space => Property.blanks
  | .characters, word => Property.wordCharacters
  | .bytes, digit => AsciiClass.digit.ranges
  | .bytes, space => AsciiClass.space.ranges
  | .bytes, word => AsciiClass.word.ranges

/-- A class with a letter of its own, as a set. -/
def Modes.shorthand? (m : Modes) (kind : Shorthand) (negated : Bool) : Option Ranges :=
  m.guarded? (m.negatedIf negated (kind.ranges m.alphabet))

/-- The characters with a property, as a set. -/
def Modes.property? (m : Modes) (p : Property) (negated : Bool) : Option Ranges := do
  guard m.unicode
  m.closed? negated (← p.characters?)

/-- The members of a range in brackets; bytes are written in ASCII. -/
def Modes.range? (m : Modes) (first last : Literal) : Option Ranges :=
  if m.unicode || (first.char.toNat < 0x80 && last.char.toNat < 0x80) then
    some [charRange first.char last.char]
  else none

/-- An atom as a set. -/
def Atom.ranges? (m : Modes) : Atom → Option Ranges
  | literal l => m.range? l l
  | shorthand kind negated => m.shorthand? kind negated
  | property p negated => m.property? p negated
  | dot | look _ => none

/-- Two sets combined. -/
def SetOperation.apply : SetOperation → Ranges → Ranges → Ranges
  | intersection => Ranges.intersection
  | difference => Ranges.difference
  | symmetricDifference => Ranges.symmetricDifference

mutual

/-- The members of an item. -/
def SetItem.ranges? (m : Modes) : SetItem → Option Ranges
  | .atom a => a.ranges? m
  | .range first last => m.range? first last
  | .ascii kind negated => m.closed? negated kind.ranges
  | .nested negated set => do m.closed? negated (← set.ranges? m)

/-- The members of what stands in brackets. -/
def BracketSet.ranges? (m : Modes) : BracketSet → Option Ranges
  | .union items => (itemRanges? m items).map Ranges.ordered
  | .combined op left right => do
    return op.apply (m.cased (← left.ranges? m)) (m.cased (← right.ranges? m))

/-- The members of several items. -/
def itemRanges? (m : Modes) : List SetItem → Option Ranges
  | [] => some []
  | item :: rest => do return (← item.ranges? m) ++ (← itemRanges? m rest)

end

/-! ### Terms -/

/-- The characters that a dot matches. -/
def Modes.dotRanges (m : Modes) : Ranges :=
  if m.dotMatchesNewline then [(0, 0x10FFFF)]
  else if m.crlf then [(0, 0x9), (0xB, 0xC), (0xE, 0x10FFFF)]
  else [(0, 0x9), (0xB, 0x10FFFF)]

/-- The place of a condition. -/
def Modes.place (m : Modes) : Look → Place
  | .lineStart => if m.multiLine then .lineStart m.crlf else .textStart
  | .lineEnd => if m.multiLine then .lineEnd m.crlf else .textEnd
  | .textStart => .textStart
  | .textEnd => .textEnd
  | .boundary b => .boundary m.unicode b

/-- A literal on its own.  A character beyond ASCII stands for its bytes where bytes are matched, in
the case it is written in, but what is written as one such byte is refused. -/
def Literal.term? (m : Modes) (l : Literal) : Option Term :=
  if m.unicode || l.char.toNat < 0x80 then
    some (.ofSet m.alphabet (m.cased [charRange l.char l.char]))
  else if l.isByte then none
  else some (.literal [l.char])

/-- An atom on its own. -/
def Atom.term? (m : Modes) : Atom → Option Term
  | literal l => l.term? m
  | dot => if m.unicode then some (.ofSet .characters m.dotRanges) else none
  | look l => some (.place (m.place l))
  | a => (a.ranges? m).map (.ofSet m.alphabet)

mutual

/-- **What a tree means** in the flags before it, with the flags behind it.  `groups` counts the
groups that capture. -/
def Tree.term? (m : Modes) (groups : Nat) : Tree → Option (Term × Modes × Nat)
  | .empty => some (.empty, m, groups)
  | .atom a => (a.term? m).map fun term => (term, m, groups)
  | .brackets negated set => do
    let ranges ← m.closed? negated (← set.ranges? m)
    return (.ofSet m.alphabet ranges, m, groups)
  | .flags change => some (.empty, m.apply change, groups)
  | .repetition bounds greedy body => do
    let (term, _, groups) ← body.term? m groups
    return (.repeated bounds (greedy != m.swapGreed) term, m, groups)
  | .group true change body => do
    let (term, _, last) ← body.term? (m.apply change) (groups + 1)
    return (.capture (groups + 1) term, m, last)
  | .group false change body => do
    let (term, _, groups) ← body.term? (m.apply change) groups
    return (term, m, groups)
  | .concat parts => do
    let (terms, m, groups) ← terms? m groups parts
    return (.sequence terms, m, groups)
  | .alternation branches => do
    let (terms, m, groups) ← terms? m groups branches
    return (.choice terms, m, groups)

/-- What several trees mean, one after the other. -/
def terms? (m : Modes) (groups : Nat) : List Tree → Option (List Term × Modes × Nat)
  | [] => some ([], m, groups)
  | tree :: rest => do
    let (term, m, groups) ← tree.term? m groups
    let (terms, m, groups) ← terms? m groups rest
    return (term :: terms, m, groups)

end

end Pattern
end SchemaTypings
