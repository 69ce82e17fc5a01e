import SchemaTypings.Pattern.Property

/-! # Patterns as trees

The parts of a regular expression as they are written, and how deep they nest.
-/
namespace SchemaTypings
namespace Pattern

/-- A character of a pattern. -/
structure Literal where
  char : Char
  /-- Written as `\x` with two digits, which stands for a byte where characters are bytes. -/
  isByte : Bool := false
  deriving DecidableEq, Repr

/-- A class with a letter of its own. -/
inductive Shorthand where
  | digit
  | space
  | word
  deriving DecidableEq, Repr

/-- A condition on a place by the words around it. -/
inductive Boundary where
  | edge
  | noEdge
  | start
  | stop
  /-- No word before the place. -/
  | startHalf
  /-- No word behind the place. -/
  | stopHalf
  deriving DecidableEq, Repr

/-- A condition on a place. -/
inductive Look where
  /-- The start of a line or of the text, as the flags say. -/
  | lineStart
  /-- The end of a line or of the text, as the flags say. -/
  | lineEnd
  | textStart
  | textEnd
  | boundary (b : Boundary)
  deriving DecidableEq, Repr

/-- The smallest parts of a pattern. -/
inductive Atom where
  | literal (l : Literal)
  /-- Any character. -/
  | dot
  | look (l : Look)
  | shorthand (kind : Shorthand) (negated : Bool)
  | property (p : Property) (negated : Bool)
  deriving DecidableEq, Repr

/-- A named class of ASCII characters. -/
inductive AsciiClass where
  | alnum
  | alpha
  | ascii
  | blank
  | cntrl
  | digit
  | graph
  | lower
  | print
  | punct
  | space
  | upper
  | word
  | xdigit
  deriving DecidableEq, Repr

/-- How two sets are combined in brackets. -/
inductive SetOperation where
  | intersection
  | difference
  | symmetricDifference
  deriving DecidableEq, Repr

mutual

/-- A member of a set in brackets. -/
inductive SetItem where
  | atom (a : Atom)
  | range (first last : Literal)
  | ascii (kind : AsciiClass) (negated : Bool)
  /-- A set in brackets of its own. -/
  | nested (negated : Bool) (set : BracketSet)

/-- What stands in brackets. -/
inductive BracketSet where
  | union (items : List SetItem)
  | combined (op : SetOperation) (left right : BracketSet)

end

/-- A letter that changes how the pattern is read from there on. -/
inductive Flag where
  | ignoreCase
  | multiLine
  | dotMatchesNewline
  | swapGreed
  | unicode
  | crlf
  | verbose
  deriving DecidableEq, Repr

/-- Flags that are switched on, and flags that are switched off. -/
structure FlagChange where
  on : List Flag := []
  off : List Flag := []
  deriving DecidableEq, Repr

/-- The state of a flag after a change. -/
def FlagChange.apply (change : FlagChange) (flag : Flag) (old : Bool) : Bool :=
  if change.on.contains flag then true else if change.off.contains flag then false else old

/-- How often a part may occur. -/
structure Bounds where
  least : Nat
  most : Option Nat
  deriving DecidableEq, Repr

/-- **A regular expression.** -/
inductive Tree where
  | empty
  | atom (a : Atom)
  /-- A set in brackets. -/
  | brackets (negated : Bool) (set : BracketSet)
  /-- A change of flags up to the end of the enclosing group. -/
  | flags (change : FlagChange)
  /-- A part several times, as often as possible where it is greedy. -/
  | repetition (bounds : Bounds) (greedy : Bool) (body : Tree)
  | group (captures : Bool) (change : FlagChange) (body : Tree)
  | concat (parts : List Tree)
  | alternation (branches : List Tree)

namespace Tree

/-- Parts one after the other; a single part stands for itself. -/
def ofParts : List Tree → Tree
  | [] => empty
  | [part] => part
  | parts => concat parts

/-- Alternatives; a single one stands for itself. -/
def ofBranches : List Tree → Tree
  | [branch] => branch
  | branches => alternation branches

end Tree

/-! ### Nesting -/

mutual

/-- How deep the sets of an item nest. -/
def SetItem.depth : SetItem → Nat
  | .atom _ | .range _ _ | .ascii _ _ => 0
  | .nested _ set => set.depth + 1

/-- How deep a set nests; two or more items, and an operation, are a level of their own. -/
def BracketSet.depth : BracketSet → Nat
  | .union items => if items.length ≤ 1 then itemsDepth items else itemsDepth items + 1
  | .combined _ left right => max left.depth right.depth + 1

/-- How deep the deepest item nests. -/
def itemsDepth : List SetItem → Nat
  | [] => 0
  | item :: rest => max item.depth (itemsDepth rest)

end

mutual

/-- How deep a tree nests. -/
def Tree.depth : Tree → Nat
  | .empty | .atom _ | .flags _ => 0
  | .brackets _ set => set.depth + 1
  | .repetition _ _ body | .group _ _ body => body.depth + 1
  | .concat parts | .alternation parts => partsDepth parts + 1

/-- How deep the deepest part nests. -/
def partsDepth : List Tree → Nat
  | [] => 0
  | part :: rest => max part.depth (partsDepth rest)

end

/-- How deep a pattern may nest. -/
def maxDepth : Nat := 250

end Pattern
end SchemaTypings
