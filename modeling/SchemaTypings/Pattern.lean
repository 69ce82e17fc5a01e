import SchemaTypings.Pattern.Machine
import SchemaTypings.Pattern.Meaning
import SchemaTypings.Pattern.Reader

/-! # Patterns

A text is a pattern when it can be read, nests at most 250 deep, keeps whole characters whole, and
has automata of moderate size.
-/
namespace SchemaTypings
namespace Pattern

/-- Whether a tree can be used as a pattern. -/
def Tree.isUsable (tree : Tree) : Bool :=
  tree.depth ≤ maxDepth && (tree.term? {} 0).any fun meaning => meaning.1.isModerate

/-- **Whether a text is a pattern.** -/
def isValid (text : String) : Bool := (Tree.read? text.toList).any Tree.isUsable

end Pattern
end SchemaTypings
