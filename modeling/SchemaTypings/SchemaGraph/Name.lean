import SchemaTypings.Identifier
import SchemaTypings.SchemaGraph

/-! # Names of schemas

A schema can get a name from its title, its identity, its key among definitions, the reference that
leads to it, or the path of keys; the first of these that leaves an identifier counts.
-/
namespace SchemaTypings
namespace SchemaGraph

/-- The first candidate that leaves an identifier. -/
def firstUsable (candidates : List (Option String)) : Option String :=
  (candidates.filterMap id).find? fun name => !name.isEmpty

/-- The name that the first reference to a schema suggests. -/
def referenceName? (g : SchemaGraph) (id : SchemaId) : Option String :=
  (g.referenceTexts.get? (g.node id).pointer).bind Identifier.ofReference?

/-- The name that a schema gives itself. -/
def explicitName? (g : SchemaGraph) (id : SchemaId) : Option String :=
  let node := g.node id
  firstUsable [
    node.title?.map Identifier.ofText,
    (node.keywordText? "$id").bind Identifier.ofReference?,
    node.definitionName.map Identifier.ofText,
    g.referenceName? id]

/-- **The best name for a schema.**  The root falls back on its `name` keyword and then on the
caller's name for it, every other schema on its hint. -/
def derivableName? (g : SchemaGraph) (id : SchemaId) (rootName : String) : Option String :=
  let node := g.node id
  if id = g.root then
    firstUsable [
      node.title?.map Identifier.ofText,
      (node.keywordText? "$id").bind Identifier.ofReference?,
      (node.keywordText? "name").map Identifier.ofText,
      some (Identifier.ofText rootName)]
  else firstUsable [g.explicitName? id, node.nameHint.map Identifier.ofText]

/-- A usable name is never empty. -/
theorem ne_empty_of_firstUsable {candidates : List (Option String)} {name : String}
    (h : firstUsable candidates = some name) : name ≠ "" := by
  have := List.find?_some h
  simpa [String.isEmpty_iff] using this

end SchemaGraph
end SchemaTypings
