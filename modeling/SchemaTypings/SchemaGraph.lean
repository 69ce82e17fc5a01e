import SchemaTypings.Json.Value

/-! # Schema graphs

A linked document is a graph: one node per place that holds a schema, and every place that refers
to the same schema holds the same id.  Shared and recursive schemas are shared and cyclic nodes, so
later stages decide by identity and never by equality.
-/
namespace SchemaTypings

/-- The position of a node in its graph. -/
abbrev SchemaId := Nat

/-- `additionalProperties` and `additionalItems`: a switch, or a schema for the rest. -/
inductive Additional where
  | allowed (value : Bool)
  | schema (id : SchemaId)
  deriving DecidableEq, Repr

/-- `items`: one schema for every item, or one per position. -/
inductive Items where
  | each (id : SchemaId)
  | tuple (ids : List SchemaId)
  deriving DecidableEq, Repr

/-- **One schema.** -/
structure SchemaNode where
  /-- Where the schema stands in the bundled document. -/
  pointer : String
  /-- The property key under which it was first reached. -/
  keyName : Option String := none
  /-- Its key among definitions. -/
  definitionName : Option String := none
  /-- A name that the path of keys suggests. -/
  nameHint : Option String := none
  /-- The first schema it was reached from. -/
  parent : Option SchemaId := none
  /-- Whether it lies on a recorded cycle. -/
  cyclic : Bool := false
  /-- The target of a reference that leads nowhere. -/
  unresolvedRef : Option String := none
  /-- The value of a schema that is `true` or `false`. -/
  boolean : Option Bool := none
  /-- Every keyword that holds no subschema. -/
  keywords : Dict Json := []
  properties : Dict SchemaId := []
  patternProperties : Dict SchemaId := []
  additionalProperties : Option Additional := none
  definitions : Dict SchemaId := []
  items : Option Items := none
  additionalItems : Option Additional := none
  allOf : List SchemaId := []
  /-- Whether `allOf` lists nothing but bare references. -/
  allOfByRef : Bool := false
  anyOf : List SchemaId := []
  oneOf : List SchemaId := []
  /-- The schemas that this one extends. -/
  bases : List SchemaId := []
  /-- The name under which it is declared. -/
  standaloneName : Option String := none
  deriving Repr

namespace Additional

/-- The schema, if there is one. -/
def ids : Option Additional → List SchemaId
  | some (.schema id) => [id]
  | _ => []

end Additional

namespace Items

/-- The schemas of the items. -/
def ids : Option Items → List SchemaId
  | some (.each id) => [id]
  | some (.tuple ids) => ids
  | none => []

end Items

namespace SchemaNode

/-- The value of a keyword that holds no subschema. -/
def keyword? (n : SchemaNode) (keyword : String) : Option Json := n.keywords.get? keyword

/-- The text of a keyword. -/
def keywordText? (n : SchemaNode) (keyword : String) : Option String :=
  (n.keyword? keyword).bind Json.string?

/-- The node with a keyword set. -/
def setKeyword (n : SchemaNode) (keyword : String) (value : Json) : SchemaNode :=
  { n with keywords := n.keywords.insert keyword value }

/-- The node without a keyword. -/
def dropKeyword (n : SchemaNode) (keyword : String) : SchemaNode :=
  { n with keywords := n.keywords.erase keyword }

/-- The title. -/
def title? (n : SchemaNode) : Option String := n.keywordText? "title"

/-- The description. -/
def description? (n : SchemaNode) : Option String := n.keywordText? "description"

/-- The type text that replaces everything else. -/
def customType? (n : SchemaNode) : Option String := n.keywordText? "tsType"

/-- The names under `type`, in order. -/
def types (n : SchemaNode) : List String :=
  match n.keyword? "type" with
  | some (.string name) => [name]
  | some (.array names) => names.filterMap Json.string?
  | _ => []

/-- Whether `type` lists a name. -/
def hasType (n : SchemaNode) (name : String) : Bool := n.types.contains name

/-- The values of an enumeration. -/
def enumValues? (n : SchemaNode) : Option (List Json) := (n.keyword? "enum").bind Json.array?

/-- The names of required properties. -/
def required (n : SchemaNode) : List String :=
  match n.keyword? "required" with
  | some (.array names) => names.filterMap Json.string?
  | _ => []

/-- Whether a property is marked as required on itself. -/
def isRequired (n : SchemaNode) : Bool :=
  match n.keyword? "required" with
  | some (.bool true) => true
  | _ => false

/-- The least number of items. -/
def minItems? (n : SchemaNode) : Option Nat := (n.keyword? "minItems").bind Json.nat?

/-- The largest number of items. -/
def maxItems? (n : SchemaNode) : Option Nat := (n.keyword? "maxItems").bind Json.nat?

/-- Whether the schema describes arrays. -/
def isArrayShaped (n : SchemaNode) : Bool := n.hasType "array" || n.items.isSome

/-- Whether the schema describes objects with members, and so becomes a class. -/
def isClassShaped (n : SchemaNode) : Bool :=
  !n.properties.isEmpty || !n.patternProperties.isEmpty ||
    (match n.additionalProperties with
      | some (.schema _) => true
      | some (.allowed value) => value
      | none => false)

/-- Whether the schema describes objects. -/
def isObjectShaped (n : SchemaNode) : Bool :=
  n.hasType "object" || n.isClassShaped || n.additionalProperties.isSome

/-- Whether the schema lists its values. -/
def isEnumShaped (n : SchemaNode) : Bool := n.enumValues?.isSome

/-- **The subschemas of a schema**, in keyword order. -/
def children (n : SchemaNode) : List SchemaId :=
  n.properties.values ++ n.patternProperties.values ++ Additional.ids n.additionalProperties ++
    n.definitions.values ++ Items.ids n.items ++ Additional.ids n.additionalItems ++
    n.allOf ++ n.anyOf ++ n.oneOf ++ n.bases

end SchemaNode

/-- **A linked document.** -/
structure SchemaGraph where
  nodes : Array SchemaNode
  root : SchemaId
  /-- For every place that a reference leads to, the text of the first reference to it. -/
  referenceTexts : Dict String
  /-- The cycles that linking closed, each from the node re-entered to the one that led back. -/
  cycles : List (List SchemaId)

namespace SchemaGraph

/-- A node; an id out of range has an empty one. -/
def node (g : SchemaGraph) (id : SchemaId) : SchemaNode := g.nodes[id]?.getD { pointer := "" }

/-- The number of nodes. -/
def size (g : SchemaGraph) : Nat := g.nodes.size

/-- The ids, in creation order. -/
def ids (g : SchemaGraph) : List SchemaId := List.range g.size

/-- The subschemas of a node, in keyword order. -/
def children (g : SchemaGraph) (id : SchemaId) : List SchemaId := (g.node id).children

/-- The graph with one node changed. -/
def modifyNode (g : SchemaGraph) (id : SchemaId) (change : SchemaNode → SchemaNode) : SchemaGraph :=
  { g with nodes := g.nodes.modify id change }

@[simp] theorem size_modifyNode (g : SchemaGraph) (id : SchemaId) (change : SchemaNode → SchemaNode) :
    (g.modifyNode id change).size = g.size := by
  simp [size, modifyNode]

end SchemaGraph
end SchemaTypings
