import SchemaTypings.Error
import SchemaTypings.Pattern
import SchemaTypings.SchemaGraph.Name

/-! # Violations of a graph

The structural preconditions of a linked schema.  Every violation is collected: first those of the
root name, then those of each node in creation order, then cycles without a name.
-/
namespace SchemaTypings
namespace SchemaGraph

/-- A root without a usable name. -/
def rootViolations (g : SchemaGraph) (rootName : String) : List Violation :=
  if (g.derivableName? g.root rootName).isSome then []
  else if (Identifier.ofText rootName).isEmpty && !rootName.isEmpty then
    [.unusableRootName rootName]
  else [.noRootName]

/-- Names that are required but are only patterns. -/
def requiredViolations (n : SchemaNode) : List Violation :=
  (n.required.filter fun name =>
    n.patternProperties.contains name && !n.properties.contains name).map
      (.requiredPattern n.pointer)

/-- A bound that is no natural number. -/
def countViolations (n : SchemaNode) : List Violation :=
  ["minItems", "maxItems"].flatMap fun keyword =>
    match n.keyword? keyword with
    | some value => if value.nat?.isNone then [.badCount n.pointer keyword value] else []
    | none => []

/-- A largest number of items below the least one. -/
def boundViolations (n : SchemaNode) : List Violation :=
  match n.minItems?, n.maxItems? with
  | some min, some max => if max < min then [.reversedBounds n.pointer max min] else []
  | _, _ => []

/-- A deprecation mark that is no boolean. -/
def deprecatedViolations (n : SchemaNode) : List Violation :=
  match n.keyword? "deprecated" with
  | some value => if value.isBool then [] else [.badDeprecated n.pointer]
  | none => []

/-- Pattern keys that are no patterns. -/
def patternViolations (n : SchemaNode) : List Violation :=
  (n.patternProperties.keys.filter fun key => !Pattern.isValid key).map (.badPattern n.pointer)

/-- A reference that leads nowhere. -/
def referenceViolations (n : SchemaNode) : List Violation :=
  match n.unresolvedRef with
  | some target => [.unresolvedReference n.pointer target]
  | none => []

/-- An enumeration without values. -/
def enumViolations (n : SchemaNode) : List Violation :=
  match n.enumValues? with
  | some [] => [.emptyEnum n.pointer]
  | _ => []

/-- The violations of one node. -/
def nodeViolations (n : SchemaNode) : List Violation :=
  requiredViolations n ++ countViolations n ++ boundViolations n ++ deprecatedViolations n ++
    patternViolations n ++ referenceViolations n ++ enumViolations n

/-- A cycle none of whose members can be named. -/
def cycleViolations (g : SchemaGraph) (rootName : String) (cycle : List SchemaId) :
    List Violation :=
  if cycle.all fun id => (g.derivableName? id rootName).isNone then
    [.unnamedCycle (g.node (cycle.head?.getD 0)).pointer]
  else []

/-- **The violations of a graph**; empty when there are none. -/
def violations (g : SchemaGraph) (rootName : String) : List Violation :=
  g.rootViolations rootName ++ g.nodes.toList.flatMap nodeViolations ++
    g.cycles.flatMap (g.cycleViolations rootName)

end SchemaGraph
end SchemaTypings
