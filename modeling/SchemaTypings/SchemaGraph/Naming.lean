import SchemaTypings.SchemaGraph.Name
import SchemaTypings.SchemaGraph.Normal

/-! # Standalone names

Names are given over the whole graph: the root's, then the names that schemas give themselves, then
names from the path of keys for classes and enumerations, and last one name for every cycle that
still has none.
-/
namespace SchemaTypings
namespace SchemaGraph

/-- A graph while names are given, with the names in use. -/
structure Naming where
  graph : SchemaGraph
  taken : List String

namespace Naming

/-- Gives a node a name. -/
def assign (n : Naming) (id : SchemaId) (name : String) : Naming :=
  { graph := n.graph.modifyNode id fun node => { node with standaloneName := some name }
    taken := name :: n.taken }

/-- Whether a node has a name. -/
def isNamed (n : Naming) (id : SchemaId) : Bool := (n.graph.node id).standaloneName.isSome

end Naming

/-- The name of the nearest schema above that has one.  Parents are created before their children,
so `steps` is enough when it is the number of nodes. -/
def nearestName? (g : SchemaGraph) : Nat → Option SchemaId → Option String
  | 0, _ => none
  | _ + 1, none => none
  | steps + 1, some id =>
    match (g.node id).standaloneName with
    | some name => some name
    | none => nearestName? g steps (g.node id).parent

namespace Naming

/-- The name that the hint of a node gives it.  One in use is put behind the name of the nearest
schema above that has one. -/
def hintName? (n : Naming) (id : SchemaId) : Option String :=
  match ((n.graph.node id).nameHint.map Identifier.ofText).bind Identifier.nonEmpty with
  | none => none
  | some hint =>
    if n.taken.contains hint then
      match nearestName? n.graph n.graph.size (n.graph.node id).parent with
      | some above => some (above ++ hint)
      | none => some hint
    else some hint

/-- Names a node after its hint, if it has one. -/
def synthesize (n : Naming) (id : SchemaId) : Naming :=
  match n.hintName? id with
  | some name => n.assign id name
  | none => n

/-- Names the root. -/
def nameRoot (rootName : String) (n : Naming) : Naming :=
  match n.graph.derivableName? n.graph.root rootName with
  | some name => n.assign n.graph.root name
  | none => n

/-- Gives every other node the name that it gives itself. -/
def nameExplicit (n : Naming) : Naming :=
  let explicit := (n.graph.ids.filter (· ≠ n.graph.root)).filterMap fun id =>
    (n.graph.explicitName? id).map fun name => (id, name)
  explicit.foldl (fun n (id, name) => n.assign id name) n

/-- Names a class or enumeration that has no name yet. -/
def nameIfShaped (n : Naming) (id : SchemaId) : Naming :=
  let node := n.graph.node id
  if node.standaloneName.isSome || !(node.isClassShaped || node.isEnumShaped) then n
  else n.synthesize id

/-- Names classes and enumerations that have no name yet. -/
def nameShaped (n : Naming) : Naming := n.graph.ids.foldl nameIfShaped n

/-- Names the first member of a cycle that has a hint. -/
def nameFirst (n : Naming) : List SchemaId → Naming
  | [] => n
  | id :: rest =>
    match n.hintName? id with
    | some name => n.assign id name
    | none => nameFirst n rest

/-- Names a member of a cycle, unless one is named. -/
def breakCycle (n : Naming) (cycle : List SchemaId) : Naming :=
  if cycle.any n.isNamed then n else n.nameFirst cycle

/-- Gives every cycle without a named member one. -/
def nameCycles (n : Naming) : Naming := n.graph.cycles.foldl breakCycle n

end Naming

/-- **Gives standalone names** over the whole graph. -/
def assignNames (rootName : String) (g : SchemaGraph) : SchemaGraph :=
  ((Naming.nameRoot rootName ⟨g, []⟩).nameExplicit.nameShaped.nameCycles).graph

/-- Every node in its normal form. -/
def normalizeNodes (o : Options) (g : SchemaGraph) : SchemaGraph :=
  { g with nodes := g.nodes.mapIdx fun id node => node.normalize o (id = g.root) }

/-- **The normal form of a graph**, with standalone names. -/
def normalize (rootName : String) (o : Options) (g : SchemaGraph) : SchemaGraph :=
  assignNames rootName (normalizeNodes o g)

end SchemaGraph
end SchemaTypings
