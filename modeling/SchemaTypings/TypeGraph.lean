import SchemaTypings.Json.Value

/-! # Type graphs

The types of a document form a graph: one node per schema that is reached, and further unnamed
nodes for the parts of a type.  Recursion is a cycle in the graph, so that a type is identified by
its id and never by its structure.
-/
namespace SchemaTypings

/-- The position of a type in its graph. -/
abbrev TypeId := Nat

/-- One entry of an enumeration. -/
structure EnumEntry where
  label : String
  value : Json
  deriving Repr

/-- One member of a class. -/
structure Member where
  key : String
  type : TypeId
  isRequired : Bool := false
  /-- Its key is a pattern, which no declaration shows. -/
  isPattern : Bool := false
  /-- It only keeps a definition alive, which no class shows. -/
  isUnreachable : Bool := false
  /-- It stands for all other keys. -/
  isIndex : Bool := false
  deriving DecidableEq, Repr

/-- Whether a member shows in its class. -/
def Member.isVisible (m : Member) : Bool := !m.isPattern && !m.isUnreachable

/-- **The kinds of types.** -/
inductive TypeKind where
  | any
  | unknown
  | null
  | boolean
  | number
  | string
  | literal (value : Json)
  | object
  | array (element : TypeId)
  /-- A list of elements of any length within the bounds; `spread` is the type of all further
  elements. -/
  | tuple (elements : List TypeId) (min : Nat) (max : Option Nat) (spread : Option TypeId)
  | union (members : List TypeId)
  | intersection (members : List TypeId)
  | enumeration (entries : List EnumEntry)
  | record (members : List Member) (bases : List TypeId)
  | reference (target : String)
  | custom (text : String)
  deriving Repr

namespace TypeKind

/-- **The types that a type is made of**, in order of declaration. -/
def children : TypeKind → List TypeId
  | .array element => [element]
  | .tuple elements _ _ spread => elements ++ spread.toList
  | .union members => members
  | .intersection members => members
  | .record members bases => members.map Member.type ++ bases
  | _ => []

/-- The bases of a class. -/
def bases : TypeKind → List TypeId
  | .record _ bases => bases
  | _ => []

/-- The members of a union, marked `true`, or of an intersection, marked `false`. -/
def operands? : TypeKind → Option (Bool × List TypeId)
  | .union members => some (true, members)
  | .intersection members => some (false, members)
  | _ => none

/-- Whether the kind is a class. -/
def isRecord : TypeKind → Bool
  | .record _ _ => true
  | _ => false

/-- Whether the kind is an enumeration. -/
def isEnumeration : TypeKind → Bool
  | .enumeration _ => true
  | _ => false

/-- Whether the kind is `any`. -/
def isAny : TypeKind → Bool
  | .any => true
  | _ => false

/-- Whether the kind is `unknown`. -/
def isUnknown : TypeKind → Bool
  | .unknown => true
  | _ => false

/-- Whether the kind is `object`. -/
def isObject : TypeKind → Bool
  | .object => true
  | _ => false

end TypeKind

/-- One type. -/
structure TypeNode where
  kind : TypeKind
  /-- The name under which it is declared. -/
  name : Option String := none
  /-- The property key under which it was first reached. -/
  key : Option String := none
  /-- The text of its doc comment. -/
  comment : Option String := none
  /-- The pointer of its schema. -/
  origin : Option String := none
  deriving Repr

/-- **A graph of types** with its root. -/
structure TypeGraph where
  nodes : Array TypeNode
  root : TypeId

namespace TypeGraph

/-- A node; an id out of range has an empty one. -/
def node (g : TypeGraph) (id : TypeId) : TypeNode := g.nodes[id]?.getD { kind := .any }

/-- The number of nodes. -/
def size (g : TypeGraph) : Nat := g.nodes.size

/-- The kind of a node. -/
def kind (g : TypeGraph) (id : TypeId) : TypeKind := (g.node id).kind

/-- The name of a node. -/
def name? (g : TypeGraph) (id : TypeId) : Option String := (g.node id).name

/-- The types that a node is made of. -/
def children (g : TypeGraph) (id : TypeId) : List TypeId := (g.kind id).children

/-- The graph with one node changed. -/
def modifyNode (g : TypeGraph) (id : TypeId) (change : TypeNode → TypeNode) : TypeGraph :=
  { g with nodes := g.nodes.modify id change }

/-- The graph with the kind of one node replaced. -/
def setKind (g : TypeGraph) (id : TypeId) (kind : TypeKind) : TypeGraph :=
  g.modifyNode id fun node => { node with kind }

@[simp] theorem size_modifyNode (g : TypeGraph) (id : TypeId) (change : TypeNode → TypeNode) :
    (g.modifyNode id change).size = g.size := by
  simp [size, modifyNode]

@[simp] theorem size_setKind (g : TypeGraph) (id : TypeId) (kind : TypeKind) :
    (g.setKind id kind).size = g.size := size_modifyNode ..

@[simp] theorem root_modifyNode (g : TypeGraph) (id : TypeId) (change : TypeNode → TypeNode) :
    (g.modifyNode id change).root = g.root := rfl

@[simp] theorem root_setKind (g : TypeGraph) (id : TypeId) (kind : TypeKind) :
    (g.setKind id kind).root = g.root := rfl

/-- Changing a node in range changes that node and no other. -/
theorem node_modifyNode (g : TypeGraph) (id : TypeId) (change : TypeNode → TypeNode)
    (other : TypeId) :
    (g.modifyNode id change).node other =
      if id = other ∧ other < g.size then change (g.node other) else g.node other := by
  simp only [node, modifyNode, size, Array.getElem?_modify]
  by_cases hid : id = other
  · by_cases hlt : other < g.nodes.size
    · simp [hid, hlt]
    · simp [hid, hlt]
  · simp [hid]

@[simp] theorem name?_setKind (g : TypeGraph) (id : TypeId) (kind : TypeKind) (other : TypeId) :
    (g.setKind id kind).name? other = g.name? other := by
  simp only [name?, setKind, node_modifyNode]
  split <;> rfl

theorem kind_setKind (g : TypeGraph) (id : TypeId) (kind : TypeKind) (other : TypeId) :
    (g.setKind id kind).kind other =
      if id = other ∧ other < g.size then kind else g.kind other := by
  simp only [TypeGraph.kind, setKind, node_modifyNode]
  split <;> rfl

/-- A type out of range has no name. -/
theorem lt_size_of_name? {g : TypeGraph} {id : TypeId} {name : String}
    (h : g.name? id = some name) : id < g.size := by
  refine Nat.not_le.1 fun hle => ?_
  rw [name?, node, Array.getElem?_eq_none hle] at h
  cases h

/-- A type out of range is of no kind of its own. -/
theorem lt_size_of_kind_ne {g : TypeGraph} {id : TypeId} (h : g.kind id ≠ .any) : id < g.size := by
  refine Nat.not_le.1 fun hle => h ?_
  rw [TypeGraph.kind, node, Array.getElem?_eq_none hle]
  rfl

/-- A type out of range has no parts. -/
theorem lt_size_of_mem_children {g : TypeGraph} {id part : TypeId} (h : part ∈ g.children id) :
    id < g.size := by
  refine Nat.not_le.1 fun hle => ?_
  rw [children, TypeGraph.kind, node, Array.getElem?_eq_none hle] at h
  cases h

/-- The bases of a class are parts of it. -/
theorem mem_children_of_mem_bases {g : TypeGraph} {id base : TypeId}
    (h : base ∈ (g.kind id).bases) : base ∈ g.children id := by
  rw [children]
  cases hkind : g.kind id with
  | record members bases =>
    rw [hkind] at h
    exact List.mem_append_right _ h
  | _ =>
    rw [hkind] at h
    cases h

end TypeGraph
end SchemaTypings
