import SchemaTypings.SchemaGraph.Naming

/-! # Changes to every node

Names are given by a part of what schemas say.  A change to every node that keeps this part can be
made before names are given, or afterwards: the names are the same.
-/
namespace SchemaTypings

/-- A change of one element is a change of its image, if the two fit. -/
theorem map_modify {α β : Type} {f : α → β} {change : α → α} {change' : β → β}
    (h : ∀ a, f (change a) = change' (f a)) (xs : Array α) (i : Nat) :
    (xs.modify i change).map f = (xs.map f).modify i change' := by
  refine Array.ext_getElem? fun j => ?_
  simp only [Array.getElem?_map, Array.getElem?_modify]
  split
  · cases xs[j]? with
    | none => rfl
    | some a => exact congrArg some (h a)
  · rfl

/-- **A change that keeps what names are taken from**, and leaves names that are given alone. -/
structure SchemaNode.KeepsNames (f : SchemaNode → SchemaNode) : Prop where
  empty : f { pointer := "" } = { pointer := "" }
  pointer : ∀ n, (f n).pointer = n.pointer
  definitionName : ∀ n, (f n).definitionName = n.definitionName
  nameHint : ∀ n, (f n).nameHint = n.nameHint
  parent : ∀ n, (f n).parent = n.parent
  standaloneName : ∀ n, (f n).standaloneName = n.standaloneName
  title : ∀ n, (f n).title? = n.title?
  identity : ∀ n, (f n).keywordText? "$id" = n.keywordText? "$id"
  ownName : ∀ n, (f n).keywordText? "name" = n.keywordText? "name"
  isClassShaped : ∀ n, (f n).isClassShaped = n.isClassShaped
  isEnumShaped : ∀ n, (f n).isEnumShaped = n.isEnumShaped
  assign : ∀ n name, f { n with standaloneName := name } = { f n with standaloneName := name }

namespace SchemaGraph

variable {f : SchemaNode → SchemaNode}

/-- The graph with every node changed. -/
def mapNodes (f : SchemaNode → SchemaNode) (g : SchemaGraph) : SchemaGraph :=
  { g with nodes := g.nodes.map f }

@[simp] theorem size_mapNodes (f : SchemaNode → SchemaNode) (g : SchemaGraph) :
    (g.mapNodes f).size = g.size := by
  simp [size, mapNodes]

@[simp] theorem ids_mapNodes (f : SchemaNode → SchemaNode) (g : SchemaGraph) :
    (g.mapNodes f).ids = g.ids := by
  rw [ids, size_mapNodes, ids]

@[simp] theorem root_mapNodes (f : SchemaNode → SchemaNode) (g : SchemaGraph) :
    (g.mapNodes f).root = g.root := rfl

theorem node_mapNodes (hempty : f { pointer := "" } = { pointer := "" }) (g : SchemaGraph)
    (id : SchemaId) : (g.mapNodes f).node id = f (g.node id) := by
  simp only [node, mapNodes, Array.getElem?_map]
  cases g.nodes[id]? with
  | none => exact hempty.symm
  | some n => rfl

section Names

variable (hf : SchemaNode.KeepsNames f)
include hf

theorem explicitName?_mapNodes (g : SchemaGraph) (id : SchemaId) :
    (g.mapNodes f).explicitName? id = g.explicitName? id := by
  have hreference : (g.mapNodes f).referenceName? id = g.referenceName? id := by
    rw [referenceName?, node_mapNodes hf.empty, hf.pointer, referenceName?]
    rfl
  simp only [explicitName?, hreference, node_mapNodes hf.empty, hf.title, hf.identity,
    hf.definitionName]

theorem derivableName?_mapNodes (g : SchemaGraph) (id : SchemaId) (rootName : String) :
    (g.mapNodes f).derivableName? id rootName = g.derivableName? id rootName := by
  simp only [derivableName?, explicitName?_mapNodes hf, node_mapNodes hf.empty, root_mapNodes,
    hf.title, hf.identity, hf.ownName, hf.nameHint]

theorem nearestName?_mapNodes (g : SchemaGraph) (steps : Nat) (id : Option SchemaId) :
    nearestName? (g.mapNodes f) steps id = nearestName? g steps id := by
  induction steps generalizing id with
  | zero => rfl
  | succ steps ih =>
    cases id with
    | none => rfl
    | some id =>
      rw [nearestName?, nearestName?, node_mapNodes hf.empty, ih, hf.standaloneName, hf.parent]

namespace Naming

omit hf in
/-- The names given so far, with every node changed. -/
def mapNodes (f : SchemaNode → SchemaNode) (n : Naming) : Naming := ⟨n.graph.mapNodes f, n.taken⟩

omit hf in
@[simp] theorem graph_mapNodes (n : Naming) : (n.mapNodes f).graph = n.graph.mapNodes f := rfl

omit hf in
@[simp] theorem taken_mapNodes (n : Naming) : (n.mapNodes f).taken = n.taken := rfl

theorem mapNodes_assign (n : Naming) (id : SchemaId) (name : String) :
    (n.assign id name).mapNodes f = (n.mapNodes f).assign id name := by
  simp only [assign, mapNodes, SchemaGraph.mapNodes, modifyNode]
  congr 2
  exact map_modify (fun node => hf.assign node (some name)) n.graph.nodes id

theorem isNamed_mapNodes (n : Naming) : (n.mapNodes f).isNamed = n.isNamed := by
  funext id
  simp only [isNamed, graph_mapNodes, node_mapNodes hf.empty, hf.standaloneName]

theorem hintName?_mapNodes (n : Naming) (id : SchemaId) :
    (n.mapNodes f).hintName? id = n.hintName? id := by
  simp only [hintName?, graph_mapNodes, taken_mapNodes, node_mapNodes hf.empty, size_mapNodes,
    nearestName?_mapNodes hf, hf.nameHint, hf.parent]

theorem mapNodes_synthesize (n : Naming) (id : SchemaId) :
    (n.synthesize id).mapNodes f = (n.mapNodes f).synthesize id := by
  rw [synthesize, synthesize, hintName?_mapNodes hf]
  split
  · exact mapNodes_assign hf ..
  · rfl

theorem mapNodes_nameRoot (rootName : String) (n : Naming) :
    (n.nameRoot rootName).mapNodes f = (n.mapNodes f).nameRoot rootName := by
  rw [nameRoot, nameRoot, graph_mapNodes, derivableName?_mapNodes hf, root_mapNodes]
  split
  · exact mapNodes_assign hf ..
  · rfl

theorem mapNodes_nameIfShaped (n : Naming) (id : SchemaId) :
    (n.nameIfShaped id).mapNodes f = (n.mapNodes f).nameIfShaped id := by
  simp only [nameIfShaped, graph_mapNodes, node_mapNodes hf.empty, hf.standaloneName,
    hf.isClassShaped, hf.isEnumShaped]
  split
  · rfl
  · exact mapNodes_synthesize hf n id

theorem mapNodes_nameFirst (n : Naming) (cycle : List SchemaId) :
    (n.nameFirst cycle).mapNodes f = (n.mapNodes f).nameFirst cycle := by
  induction cycle with
  | nil => rfl
  | cons id rest ih =>
    rw [nameFirst, nameFirst, hintName?_mapNodes hf]
    split
    · exact mapNodes_assign hf ..
    · exact ih

theorem mapNodes_breakCycle (n : Naming) (cycle : List SchemaId) :
    (n.breakCycle cycle).mapNodes f = (n.mapNodes f).breakCycle cycle := by
  rw [breakCycle, breakCycle, isNamed_mapNodes hf]
  split
  · rfl
  · exact mapNodes_nameFirst hf n cycle

omit hf in
/-- Steps that do not depend on the change, one after the other. -/
theorem mapNodes_foldl {α : Type} {step : Naming → α → Naming}
    (hstep : ∀ n a, (step n a).mapNodes f = step (n.mapNodes f) a) (list : List α) (n : Naming) :
    (list.foldl step n).mapNodes f = list.foldl step (n.mapNodes f) := by
  induction list generalizing n with
  | nil => rfl
  | cons a rest ih => rw [List.foldl_cons, List.foldl_cons, ih, hstep]

theorem mapNodes_nameExplicit (n : Naming) :
    n.nameExplicit.mapNodes f = (n.mapNodes f).nameExplicit := by
  simp only [nameExplicit, graph_mapNodes, ids_mapNodes, root_mapNodes, explicitName?_mapNodes hf]
  exact mapNodes_foldl (fun n entry => mapNodes_assign hf n entry.1 entry.2) _ n

theorem mapNodes_nameShaped (n : Naming) :
    n.nameShaped.mapNodes f = (n.mapNodes f).nameShaped := by
  rw [nameShaped, nameShaped, graph_mapNodes, ids_mapNodes]
  exact mapNodes_foldl (mapNodes_nameIfShaped hf) _ n

theorem mapNodes_nameCycles (n : Naming) :
    n.nameCycles.mapNodes f = (n.mapNodes f).nameCycles :=
  mapNodes_foldl (mapNodes_breakCycle hf) n.graph.cycles n

end Naming

/-- **Names do not depend on what the change changes.** -/
theorem mapNodes_assignNames (rootName : String) (g : SchemaGraph) :
    (g.assignNames rootName).mapNodes f = (g.mapNodes f).assignNames rootName := by
  rw [assignNames, assignNames, ← Naming.graph_mapNodes, Naming.mapNodes_nameCycles hf,
    Naming.mapNodes_nameShaped hf, Naming.mapNodes_nameExplicit hf, Naming.mapNodes_nameRoot hf,
    Naming.mapNodes]

/-- Normal forms of a graph under two options, which are the same apart from what the change
changes. -/
theorem mapNodes_normalize {o o' : Options}
    (h : ∀ n isRoot, f (SchemaNode.normalize o' isRoot n) = f (SchemaNode.normalize o isRoot n))
    (rootName : String) (g : SchemaGraph) :
    (g.normalize rootName o').mapNodes f = (g.normalize rootName o).mapNodes f := by
  have hnodes : (g.normalizeNodes o').mapNodes f = (g.normalizeNodes o).mapNodes f := by
    simp only [normalizeNodes, mapNodes]
    congr 1
    refine Array.ext_getElem? fun i => ?_
    simp only [Array.getElem?_map, Array.getElem?_mapIdx]
    cases g.nodes[i]? with
    | none => rfl
    | some n => simp only [Option.map_some, h]
  rw [normalize, normalize, mapNodes_assignNames hf, mapNodes_assignNames hf, hnodes]

end Names

end SchemaGraph
end SchemaTypings
