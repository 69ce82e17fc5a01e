import SchemaTypings.Proofs.LaterStages
import SchemaTypings.Proofs.UndescribedGraphs
import SchemaTypings.Proofs.VisitsSideBySide

/-! # Types but for their comments

Types are made from two graphs that differ in descriptions alone by two runs that do the same, step
by step: they find and reserve the same types, and make the same kinds.  Only what they reserve
carries a comment, and no step looks at it again.
-/
namespace SchemaTypings

namespace TypeGraph

/-- **States that are the same but for comments.** -/
structure Growth.Alike (s t : Growth) : Prop where
  nodes : s.nodes.map TypeNode.uncommented = t.nodes.map TypeNode.uncommented
  typeOf : s.typeOf = t.typeOf
  placeholder : s.placeholder = t.placeholder

/-- **Runs that do the same but for comments.** -/
abbrev Similar {α : Type} (x y : Growing α) : Prop := Matches Growth.Alike x y Eq

namespace Similar

theorem addNode {n m : TypeNode} (h : n.uncommented = m.uncommented) :
    Similar (addNode n) (addNode m) := by
  intro s t hst
  have hsize : s.nodes.size = t.nodes.size := by
    simpa using congrArg Array.size hst.nodes
  refine ⟨hsize, ⟨?_, hst.typeOf, hst.placeholder⟩⟩
  show (s.nodes.push n).map _ = (t.nodes.push m).map _
  rw [Array.map_push, Array.map_push, hst.nodes, h]

theorem reserve (schema : SchemaId) {n m : TypeNode} (h : n.uncommented = m.uncommented) :
    Similar (reserve schema n) (reserve schema m) := by
  refine (addNode h).bind_eq fun id => ?_
  intro s t hst
  exact ⟨rfl, ⟨hst.nodes, congrArg ((schema, id) :: ·) hst.typeOf, hst.placeholder⟩⟩

theorem settle (id : TypeId) (kind : TypeKind) : Similar (settle id kind) (settle id kind) := by
  refine Matches.modify fun s t hst => ⟨?_, hst.typeOf, hst.placeholder⟩
  let change (n : TypeNode) : TypeNode := { n with kind }
  have hnodes : ∀ s : Growth, (s.nodes.modify id change).map TypeNode.uncommented =
      (s.nodes.map TypeNode.uncommented).modify id change :=
    fun s => map_modify (fun n => (rfl : (change n).uncommented = change n.uncommented)) s.nodes id
  exact (hnodes s).trans
    ((congrArg (fun nodes => nodes.modify id change) hst.nodes).trans (hnodes t).symm)

theorem addUnnamed (kind : TypeKind) : Similar (addUnnamed kind) (addUnnamed kind) := addNode rfl

theorem placeholderType (o : Options) : Similar (placeholderType o) (placeholderType o) := by
  refine Matches.get.bind fun s t hst => ?_
  rw [hst.placeholder]
  cases t.placeholder with
  | some id => exact .pure rfl
  | none =>
    refine (addUnnamed _).bind_eq fun id => Matches.bind_eq (Matches.modify fun s t hst => ?_)
      fun _ => .pure rfl
    exact ⟨hst.nodes, hst.typeOf, rfl⟩

theorem keptByAdditions (o : Options) : KeptByAdditions o Growth.Alike :=
  ⟨addUnnamed, placeholderType o⟩

/-- **The types of a schema are made alike** in graphs that differ in descriptions alone. -/
theorem ofNode {g h : SchemaGraph} (hsame : h.undescribed = g.undescribed) (o : Options)
    (levels : Nat) (id : SchemaId) : Similar (ofNode h o levels id) (ofNode g o levels id) := by
  induction levels generalizing id with
  | zero =>
    rw [TypeGraph.ofNode, TypeGraph.ofNode]
    refine Matches.get.bind fun s t hst => ?_
    rw [hst.typeOf]
    split <;> exact .pure rfl
  | succ levels ih =>
    rw [TypeGraph.ofNode, TypeGraph.ofNode]
    refine Matches.get.bind fun s t hst => ?_
    rw [hst.typeOf]
    split
    · exact .pure rfl
    · have hnode : (h.node id).undescribed = (g.node id).undescribed := by
        rw [← SchemaGraph.node_undescribed, hsame, SchemaGraph.node_undescribed]
      have hreserved : ∀ n : SchemaNode,
          (reservedNode n.undescribed).uncommented = (reservedNode n).uncommented := fun _ => rfl
      refine (reserve id (by rw [← hreserved, hnode, hreserved])).bind_eq fun type => ?_
      have hkind : TypeGraph.kindOf (TypeGraph.ofNode g o levels) h o id =
          TypeGraph.kindOf (TypeGraph.ofNode g o levels) g o id := by
        rw [← kindOf_undescribed, hsame, kindOf_undescribed]
      have hmade : Similar (kindOf (TypeGraph.ofNode h o levels) h o id)
          (kindOf (TypeGraph.ofNode g o levels) h o id) :=
        (keptByAdditions o).kindOf fun part _ => ih part
      refine Matches.bind_eq (hkind ▸ hmade) fun kind => ?_
      exact (settle type kind).bind_eq fun _ => .pure rfl

end Similar

/-- **The types of two graphs that differ in descriptions alone** differ in comments alone. -/
theorem uncommented_ofSchema {g h : SchemaGraph} (hsame : h.undescribed = g.undescribed)
    (o : Options) : (ofSchema h o).uncommented = (ofSchema g o).uncommented := by
  have hroot : h.root = g.root := by
    rw [← SchemaGraph.root_undescribed, hsame, SchemaGraph.root_undescribed]
  have hsize : h.size = g.size := by
    rw [← SchemaGraph.size_undescribed, hsame, SchemaGraph.size_undescribed]
  obtain ⟨htype, hgrowth⟩ := Similar.ofNode hsame o g.size g.root {} {} ⟨rfl, rfl, rfl⟩
  have hrun : ∀ g : SchemaGraph, (ofSchema g o).uncommented =
      ⟨((ofNode g o g.size g.root).run {}).2.nodes.map TypeNode.uncommented,
        ((ofNode g o g.size g.root).run {}).1⟩ := fun _ => rfl
  rw [hrun, hrun, hroot, hsize, htype, hgrowth.nodes]

end TypeGraph
end SchemaTypings
