import SchemaTypings.Proofs.CycleNames
import SchemaTypings.Proofs.MetPlaces
import SchemaTypings.Proofs.Visits

/-! # The ids of a schema graph are in range

Linking hands out the id of a node before its parts are linked, and writes ids of nodes that are
still being expanded into parents and cycles.  `Anchored` is what every step of the walk keeps of
them, whatever the document is: the nodes on the stack are there, a parent comes before its node,
and the members of a cycle are nodes on the stack.  Normalization then moves ids about and makes no
new ones.
-/
namespace SchemaTypings
namespace SchemaGraph

/-- **Every id of a graph is the id of a node**, and parents come before their children. -/
structure InRange (g : SchemaGraph) : Prop where
  root : g.root < g.size
  parents : ∀ id, ∀ parent ∈ (g.node id).parent, parent < id
  children : ∀ id, ∀ child ∈ g.children id, child < g.size
  cycles : ∀ cycle ∈ g.cycles, cycle ≠ [] ∧ ∀ member ∈ cycle, member < g.size

/-- **The ids by which a graph is looked at**: the root's, those of the nodes in creation order,
and those that nodes and cycles hold. -/
inductive Holds (g : SchemaGraph) : SchemaId → Prop where
  | root : Holds g g.root
  | node {id : SchemaId} (h : id ∈ g.ids) : Holds g id
  | parent {id parent : SchemaId} (h : parent ∈ (g.node id).parent) : Holds g parent
  | child {id child : SchemaId} (h : child ∈ g.children id) : Holds g child
  | member {cycle : List SchemaId} {id : SchemaId} (hcycle : cycle ∈ g.cycles) (h : id ∈ cycle) :
    Holds g id

/-- A node out of range is empty. -/
theorem lt_size_of_mem_parent {g : SchemaGraph} {id parent : SchemaId}
    (h : parent ∈ (g.node id).parent) : id < g.size := by
  refine Nat.not_le.1 fun hle => ?_
  rw [node, Array.getElem?_eq_none hle] at h
  cases h

namespace InRange

variable {g : SchemaGraph}

theorem lt_of_holds (h : g.InRange) {id : SchemaId} (hid : g.Holds id) : id < g.size := by
  cases hid with
  | root => exact h.root
  | node hid => exact List.mem_range.1 hid
  | parent hid => exact Nat.lt_trans (h.parents _ _ hid) (lt_size_of_mem_parent hid)
  | child hid => exact h.children _ _ hid
  | member hcycle hid => exact (h.cycles _ hcycle).2 _ hid

/-- **No look-up falls outside the graph.** -/
theorem getElem?_of_holds (h : g.InRange) {id : SchemaId} (hid : g.Holds id) :
    g.nodes[id]? = some (g.node id) := by
  have hlt : id < g.nodes.size := h.lt_of_holds hid
  simp [node, hlt]

end InRange

/-! ### Linking -/

/-- **What the walk keeps of the ids**, with the nodes of the stack being expanded. -/
structure Anchored (stack : List SchemaId) (l : Linked) : Prop where
  expanded : ∀ id ∈ stack, id < l.nodes.size
  parents : ∀ id, ∀ parent ∈ (nodeAt l.nodes id).parent, parent < id
  cycles : ∀ cycle ∈ l.cycles, cycle ≠ [] ∧ ∀ member ∈ cycle, member < l.nodes.size

namespace Anchored

variable {stack : List SchemaId} {l : Linked}

theorem start : Anchored [] ⟨#[], [], []⟩ :=
  ⟨by simp, by simp [nodeAt], by simp⟩

theorem modifyNode (h : Anchored stack l) (id : SchemaId) {f : SchemaNode → SchemaNode}
    (hf : ∀ node, (f node).parent = node.parent) : Anchored stack (l.modifyNode id f) where
  expanded := fun other hother => by
    rw [Linked.size_modifyNode]
    exact h.expanded other hother
  parents := by
    intro other parent hparent
    rw [nodeAt_modifyNode] at hparent
    split at hparent
    · exact h.parents other parent (hf _ ▸ hparent)
    · exact h.parents other parent hparent
  cycles := fun cycle hcycle => by
    rw [Linked.size_modifyNode]
    exact h.cycles cycle hcycle

/-- A node may be added that was reached from the stack. -/
theorem push (h : Anchored stack l) {node : SchemaNode} (hnode : ∀ p ∈ node.parent, p ∈ stack) :
    Anchored (l.nodes.size :: stack) (l.push node) where
  expanded := by
    intro id hid
    rw [Linked.push, Array.size_push]
    rcases List.mem_cons.1 hid with rfl | hid
    · exact Nat.lt_succ_self _
    · exact Nat.lt_succ_of_lt (h.expanded id hid)
  parents := by
    intro id parent hparent
    rw [nodeAt_push_eq] at hparent
    split at hparent
    · next heq => exact heq ▸ h.expanded parent (hnode parent hparent)
    · exact h.parents id parent hparent
  cycles := by
    intro cycle hcycle
    obtain ⟨hne, hmembers⟩ := h.cycles cycle hcycle
    refine ⟨hne, fun member hmember => ?_⟩
    rw [Linked.push, Array.size_push]
    exact Nat.lt_succ_of_lt (hmembers member hmember)

theorem pop {id : SchemaId} (h : Anchored (id :: stack) l) : Anchored stack l :=
  ⟨fun other hother => h.expanded other (List.mem_cons_of_mem _ hother), h.parents, h.cycles⟩

/-- The places that are remembered say nothing of ids. -/
theorem of_places (h : Anchored stack l) (places : List (String × SchemaId)) :
    Anchored stack { l with byPointer := places } := ⟨h.expanded, h.parents, h.cycles⟩

/-- A cycle of nodes on the stack may be recorded. -/
theorem record (h : Anchored stack l) {id : SchemaId} {members : List SchemaId}
    (hmembers : cycleOf? stack id = some members) :
    Anchored stack { l with cycles := l.cycles ++ [members] } where
  expanded := h.expanded
  parents := h.parents
  cycles := by
    intro cycle hcycle
    rcases List.mem_append.1 hcycle with hcycle | hcycle
    · exact h.cycles cycle hcycle
    rw [List.mem_singleton.1 hcycle]
    unfold cycleOf? at hmembers
    split at hmembers
    · next hid =>
      cases hmembers
      refine ⟨List.cons_ne_nil _ _, fun member hmember => h.expanded member ?_⟩
      rcases List.mem_cons.1 hmember with rfl | hmember
      · simpa using hid
      · exact (List.takeWhile_prefix _).subset (List.mem_reverse.1 hmember)
    · cases hmembers

end Anchored

variable {stack : List SchemaId}

theorem anchored_register (pointer : String) (id : SchemaId) :
    Keeps (Anchored stack) (register pointer id) := keeps_register fun _ hl _ => hl.of_places _

theorem anchored_change (id : SchemaId) {f : SchemaNode → SchemaNode}
    (hf : ∀ node, (f node).parent = node.parent) : Keeps (Anchored stack) (change id f) :=
  fun _ hl => yields_modify.2 (hl.modifyNode id hf)

theorem anchored_closeCycle (id : SchemaId) : Keeps (Anchored stack) (closeCycle stack id) :=
  keeps_closeCycle (fun member => anchored_change member fun _ => rfl)
    fun _ _ hmembers hl => hl.record hmembers

theorem anchored_addUnresolved (pointer target : String) {origin : Origin}
    (horigin : ∀ p ∈ origin.parent, p ∈ stack) :
    Keeps (Anchored stack) (addUnresolved pointer target origin) :=
  fun _ hl => yields_addNode _ (hl.push horigin).pop

theorem anchored_gather (root : Json) (id : SchemaId) (pointer : String) (object : Dict Json) :
    Keeps (Anchored stack) (gather root id pointer object) := by
  unfold gather
  split
  · exact keeps_pure _
  · exact keeps_pure _
  · exact keeps_bind (anchored_change id fun _ => rfl) fun _ => keeps_pure _

/-- **A keyword keeps what its visits keep**: they start at the node that has the keyword. -/
theorem anchored_linkKeyword {visit : Visit} {id : SchemaId}
    (hvisit : ∀ pointer value origin, (∀ p ∈ origin.parent, p ∈ id :: stack) →
      Keeps (Anchored (id :: stack)) (visit pointer value origin))
    (hint : Option String) (keyword : String) (value : Json) (base : String) :
    Keeps (Anchored (id :: stack)) (linkKeyword visit id hint keyword value base) := by
  obtain ⟨calls, absorb, ⟨-, hparent, habsorbs⟩, heq⟩ :=
    takesOn_linkKeyword id hint keyword value base
  rw [show linkKeyword visit id hint keyword value base = _ from heq visit, takeOn]
  refine keeps_bind (keeps_mapM fun call hcall => hvisit _ _ _ fun p hp => ?_)
    fun ids => anchored_change id (habsorbs.parent_eq ids)
  rw [hparent call hcall] at hp
  exact Option.mem_some.1 hp ▸ List.mem_cons_self

/-- What is below a node is reached from there. -/
theorem anchored_linkBelow {visit : Visit} {id : SchemaId}
    (hvisit : ∀ pointer value origin, (∀ p ∈ origin.parent, p ∈ id :: stack) →
      Keeps (Anchored (id :: stack)) (visit pointer value origin))
    (root : Json) (pointer : String) (hint : Option String) (value : Json) :
    Keeps (Anchored (id :: stack)) (linkBelow visit root id pointer hint value) := by
  cases value with
  | object object =>
    exact keeps_bind (anchored_gather root id pointer object) fun entries =>
      keeps_forM fun entry _ => anchored_linkKeyword hvisit hint entry.1 entry.2.1 entry.2.2
  | _ => exact keeps_pure _

/-- **Linking keeps the ids in range**, by induction on the levels. -/
theorem anchored_linkNode (root : Json) (limit levels : Nat) (stack : List SchemaId)
    (pointer : String) (value : Json) (origin : Origin) (horigin : ∀ p ∈ origin.parent, p ∈ stack) :
    Keeps (Anchored stack) (linkNode root limit levels stack pointer value origin) := by
  induction levels generalizing stack pointer value origin with
  | zero => exact fun _ _ => yields_throw
  | succ levels ih =>
    intro l hl
    refine yields_linkNode ?follow ?lost ?again ?new
    case follow =>
      -- the target of a bare reference is reached from the same node
      intro target targetValue _ _ _
      exact (ih stack target targetValue origin horigin l hl).mono
        fun id => anchored_register pointer id
    case lost =>
      intro target _ _
      exact (anchored_addUnresolved pointer target horigin l hl).mono
        fun id => anchored_register pointer id
    case again =>
      intro id _ _
      exact (anchored_closeCycle id l hl).mono fun _ =>
        anchored_change id (f := adopt origin) fun _ => rfl
    case new =>
      -- the node is there before anything below it is linked
      intro _ _
      refine (anchored_register pointer _ _ (hl.push horigin)).mono fun _ m hm => ?_
      exact (anchored_linkBelow (fun _ _ _ => ih _ _ _ _) root pointer origin.hint value m hm).mono
        fun _ _ hn => hn.pop

/-- **The ids of a linked graph are in range.** -/
theorem inRange_of_ofBundle {b : Bundle} {o : Options} {g : SchemaGraph}
    (h : ofBundle b o = .ok g) : g.InRange := by
  obtain ⟨hroot, -, hchildren, -⟩ := settled_of_ofBundle h
  obtain ⟨⟨root, l⟩, hrun, heq⟩ := bind_eq_ok_iff.1 h
  cases heq
  have hanchored : Anchored [] l := anchored_linkNode b.schema o.maxDepth (o.maxDepth + 1) [] "#"
    b.schema {} (fun _ hp => nomatch hp) _ .start _ _ hrun
  exact ⟨hroot, hanchored.parents, hchildren, hanchored.cycles⟩

/-! ### Normalizing -/

theorem InRange.normalizeNodes {g : SchemaGraph} (h : g.InRange) (o : Options) :
    (g.normalizeNodes o).InRange where
  root := (size_normalizeNodes o g).symm ▸ h.root
  parents := by
    intro id parent hparent
    have hid : id < g.size := size_normalizeNodes o g ▸ lt_size_of_mem_parent hparent
    rw [node_normalizeNodes o g hid, SchemaNode.parent_normalize] at hparent
    exact h.parents id parent hparent
  children := by
    intro id child hchild
    rw [size_normalizeNodes]
    exact h.children id child (mem_children_normalizeNodes hchild)
  cycles := by
    rw [size_normalizeNodes]
    exact h.cycles

/-- Names are no ids. -/
theorem InRange.renames {g h : SchemaGraph} (hg : g.InRange) (hgh : Renames g h) :
    h.InRange where
  root := by
    rw [hgh.root, hgh.size]
    exact hg.root
  parents := by
    intro id parent hparent
    rw [hgh.node id] at hparent
    exact hg.parents id parent hparent
  children := by
    intro id child hchild
    rw [hgh.children] at hchild
    rw [hgh.size]
    exact hg.children id child hchild
  cycles := by
    rw [hgh.cycles, hgh.size]
    exact hg.cycles

/-- **The ids of a normal graph are in range.** -/
theorem InRange.normalize {g : SchemaGraph} (h : g.InRange) (rootName : String) (o : Options) :
    (g.normalize rootName o).InRange :=
  (h.normalizeNodes o).renames (renames_assignNames rootName (g.normalizeNodes o))

end SchemaGraph
end SchemaTypings
