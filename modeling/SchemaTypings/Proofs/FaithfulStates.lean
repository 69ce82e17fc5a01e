import SchemaTypings.Proofs.Overlays
import SchemaTypings.Proofs.Visits

/-! # Places keep their nodes

Linking makes one node for each place that it meets and that is no bare reference, and remembers it
under the pointer of the place; so a place is met again as the same node, be it in the middle of
being expanded.  A node that is left represents what the schema at its pointer says in the end.
`Faithful` says so of a state, and stays true of one that `Retains` what the nodes say.
-/
namespace SchemaTypings

/-- A node without what a later visit may change. -/
def SchemaNode.said (n : SchemaNode) : SchemaNode :=
  { n with keyName := none, definitionName := none, cyclic := false }

namespace SchemaGraph

/-! ### What linking meets -/

/-- The pointers to which the value at a pointer leads: the target of a bare reference, or where
the schemas stand that it says. -/
def leads (root : Json) (pointer : String) (value : Json) : List String :=
  match Bundle.bareRef? value with
  | some target => [target]
  | none => (contents root pointer value).flatMap fun entry =>
      (below entry.1 entry.2.1).map (Pointer.build entry.2.2)

/-- **What linking meets**, from the root on. -/
inductive Meets (root : Json) : String → Prop
  | start : Meets root "#"
  | next {pointer other : String} {value : Json} (h : Meets root pointer)
      (hvalue : Pointer.resolve? root pointer = some value)
      (hother : other ∈ leads root pointer value) : Meets root other

/-- Whether the reference of a value, if it has one, leads to where it should: a bare one to what is
none, and one beside other keywords to an object. -/
def refersDirectly (root value : Json) : Bool :=
  match Bundle.bareRef? value with
  | some target => (Pointer.resolve? root target).any fun other => (Bundle.bareRef? other).isNone
  | none => match value.object?.bind Bundle.reference? with
    | some target => ((Pointer.resolve? root target).bind Json.object?).isSome
    | none => true

/-- **Every reference that linking meets leads to a schema at once.** -/
def Direct (root : Json) : Prop :=
  ∀ pointer value, Meets root pointer → Pointer.resolve? root pointer = some value →
    refersDirectly root value = true

/-- Pointers that lead only to one another are all that linking meets. -/
theorem Meets.mem_of_closed {root : Json} {pointers : List String} (hstart : "#" ∈ pointers)
    (hclosed : ∀ pointer ∈ pointers, ∀ value, Pointer.resolve? root pointer = some value →
      ∀ other ∈ leads root pointer value, other ∈ pointers)
    {pointer : String} (h : Meets root pointer) : pointer ∈ pointers := by
  induction h with
  | start => exact hstart
  | next _ hvalue hother ih => exact hclosed _ ih _ hvalue _ hother

/-- Whether these pointers are all that linking meets, and every reference there leads to a schema
at once. -/
def isDirectWithin (root : Json) (pointers : List String) : Bool :=
  pointers.contains "#" && pointers.all fun pointer =>
    match Pointer.resolve? root pointer with
    | some value =>
      refersDirectly root value &&
        (leads root pointer value).all fun other => pointers.contains other
    | none => true

theorem direct_of_isDirectWithin {root : Json} (pointers : List String)
    (h : isDirectWithin root pointers = true) : Direct root := by
  obtain ⟨hstart, hall⟩ := Bool.and_eq_true_iff.1 h
  have hpointer : ∀ {pointer value}, pointer ∈ pointers →
      Pointer.resolve? root pointer = some value → refersDirectly root value = true ∧
        ∀ other ∈ leads root pointer value, other ∈ pointers := by
    intro pointer value hmem hvalue
    have hone := List.all_eq_true.1 hall pointer hmem
    rw [hvalue] at hone
    obtain ⟨hdirect, hleads⟩ := Bool.and_eq_true_iff.1 hone
    exact ⟨hdirect, fun other hother => by simpa using List.all_eq_true.1 hleads other hother⟩
  intro pointer value hmeets hvalue
  refine (hpointer (hmeets.mem_of_closed (by simpa using hstart) ?_) hvalue).1
  exact fun _ hmem _ hvalue => (hpointer hmem hvalue).2

/-! ### Nodes of places -/

/-- A node of an array; an id out of range has an empty one. -/
def nodeAt (nodes : Array SchemaNode) (id : SchemaId) : SchemaNode :=
  nodes[id]?.getD { pointer := "" }

/-- **The node of a place** has the pointer of the place, or of what a bare reference there
names. -/
def NodeOf (root : Json) (nodes : Array SchemaNode) (pointer : String) (id : SchemaId) : Prop :=
  id < nodes.size ∧ ∃ value, Pointer.resolve? root pointer = some value ∧
    (nodeAt nodes id).pointer = (Bundle.bareRef? value).getD pointer

/-- **What a step retains**: nodes stay, with their pointers, and say the same unless they are in
`changed`. -/
structure Retains (changed : List SchemaId) (l m : Linked) : Prop where
  size : l.nodes.size ≤ m.nodes.size
  pointer : ∀ id < l.nodes.size, (nodeAt m.nodes id).pointer = (nodeAt l.nodes id).pointer
  said : ∀ id < l.nodes.size, id ∉ changed → (nodeAt m.nodes id).said = (nodeAt l.nodes id).said

variable {root : Json} {changed stack rest : List SchemaId}

theorem nodeAt_push (nodes : Array SchemaNode) (node : SchemaNode) :
    nodeAt (nodes.push node) nodes.size = node := by
  simp [nodeAt]

theorem nodeAt_modify (nodes : Array SchemaNode) (id other : SchemaId)
    (f : SchemaNode → SchemaNode) (hother : other < nodes.size) :
    nodeAt (nodes.modify id f) other =
      if id = other then f (nodeAt nodes other) else nodeAt nodes other := by
  rw [nodeAt, nodeAt, Array.getElem?_modify]
  by_cases heq : id = other
  · simp [heq, hother]
  · simp [heq]

namespace Retains

variable {l m k : Linked}

theorem refl (changed : List SchemaId) (l : Linked) : Retains changed l l :=
  ⟨Nat.le_refl _, fun _ _ => rfl, fun _ _ _ => rfl⟩

theorem trans (hlm : Retains changed l m) (hmk : Retains changed m k) : Retains changed l k where
  size := Nat.le_trans hlm.size hmk.size
  pointer := fun id hid =>
    (hmk.pointer id (Nat.lt_of_lt_of_le hid hlm.size)).trans (hlm.pointer id hid)
  said := fun id hid hnot =>
    (hmk.said id (Nat.lt_of_lt_of_le hid hlm.size) hnot).trans (hlm.said id hid hnot)

theorem widen (h : Retains [] l m) (changed : List SchemaId) : Retains changed l m :=
  ⟨h.size, h.pointer, fun id hid _ => h.said id hid List.not_mem_nil⟩

/-- What is retained when a node that was opened is left. -/
theorem leave (hlm : Retains [] l m) (hmk : Retains [l.nodes.size] m k) : Retains [] l k where
  size := Nat.le_trans hlm.size hmk.size
  pointer := fun other hother =>
    (hmk.pointer other (Nat.lt_of_lt_of_le hother hlm.size)).trans (hlm.pointer other hother)
  said := fun other hother hidle =>
    (hmk.said other (Nat.lt_of_lt_of_le hother hlm.size) fun hmem =>
      Nat.ne_of_lt hother (List.mem_singleton.1 hmem)).trans (hlm.said other hother hidle)

/-- The node of a place stays its node. -/
theorem nodeOf (h : Retains changed l m) {pointer : String} {id : SchemaId}
    (hid : NodeOf root l.nodes pointer id) : NodeOf root m.nodes pointer id := by
  obtain ⟨hlt, value, hvalue, hpointer⟩ := hid
  exact ⟨Nat.lt_of_lt_of_le hlt h.size, value, hvalue, (h.pointer id hlt).trans hpointer⟩

theorem push (l : Linked) (node : SchemaNode) : Retains [] l (l.push node) := by
  have hsame : ∀ id < l.nodes.size, nodeAt (l.push node).nodes id = nodeAt l.nodes id := by
    intro id hid
    rw [nodeAt, nodeAt, Linked.push, Array.getElem?_push, if_neg (Nat.ne_of_lt hid)]
  exact ⟨by simp [Linked.push], fun id hid => by rw [hsame id hid],
    fun id hid _ => by rw [hsame id hid]⟩

/-- Changing a node. -/
theorem modifyNode (l : Linked) (id : SchemaId) {f : SchemaNode → SchemaNode}
    (hpointer : ∀ node, (f node).pointer = node.pointer)
    (hsaid : id ∈ changed ∨ ∀ node, (f node).said = node.said) :
    Retains changed l (l.modifyNode id f) where
  size := by simp
  pointer := by
    intro other hother
    rw [Linked.modifyNode, nodeAt_modify l.nodes id other f hother]
    split
    · exact hpointer _
    · rfl
  said := by
    intro other hother hnot
    rw [Linked.modifyNode, nodeAt_modify l.nodes id other f hother]
    split
    · next heq => exact (hsaid.resolve_left fun hmem => hnot (heq ▸ hmem)) _
    · rfl

end Retains

/-! ### The invariant -/

/-- What the node of a place is like, apart from its subschemas and keywords. -/
structure Frames (root : Json) (node : SchemaNode) (value : Json) : Prop where
  found : Pointer.resolve? root node.pointer = some value
  bare : Bundle.bareRef? value = none
  boolean : node.boolean = booleanOf value
  leadsOn : node.unresolvedRef = none

/-- **The graph is faithful so far**, with the nodes of `stack` being expanded. -/
structure Faithful (root : Json) (stack : List SchemaId) (l : Linked) : Prop where
  own : ∀ id < l.nodes.size, l.byPointer.lookup (nodeAt l.nodes id).pointer = some id
  placed : ∀ pointer id, l.byPointer.lookup pointer = some id → NodeOf root l.nodes pointer id
  expanded : ∀ id ∈ stack, id < l.nodes.size
  framed : ∀ id < l.nodes.size, ∃ value, Frames root (nodeAt l.nodes id) value
  left : ∀ id < l.nodes.size, id ∉ stack → ∀ value, Frames root (nodeAt l.nodes id) value →
    Represents (NodeOf root l.nodes) (contents root (nodeAt l.nodes id).pointer value)
      (nodeAt l.nodes id)

/-- What a node represents is a matter of what it says. -/
theorem Represents.of_said {stands : String → SchemaId → Prop} {entries : Entries}
    {n m : SchemaNode} (h : Represents stands entries n) (hsaid : m.said = n.said) :
    Represents stands entries m := by
  have hn : Represents stands entries n.said :=
    ⟨fun field => by cases field <;> exact h.fields _, h.definitions, h.keywords⟩
  rw [← hsaid] at hn
  exact ⟨fun field => by cases field <;> exact hn.fields _, hn.definitions, hn.keywords⟩

theorem Takes.of_said {stands : String → SchemaId → Prop} {entry : String × Json × String}
    {n m k : SchemaNode} (h : Takes stands entry m k) (hsaid : m.said = n.said) :
    Takes stands entry n k := by
  have hm : Takes stands entry m.said k :=
    ⟨fun field => by cases field <;> exact h.fields _, h.definitions, h.keywords⟩
  rw [hsaid] at hm
  exact ⟨fun field => by cases field <;> exact hm.fields _, hm.definitions, hm.keywords⟩

theorem Frames.of_said {n m : SchemaNode} {value : Json} (h : Frames root n value)
    (hsaid : m.said = n.said) : Frames root m value := by
  have hn : Frames root n.said value := ⟨h.found, h.bare, h.boolean, h.leadsOn⟩
  rw [← hsaid] at hn
  exact ⟨hn.found, hn.bare, hn.boolean, hn.leadsOn⟩

/-- A step that changes nodes that are being expanded, and not what they are like, is faithful. -/
theorem Faithful.of_retains {l m : Linked} (h : Faithful root stack l)
    (hle : Retains changed l m) (hsize : m.nodes.size = l.nodes.size)
    (hplaces : m.byPointer = l.byPointer) (hchanged : ∀ id ∈ changed, id ∈ stack)
    (hframed : ∀ id ∈ changed, ∀ value, Frames root (nodeAt l.nodes id) value →
      Frames root (nodeAt m.nodes id) value) : Faithful root stack m where
  own := by
    intro id hid
    rw [hsize] at hid
    rw [hplaces, hle.pointer id hid]
    exact h.own id hid
  placed := fun pointer id hid => hle.nodeOf (h.placed pointer id (hplaces ▸ hid))
  expanded := fun id hid => hsize ▸ h.expanded id hid
  framed := by
    intro id hid
    rw [hsize] at hid
    obtain ⟨value, hvalue⟩ := h.framed id hid
    by_cases hmem : id ∈ changed
    · exact ⟨value, hframed id hmem value hvalue⟩
    · exact ⟨value, hvalue.of_said (hle.said id hid hmem)⟩
  left := by
    intro id hid hidle value hvalue
    rw [hsize] at hid
    have hsaid := hle.said id hid fun hmem => hidle (hchanged id hmem)
    rw [hle.pointer id hid]
    exact ((h.left id hid hidle value (hvalue.of_said hsaid.symm)).mono
      fun _ _ => hle.nodeOf).of_said hsaid

/-- **There is one node for each place.** -/
theorem Faithful.unique {l : Linked} (h : Faithful root stack l) (pointer : String)
    (id other : SchemaId) (hid : NodeOf root l.nodes pointer id)
    (hother : NodeOf root l.nodes pointer other) : id = other := by
  obtain ⟨hlt, value, hvalue, hpointer⟩ := hid
  obtain ⟨hlt', value', hvalue', hpointer'⟩ := hother
  obtain rfl := Option.some.inj (hvalue.symm.trans hvalue')
  have hsame := h.own other hlt'
  rw [hpointer', ← hpointer, h.own id hlt] at hsame
  exact Option.some.inj hsame

/-- The innermost node changes, but not what it is like. -/
theorem Faithful.modify_top {id : SchemaId} {l : Linked} (h : Faithful root (id :: rest) l)
    {f : SchemaNode → SchemaNode} (hf : ∀ node, (f node).pointer = node.pointer ∧
      (f node).boolean = node.boolean ∧ (f node).unresolvedRef = node.unresolvedRef) :
    Faithful root (id :: rest) (l.modifyNode id f) ∧
      Retains [id] l (l.modifyNode id f) := by
  have hle : Retains [id] l (l.modifyNode id f) :=
    .modifyNode l id (fun node => (hf node).1) (Or.inl List.mem_cons_self)
  refine ⟨h.of_retains hle (l.size_modifyNode id f) rfl (fun other hother => ?_) ?_, hle⟩
  · rw [List.mem_singleton.1 hother]
    exact List.mem_cons_self
  · intro other hother value hvalue
    rw [List.mem_singleton.1 hother] at hvalue ⊢
    have hnode : nodeAt (l.modifyNode id f).nodes id = f (nodeAt l.nodes id) := by
      rw [Linked.modifyNode, nodeAt_modify _ _ _ _ (h.expanded id List.mem_cons_self), if_pos rfl]
    obtain ⟨hpointer, hboolean, hreference⟩ := hf (nodeAt l.nodes id)
    rw [hnode]
    exact ⟨hpointer ▸ hvalue.found, hvalue.bare, hboolean.trans hvalue.boolean,
      hreference.trans hvalue.leadsOn⟩

/-- A node is left when it represents what its schema says. -/
theorem Faithful.pop {id : SchemaId} {l : Linked} (h : Faithful root (id :: stack) l)
    (hnew : ∀ value, Frames root (nodeAt l.nodes id) value →
      Represents (NodeOf root l.nodes) (contents root (nodeAt l.nodes id).pointer value)
        (nodeAt l.nodes id)) : Faithful root stack l where
  own := h.own
  placed := h.placed
  expanded := fun other hother => h.expanded other (List.mem_cons_of_mem _ hother)
  framed := h.framed
  left := by
    intro other hother hidle value hvalue
    by_cases heq : other = id
    · subst heq
      exact hnew value hvalue
    · exact h.left other hother (by simp [heq, hidle]) value hvalue

/-- Remembering a node for a place. -/
theorem Faithful.remember {l : Linked} (h : Faithful root stack l) {pointer : String}
    {id : SchemaId} (hid : NodeOf root l.nodes pointer id)
    (hnone : l.byPointer.lookup pointer = none) :
    Faithful root stack { l with byPointer := (pointer, id) :: l.byPointer } where
  own := by
    intro other hother
    have hown := h.own other hother
    rw [List.lookup_cons]
    split
    · next heq =>
      rw [beq_iff_eq] at heq
      rw [heq, hnone] at hown
      cases hown
    · exact hown
  placed := by
    intro other found hfound
    rw [List.lookup_cons] at hfound
    split at hfound
    · next heq =>
      cases hfound
      rw [beq_iff_eq] at heq
      exact heq ▸ hid
    · exact h.placed other found hfound
  expanded := h.expanded
  framed := h.framed
  left := h.left

/-- A node that is opened becomes the innermost one. -/
theorem Faithful.open_node {l : Linked} (h : Faithful root stack l) {node : SchemaNode}
    {value : Json} (hnode : Frames root node value)
    (hnone : l.byPointer.lookup node.pointer = none) :
    Faithful root (l.nodes.size :: stack)
      { l.push node with byPointer := (node.pointer, l.nodes.size) :: l.byPointer } := by
  have hle : Retains [] l (l.push node) := .push l node
  have hsize : (l.push node).nodes.size = l.nodes.size + 1 := by simp [Linked.push]
  have hnew : nodeAt (l.push node).nodes l.nodes.size = node := nodeAt_push l.nodes node
  have hcases : ∀ id < (l.push node).nodes.size, id < l.nodes.size ∨ id = l.nodes.size := by
    intro id hid
    rw [hsize] at hid
    exact Nat.lt_succ_iff_lt_or_eq.1 hid
  refine ⟨fun id hid => ?_, fun pointer id hid => ?_, fun id hid => ?_, fun id hid => ?_,
    fun id hid hidle value hvalue => ?_⟩
  · rw [List.lookup_cons]
    rcases hcases id hid with hlt | rfl
    · have hown := h.own id hlt
      rw [hle.pointer id hlt]
      split
      · next heq =>
        rw [beq_iff_eq] at heq
        rw [heq, hnone] at hown
        cases hown
      · exact hown
    · simp [hnew]
  · rw [List.lookup_cons] at hid
    split at hid
    · next heq =>
      cases hid
      rw [beq_iff_eq] at heq
      refine ⟨by simp [Linked.push], value, heq ▸ hnode.found, ?_⟩
      rw [hnode.bare, Option.getD_none, heq]
      exact congrArg SchemaNode.pointer hnew
    · exact hle.nodeOf (h.placed pointer id hid)
  · show id < (l.push node).nodes.size
    rw [hsize]
    rcases List.mem_cons.1 hid with rfl | hid
    · exact Nat.lt_succ_self _
    · exact Nat.lt_succ_of_lt (h.expanded id hid)
  · rcases hcases id hid with hlt | rfl
    · obtain ⟨value, hvalue⟩ := h.framed id hlt
      exact ⟨value, hvalue.of_said (hle.said id hlt List.not_mem_nil)⟩
    · exact ⟨value, hnew.symm ▸ hnode⟩
  · rcases hcases id hid with hlt | rfl
    · have hsaid := hle.said id hlt List.not_mem_nil
      have hleft := h.left id hlt (fun hmem => hidle (List.mem_cons_of_mem _ hmem)) value
        (hvalue.of_said hsaid.symm)
      have hpointer := hle.pointer id hlt
      show Represents (NodeOf root (l.push node).nodes)
        (contents root (nodeAt (l.push node).nodes id).pointer value) _
      rw [hpointer]
      exact (hleft.mono fun _ _ => hle.nodeOf).of_said hsaid
    · exact absurd List.mem_cons_self hidle

end SchemaGraph
end SchemaTypings
