import SchemaTypings.Proofs.BackEdges
import SchemaTypings.Proofs.FaithfulLinking
import SchemaTypings.Proofs.ReferenceTargets

/-! # Nodes and the places that linking meets

Whatever references there are in a document, every node stands at a pointer that linking meets, and
says whether the reference there leads on.  A node of a value that is no bare reference is
remembered under its pointer; only bare references that lead nowhere get a node at every visit.
`Accounted` says so of a state, and every step of the walk keeps it.
-/
namespace SchemaTypings
namespace SchemaGraph

open SchemaTypings.Bundle (bareRef? reference?)

/-! ### Keywords -/

/-- A change that leaves alone where a node stands, and what it says of its reference. -/
def SparesPlace (f : SchemaNode → SchemaNode) : Prop :=
  ∀ node, (f node).pointer = node.pointer ∧ (f node).unresolvedRef = node.unresolvedRef

/-- **A keyword keeps what its visits keep**, if the changes of the node do that keep its place. -/
theorem keeps_linkKeyword {I : Linked → Prop} {root : Json} {visit : Visit} {base keyword : String}
    {value : Json}
    (hvisit : ∀ segments ∈ below keyword value, ∀ child origin,
      Pointer.resolve? root (Pointer.build base segments) = some child →
        Keeps I (visit (Pointer.build base segments) child origin))
    (hvalue : Pointer.resolve? root (Pointer.build base [keyword]) = some value)
    (hkeys : root.hasDistinctKeys = true) (id : SchemaId) (hint : Option String)
    (hchange : ∀ f, SparesPlace f → Keeps I (change id f)) :
    Keeps I (linkKeyword visit id hint keyword value base) := by
  obtain ⟨calls, absorb, hlinks, heq⟩ := takesOnAt_linkKeyword id hint keyword value base
  rw [show linkKeyword visit id hint keyword value base = _ from heq visit, takeOn]
  refine keeps_bind (keeps_mapM fun call hcall => ?_) fun ids => hchange _ fun node =>
    ⟨hlinks.absorbs.pointer_eq ids node, (hlinks.absorbs.frame_eq ids node).2⟩
  obtain ⟨segments, hbelow, hpointer, hfound⟩ := hlinks.resolve? hkeys hvalue hcall
  rw [Visit.answer, hpointer]
  exact hvisit segments hbelow _ _ (hpointer ▸ hfound)

/-! ### Nodes so far -/

/-- **The target of a reference that leads nowhere**: a bare one to no value, or back to its own
place; or one beside other keywords to what is no object. -/
def lostTarget? (root : Json) (pointer : String) (value : Json) : Option String :=
  match bareRef? value with
  | some target =>
    if (Pointer.resolve? root target).isNone ∨ target = pointer then some target else none
  | none =>
    match value.object?.bind reference? with
    | some target =>
      if ((Pointer.resolve? root target).bind Json.object?).isNone then some target else none
    | none => none

/-- **A node of a value**: it stands where linking meets the value, and says whether the reference
there leads on.  A bare reference has a node of its own only if it does not. -/
structure IsNodeOf (root : Json) (node : SchemaNode) (value : Json) : Prop where
  met : Meets root node.pointer
  found : Pointer.resolve? root node.pointer = some value
  target : node.unresolvedRef = lostTarget? root node.pointer value
  lost : bareRef? value ≠ none → node.unresolvedRef ≠ none

/-- **Every node is one of a value**, and it is remembered unless the value is a bare reference. -/
structure Accounted (root : Json) (l : Linked) : Prop where
  nodes : ∀ id < l.nodes.size, ∃ value, IsNodeOf root (nodeAt l.nodes id) value
  own : ∀ id < l.nodes.size, ∀ value, IsNodeOf root (nodeAt l.nodes id) value →
    bareRef? value = none → l.byPointer.lookup (nodeAt l.nodes id).pointer = some id

variable {root : Json} {l : Linked}

theorem accounted_start (root : Json) : Accounted root ⟨#[], [], []⟩ :=
  ⟨fun _ h => absurd h (Nat.not_lt_zero _), fun _ h => absurd h (Nat.not_lt_zero _)⟩

theorem IsNodeOf.congr {n m : SchemaNode} {value : Json} (h : IsNodeOf root n value)
    (hpointer : m.pointer = n.pointer) (htarget : m.unresolvedRef = n.unresolvedRef) :
    IsNodeOf root m value where
  met := hpointer ▸ h.met
  found := hpointer ▸ h.found
  target := by rw [htarget, hpointer, h.target]
  lost := by
    rw [htarget]
    exact h.lost

/-- Nodes that stand where they stood, and say the same of their references. -/
theorem Accounted.of_same (h : Accounted root l) {m : Linked}
    (hsize : m.nodes.size = l.nodes.size) (hplaces : m.byPointer = l.byPointer)
    (hsame : ∀ id, (nodeAt m.nodes id).pointer = (nodeAt l.nodes id).pointer ∧
      (nodeAt m.nodes id).unresolvedRef = (nodeAt l.nodes id).unresolvedRef) :
    Accounted root m where
  nodes := by
    intro id hid
    obtain ⟨value, hvalue⟩ := h.nodes id (hsize ▸ hid)
    exact ⟨value, hvalue.congr (hsame id).1 (hsame id).2⟩
  own := by
    intro id hid value hvalue hbare
    rw [hplaces, (hsame id).1]
    exact h.own id (hsize ▸ hid) value (hvalue.congr (hsame id).1.symm (hsame id).2.symm) hbare

theorem Accounted.modifyNode (h : Accounted root l) (id : SchemaId) {f : SchemaNode → SchemaNode}
    (hf : SparesPlace f) : Accounted root (l.modifyNode id f) := by
  refine h.of_same (l.size_modifyNode id f) rfl fun other => ?_
  rw [nodeAt_modifyNode]
  split
  · exact hf _
  · exact ⟨rfl, rfl⟩

theorem lt_of_lt_push {node : SchemaNode} {id : SchemaId} (hid : id < (l.push node).nodes.size)
    (hne : id ≠ l.nodes.size) : id < l.nodes.size := by
  rw [Linked.push, Array.size_push] at hid
  exact Nat.lt_of_le_of_ne (Nat.le_of_lt_succ hid) hne

/-- A node is added, and remembered unless its value is a bare reference. -/
theorem Accounted.add (h : Accounted root l) {node : SchemaNode} {value : Json}
    (hnode : IsNodeOf root node value) {places : List (String × SchemaId)}
    (hold : ∀ pointer id, l.byPointer.lookup pointer = some id → places.lookup pointer = some id)
    (hown : bareRef? value = none → places.lookup node.pointer = some l.nodes.size) :
    Accounted root { l.push node with byPointer := places } where
  nodes := by
    intro id hid
    show ∃ value, IsNodeOf root (nodeAt (l.push node).nodes id) value
    rw [nodeAt_push_eq]
    split
    · exact ⟨value, hnode⟩
    · next hne =>
      exact h.nodes id (lt_of_lt_push hid hne)
  own := by
    intro id hid other hother hbare
    show places.lookup (nodeAt (l.push node).nodes id).pointer = some id
    replace hother : IsNodeOf root (nodeAt (l.push node).nodes id) other := hother
    rw [nodeAt_push_eq] at hother ⊢
    split at hother
    · next heq =>
      rw [if_pos heq, heq]
      have hsame := hnode.found.symm.trans hother.found
      exact hown (Option.some.inj hsame ▸ hbare)
    · next hne =>
      rw [if_neg hne]
      exact hold _ _ (h.own id (lt_of_lt_push hid hne) other hother hbare)

theorem accounted_register (pointer : String) (id : SchemaId) :
    Keeps (Accounted root) (register pointer id) := by
  refine keeps_register fun l hl hunknown => ⟨hl.nodes, fun other hother value hvalue hbare => ?_⟩
  have hown := hl.own other hother value hvalue hbare
  rw [List.lookup_cons]
  split
  · next heq =>
    rw [beq_iff_eq] at heq
    rw [heq, hunknown] at hown
    cases hown
  · exact hown

theorem accounted_change (id : SchemaId) {f : SchemaNode → SchemaNode} (hf : SparesPlace f) :
    Keeps (Accounted root) (change id f) :=
  fun _ hl => yields_modify.2 (hl.modifyNode id hf)

theorem accounted_closeCycle (stack : List SchemaId) (id : SchemaId) :
    Keeps (Accounted root) (closeCycle stack id) :=
  keeps_closeCycle (fun member => accounted_change member fun _ => ⟨rfl, rfl⟩)
    fun _ _ _ hl => hl.of_same rfl rfl fun _ => ⟨rfl, rfl⟩

/-- A bare reference that leads nowhere gets a node. -/
theorem accounted_addUnresolved {pointer target : String} {value : Json} (hmet : Meets root pointer)
    (hvalue : Pointer.resolve? root pointer = some value) (hbare : bareRef? value = some target)
    (hlost : (Pointer.resolve? root target).isNone ∨ target = pointer) (origin : Origin) :
    Keeps (Accounted root) (addUnresolved pointer target origin) := by
  intro l hl
  have hnode : IsNodeOf root
      { pointer, parent := origin.parent, keyName := origin.keyName, nameHint := origin.hint
        unresolvedRef := some target } value := by
    refine ⟨hmet, hvalue, ?_, fun _ => Option.some_ne_none target⟩
    rw [lostTarget?, hbare]
    exact (if_pos hlost).symm
  refine yields_addNode _ (hl.add hnode (fun _ _ hid => hid) fun hnone => ?_)
  rw [hbare] at hnone
  cases hnone

/-- Changing a node that was just added is adding it changed. -/
theorem modifyNode_push (l : Linked) (node : SchemaNode) (f : SchemaNode → SchemaNode)
    (places : List (String × SchemaId)) :
    Linked.modifyNode { l.push node with byPointer := places } l.nodes.size f =
      { l.push (f node) with byPointer := places } := by
  have hnodes : (l.nodes.push node).modify l.nodes.size f = l.nodes.push (f node) := by
    refine Array.ext (by simp) fun i hi hi' => ?_
    rw [Array.getElem_modify, Array.getElem_push, Array.getElem_push]
    by_cases heq : l.nodes.size = i
    · subst heq
      simp
    · have hlt : i < l.nodes.size := by
        rw [Array.size_push] at hi'
        omega
      simp [heq, hlt]
  rw [Linked.modifyNode]
  exact congrArg (fun nodes => (⟨nodes, places, l.cycles⟩ : Linked)) hnodes

/-- **Gathering marks the node** with the target of a reference that leads nowhere, and brings what
the schema says in the end. -/
theorem gather_eq_lost (hkeys : root.hasDistinctKeys = true) (id : SchemaId) {pointer : String}
    {object : Dict Json} (hobject : object.keys.Nodup) (hbare : bareRef? (.object object) = none) :
    gather root id pointer object = match lostTarget? root pointer (.object object) with
      | none => pure (contents root pointer (.object object))
      | some target => do
        change id fun node => { node with unresolvedRef := some target }
        return contents root pointer (.object object) := by
  rw [lostTarget?, hbare]
  cases hreference : reference? object with
  | none =>
    simp only [Json.object?, Option.bind_some, hreference]
    exact gather_eq hkeys id hobject fun target hsome => by
      rw [hreference] at hsome
      cases hsome
  | some target =>
    simp only [Json.object?, Option.bind_some, hreference]
    cases hother : (Pointer.resolve? root target).bind Json.object? with
    | none => exact gather_eq_mark id hobject hreference hother
    | some entries =>
      refine gather_eq hkeys id hobject fun other hsome => ?_
      cases hreference.symm.trans hsome
      obtain ⟨value, hvalue, hentries⟩ := Option.bind_eq_some_iff.1 hother
      cases value with
      | object others => exact ⟨others, hvalue⟩
      | _ => cases hentries

/-! ### The walk -/

/-- The promise of a visit to what stands at a pointer that linking meets. -/
def Visit.Accounts (visit : Visit) (root : Json) : Prop :=
  ∀ pointer value origin, Pointer.resolve? root pointer = some value → Meets root pointer →
    SchemaGraph.Keeps (Accounted root) (visit pointer value origin)

/-- What a schema says is linked. -/
theorem accounted_linkKeywords (hkeys : root.hasDistinctKeys = true) {visit : Visit}
    (hvisit : visit.Accounts root) {pointer : String} {value : Json}
    (hvalue : Pointer.resolve? root pointer = some value) (hmeets : Meets root pointer)
    (hbare : bareRef? value = none) (id : SchemaId) (hint : Option String) :
    Keeps (Accounted root) ((contents root pointer value).forM fun (keyword, child, base) =>
      linkKeyword visit id hint keyword child base) := by
  refine keeps_forM fun entry hentry => keeps_linkKeyword ?_
    (stands_of_mem_contents hkeys hvalue hentry) hkeys id hint fun f hf => accounted_change id hf
  exact fun segments hsegments child origin hchild => hvisit _ _ _ hchild
    (meets_of_mem_contents hmeets hvalue hbare hentry segments hsegments)

/-- A place that is reached for the first time gets a node, which is remembered there. -/
theorem Accounted.enter (h : Accounted root l) {node : SchemaNode} {value : Json}
    (hunknown : l.byPointer.lookup node.pointer = none) (hnode : IsNodeOf root node value) :
    Accounted root
      { l.push node with byPointer := (node.pointer, l.nodes.size) :: l.byPointer } := by
  refine h.add hnode (fun pointer id hid => ?_) fun _ => List.lookup_cons_self
  rw [List.lookup_cons]
  split
  · next heq =>
    rw [beq_iff_eq] at heq
    rw [heq, hunknown] at hid
    cases hid
  · exact hid

/-- The keywords of a node that was just added are gathered, and the node is marked as it should. -/
theorem yields_gather_lost (hkeys : root.hasDistinctKeys = true) (h : Accounted root l)
    (node : SchemaNode) {object : Dict Json} (hmeets : Meets root node.pointer)
    (hvalue : Pointer.resolve? root node.pointer = some (.object object))
    (hbare : bareRef? (.object object) = none) (hblank : node.unresolvedRef = none)
    (hunknown : l.byPointer.lookup node.pointer = none) :
    Yields (gather root l.nodes.size node.pointer object)
      { l.push node with byPointer := (node.pointer, l.nodes.size) :: l.byPointer }
      fun entries m => Accounted root m ∧ entries = contents root node.pointer (.object object) := by
  rw [gather_eq_lost hkeys _ (nodup_keys_of_resolve? hkeys hvalue) hbare]
  split
  · next hlost =>
    exact yields_pure.2
      ⟨h.enter hunknown ⟨hmeets, hvalue, hblank.trans hlost.symm, (absurd hbare ·)⟩, rfl⟩
  · next target hlost =>
    refine yields_bind.2 (yields_modify.2 (yields_pure.2 ⟨?_, rfl⟩))
    rw [modifyNode_push]
    have hnode : IsNodeOf root { node with unresolvedRef := some target } (.object object) :=
      ⟨hmeets, hvalue, hlost.symm, (absurd hbare ·)⟩
    refine h.enter ?_ hnode
    exact hunknown

/-- What is below a node that was just added is linked; what is no object has no reference. -/
theorem yields_linkBelow_accounted (hkeys : root.hasDistinctKeys = true) {visit : Visit}
    (hvisit : visit.Accounts root) (h : Accounted root l) (node : SchemaNode) {value : Json}
    (hmeets : Meets root node.pointer) (hvalue : Pointer.resolve? root node.pointer = some value)
    (hbare : bareRef? value = none) (hblank : node.unresolvedRef = none)
    (hunknown : l.byPointer.lookup node.pointer = none) (hint : Option String) :
    Yields (linkBelow visit root l.nodes.size node.pointer hint value)
      { l.push node with byPointer := (node.pointer, l.nodes.size) :: l.byPointer }
      fun _ m => Accounted root m := by
  cases value with
  | object object =>
    refine yields_bind.2
      ((yields_gather_lost hkeys h node hmeets hvalue hbare hblank hunknown).mono ?_)
    rintro entries m ⟨hm, rfl⟩
    exact accounted_linkKeywords hkeys hvisit hvalue hmeets hbare _ _ m hm
  | _ => exact yields_pure.2 (h.enter hunknown ⟨hmeets, hvalue, hblank, (absurd hbare ·)⟩)

/-- **Every visit keeps account of the nodes.**  By induction on the levels. -/
theorem accounts_linkNode (hkeys : root.hasDistinctKeys = true) (limit levels : Nat)
    (stack : List SchemaId) : Visit.Accounts (linkNode root limit levels stack) root := by
  induction levels generalizing stack with
  | zero => exact fun _ _ _ _ _ _ _ => yields_throw
  | succ levels ih =>
    intro pointer value origin hvalue hmeets l hl
    refine yields_linkNode ?follow ?lost ?again ?new
    case follow =>
      intro target targetValue hbare htarget _
      have htargetMeets : Meets root target := hmeets.next hvalue (by
        rw [leads, hbare]
        exact List.mem_singleton_self _)
      exact (ih stack _ _ origin htarget htargetMeets l hl).mono fun id => accounted_register _ id
    case lost =>
      intro target hbare hlost
      exact (accounted_addUnresolved hmeets hvalue hbare
        (hlost.imp_left Option.isNone_iff_eq_none.2) origin l hl).mono fun id =>
          accounted_register _ id
    case again =>
      intro id _ _
      exact (accounted_closeCycle stack id l hl).mono fun _ =>
        accounted_change id (f := adopt origin) fun _ => ⟨rfl, rfl⟩
    case new =>
      intro hbare hunknown
      exact (yields_register_new (l := l.push _) hunknown).2 (yields_linkBelow_accounted hkeys (ih _)
        hl (openedNode pointer value origin) hmeets hvalue hbare rfl hunknown origin.hint)

/-- **In a linked graph every node is accounted for.** -/
theorem accounted_of_ofBundle {b : Bundle} {o : Options} {g : SchemaGraph}
    (hkeys : b.schema.hasDistinctKeys = true) (h : ofBundle b o = .ok g) :
    ∃ l, walk b o = .ok (g.root, l) ∧ l.nodes = g.nodes ∧
      (∀ id < g.size, ∃ value, IsNodeOf b.schema (g.node id) value) ∧
      ∀ id < g.size, ∀ value, IsNodeOf b.schema (g.node id) value → bareRef? value = none →
        l.byPointer.lookup (g.node id).pointer = some id := by
  obtain ⟨l, hwalk, hnodes, -⟩ := exists_walk h
  have hvisit := accounts_linkNode hkeys o.maxDepth (o.maxDepth + 1) []
  have haccounted : Accounted b.schema l :=
    hvisit "#" b.schema {} rfl .start _ (accounted_start b.schema) _ _ hwalk
  refine ⟨l, hwalk, hnodes, ?_, ?_⟩
  · have hall := haccounted.nodes
    rwa [hnodes] at hall
  · have hown := haccounted.own
    rwa [hnodes] at hown

end SchemaGraph
end SchemaTypings
