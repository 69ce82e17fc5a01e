import Mathlib.Data.List.Chain
import Mathlib.Data.List.Rotate
import SchemaTypings.Proofs.Stateful
import SchemaTypings.Proofs.Visits

/-! # What linking knows of cycles

Linking walks a document depth first and records a cycle when it comes back to a node that is still
being expanded.  Other cycles are not recorded, but none escapes: once a node is left, everything
below it is `Settled`, which is to say that from it no path goes on for ever without the closing
step of a recorded cycle.  So every cycle of a linked graph has such a step.
-/
namespace SchemaTypings
namespace SchemaGraph

/-- The step from `last` back to `first` closes one of the cycles. -/
def Closes (cycles : List (List SchemaId)) (last first : SchemaId) : Prop :=
  ∃ cycle ∈ cycles, cycle.head? = some first ∧ cycle.getLast? = some last

theorem Closes.mono {cycles more : List (List SchemaId)} {last first : SchemaId}
    (h : Closes cycles last first) (hsub : ∀ cycle ∈ cycles, cycle ∈ more) :
    Closes more last first := by
  obtain ⟨cycle, hcycle, hends⟩ := h
  exact ⟨cycle, hsub cycle hcycle, hends⟩

namespace Linked

/-- The subschemas that a node has so far. -/
def parts (l : Linked) (id : SchemaId) : List SchemaId :=
  (l.nodes[id]?.getD { pointer := "" }).children

/-- A node out of range has no parts. -/
theorem lt_of_mem_parts {l : Linked} {id part : SchemaId} (h : part ∈ l.parts id) :
    id < l.nodes.size := by
  refine Nat.not_le.1 fun hle => ?_
  rw [parts, Array.getElem?_eq_none hle] at h
  cases h

/-- **Settled**: a node that is not being expanded, all of whose parts are settled or lead back by
the closing step of a recorded cycle. -/
inductive Settled (l : Linked) (stack : List SchemaId) : SchemaId → Prop where
  | intro {id : SchemaId} (hlt : id < l.nodes.size) (hidle : id ∉ stack)
      (hparts : ∀ part ∈ l.parts id, ¬ Closes l.cycles id part → Settled l stack part) :
      Settled l stack id

theorem Settled.lt {stack : List SchemaId} {l : Linked} {id : SchemaId}
    (h : l.Settled stack id) : id < l.nodes.size := by
  cases h
  assumption

/-- No node has a standalone name yet. -/
def Unnamed (l : Linked) : Prop :=
  ∀ id : SchemaId, (l.nodes[id]?.getD { pointer := "" }).standaloneName = none

/-- **Growing**: nodes stay, with their parts unless they are in `changed`, and so do cycles; and
no standalone names are given. -/
structure Le (changed : List SchemaId) (l m : Linked) : Prop where
  size : l.nodes.size ≤ m.nodes.size
  parts : ∀ id < l.nodes.size, id ∉ changed → m.parts id = l.parts id
  cycles : ∀ cycle ∈ l.cycles, cycle ∈ m.cycles
  unnamed : l.Unnamed → m.Unnamed

/-- A state with the same nodes and more cycles. -/
theorem Le.of_nodes {changed : List SchemaId} {l m : Linked} (hnodes : m.nodes = l.nodes)
    (hcycles : ∀ cycle ∈ l.cycles, cycle ∈ m.cycles) : Le changed l m where
  size := by rw [hnodes]
  parts := fun id _ _ => by rw [Linked.parts, Linked.parts, hnodes]
  cycles := hcycles
  unnamed := fun h id => by rw [hnodes]; exact h id

theorem Le.refl (changed : List SchemaId) (l : Linked) : Le changed l l :=
  .of_nodes rfl fun _ h => h

theorem Le.trans {changed : List SchemaId} {l m n : Linked} (hlm : Le changed l m)
    (hmn : Le changed m n) : Le changed l n where
  size := Nat.le_trans hlm.size hmn.size
  parts := fun id hid hc =>
    (hmn.parts id (Nat.lt_of_lt_of_le hid hlm.size) hc).trans (hlm.parts id hid hc)
  cycles := fun cycle h => hmn.cycles cycle (hlm.cycles cycle h)
  unnamed := fun h => hmn.unnamed (hlm.unnamed h)

theorem Le.widen {changed more : List SchemaId} {l m : Linked} (h : Le changed l m)
    (hsub : ∀ id ∈ changed, id ∈ more) : Le more l m where
  size := h.size
  parts := fun id hid hc => h.parts id hid fun hmem => hc (hsub id hmem)
  cycles := h.cycles
  unnamed := h.unnamed

/-- A settled node stays settled while nodes that are being expanded change and others are opened
or left. -/
theorem Settled.mono {stack stack' : List SchemaId} {l m : Linked} {id : SchemaId}
    (h : l.Settled stack id) (hle : Le stack l m)
    (hstack : ∀ other < l.nodes.size, other ∈ stack' → other ∈ stack) : m.Settled stack' id := by
  induction h with
  | @intro id hlt hidle hparts ih =>
    refine .intro (Nat.lt_of_lt_of_le hlt hle.size) (fun hmem => hidle (hstack id hlt hmem)) ?_
    intro part hpart hcloses
    rw [hle.parts id hlt hidle] at hpart
    exact ih part hpart fun hc => hcloses (hc.mono hle.cycles)

/-- **What linking keeps**, with the nodes of `stack` being expanded. -/
structure Inv (stack : List SchemaId) (l : Linked) : Prop where
  expanded : ∀ id ∈ stack, id < l.nodes.size
  left : ∀ id < l.nodes.size, id ∉ stack → l.Settled stack id
  parts : ∀ id ∈ stack, ∀ part ∈ l.parts id, ¬ Closes l.cycles id part → l.Settled stack part
  inRange : ∀ id, ∀ part ∈ l.parts id, part < l.nodes.size
  registered : ∀ pointer id, l.byPointer.lookup pointer = some id → id < l.nodes.size

/-- **What a visit brings back** to the innermost node of the stack: a settled node, or one that
the step from there leads back to. -/
structure Brought (stack : List SchemaId) (l : Linked) (id : SchemaId) : Prop where
  lt : id < l.nodes.size
  settled : (∀ top ∈ stack.head?, ¬ Closes l.cycles top id) → l.Settled stack id

theorem Brought.mono {stack : List SchemaId} {l m : Linked} {id : SchemaId}
    (h : Brought stack l id) (hle : Le stack l m) : Brought stack m id where
  lt := Nat.lt_of_lt_of_le h.lt hle.size
  settled := fun hclose =>
    (h.settled fun top htop hc => hclose top htop (hc.mono hle.cycles)).mono hle fun _ _ h => h

end Linked

/-- The promise of a visit: it keeps the invariant, changes the parts of no node that was there, and
brings back what may be a part of the innermost node. -/
def Visit.Keeps (visit : Visit) (stack : List SchemaId) : Prop :=
  ∀ pointer value origin l, Linked.Inv stack l →
    Yields (visit pointer value origin) l fun id m =>
      Linked.Inv stack m ∧ Linked.Le [] l m ∧ Linked.Brought stack m id

/-! ### Changing nodes -/

namespace Linked

theorem parts_modifyNode (l : Linked) (id : SchemaId) (f : SchemaNode → SchemaNode)
    (other : SchemaId) :
    (l.modifyNode id f).parts other =
      if id = other ∧ other < l.nodes.size then (f (l.nodes[id]?.getD { pointer := "" })).children
      else l.parts other := by
  simp only [parts, modifyNode, Array.getElem?_modify]
  by_cases hid : id = other
  · by_cases hlt : other < l.nodes.size
    · simp [hid, hlt]
    · simp [hid, hlt]
  · simp [hid]

@[simp] theorem size_modifyNode (l : Linked) (id : SchemaId) (f : SchemaNode → SchemaNode) :
    (l.modifyNode id f).nodes.size = l.nodes.size := by
  simp [modifyNode]

/-- A change of anything but parts and places keeps the invariant, also when it records cycles. -/
theorem Inv.of_le {stack : List SchemaId} {l m : Linked} (h : Inv stack l) (hle : Le [] l m)
    (hsize : m.nodes.size = l.nodes.size) (hplaces : m.byPointer = l.byPointer) :
    Inv stack m where
  expanded := fun id hid => hsize ▸ h.expanded id hid
  left := fun id hid hidle =>
    (h.left id (hsize ▸ hid) hidle).mono (hle.widen (by simp)) fun _ _ h => h
  parts := by
    intro id hid part hpart hcloses
    rw [hle.parts id (h.expanded id hid) (by simp)] at hpart
    exact (h.parts id hid part hpart fun hc => hcloses (hc.mono hle.cycles)).mono
      (hle.widen (by simp)) fun _ _ h => h
  inRange := by
    intro id part hpart
    have hid := hsize ▸ lt_of_mem_parts hpart
    rw [hle.parts id hid (by simp)] at hpart
    exact hsize ▸ h.inRange id part hpart
  registered := fun pointer id hid => hsize ▸ h.registered pointer id (hplaces ▸ hid)

theorem Unnamed.modifyNode {l : Linked} (h : l.Unnamed) (id : SchemaId)
    {f : SchemaNode → SchemaNode}
    (hf : ∀ node, (f node).standaloneName = node.standaloneName) :
    (l.modifyNode id f).Unnamed := by
  intro other
  have hother := h other
  simp only [Linked.modifyNode, Array.getElem?_modify]
  by_cases hid : id = other
  · cases hnode : l.nodes[other]? with
    | none => simp [hid]
    | some node =>
      rw [hnode] at hother
      simpa [hid, hnode, hf] using hother
  · simpa [hid] using hother

/-- A change of a node that leaves its parts alone. -/
theorem le_modifyNode (l : Linked) (id : SchemaId) {f : SchemaNode → SchemaNode}
    (hf : ∀ node, (f node).children = node.children ∧
      (f node).standaloneName = node.standaloneName) : Le [] l (l.modifyNode id f) where
  size := Nat.le_of_eq (size_modifyNode l id f).symm
  parts := by
    intro other hother _
    rw [parts_modifyNode]
    split
    · next hid => rw [(hf _).1, hid.1]; rfl
    · rfl
  cycles := fun _ h => h
  unnamed := fun h => h.modifyNode id fun node => (hf node).2

/-- The innermost node takes on parts that were brought back to it. -/
theorem Inv.modify_top {id : SchemaId} {rest : List SchemaId} {l : Linked}
    (h : Inv (id :: rest) l) {f : SchemaNode → SchemaNode}
    (hname : ∀ node, (f node).standaloneName = node.standaloneName)
    (hf : ∀ node, ∀ part ∈ (f node).children,
      part ∈ node.children ∨ Brought (id :: rest) l part) :
    Inv (id :: rest) (l.modifyNode id f) ∧ Le [id] l (l.modifyNode id f) := by
  have hle : Le [id] l (l.modifyNode id f) := by
    refine ⟨Nat.le_of_eq (size_modifyNode l id f).symm, ?_, fun _ h => h,
      fun h => h.modifyNode id hname⟩
    intro other _ hother
    rw [parts_modifyNode, if_neg fun hc => hother (by simp [hc.1])]
  have hkeep : ∀ {other}, l.Settled (id :: rest) other →
      (l.modifyNode id f).Settled (id :: rest) other := by
    intro other hsettled
    exact hsettled.mono (hle.widen (by simp)) fun _ _ h => h
  refine ⟨⟨?_, ?_, ?_, ?_, ?_⟩, hle⟩
  · intro other hother
    rw [size_modifyNode]
    exact h.expanded other hother
  · intro other hother hidle
    rw [size_modifyNode] at hother
    exact hkeep (h.left other hother hidle)
  · intro other hother part hpart hcloses
    rw [parts_modifyNode] at hpart
    split at hpart
    · next hid =>
      obtain ⟨rfl, -⟩ := hid
      rcases hf _ part hpart with hold | hnew
      · exact hkeep (h.parts id hother part hold hcloses)
      · exact hkeep (hnew.settled fun top htop => by
          cases htop
          exact hcloses)
    · exact hkeep (h.parts other hother part hpart hcloses)
  · intro other part hpart
    rw [size_modifyNode]
    rw [parts_modifyNode] at hpart
    split at hpart
    · next hid =>
      rcases hf _ part hpart with hold | hnew
      · exact h.inRange id part hold
      · exact hnew.lt
    · exact h.inRange other part hpart
  · intro pointer other hother
    rw [size_modifyNode]
    exact h.registered pointer other hother

end Linked

/-! ### Keywords -/

/-- What the linking of a keyword of the innermost node keeps. -/
def KeepsTop (id : SchemaId) (rest : List SchemaId) {α : Type} (x : Linking α) : Prop :=
  ∀ l, Linked.Inv (id :: rest) l → Yields x l fun _ m =>
    Linked.Inv (id :: rest) m ∧ Linked.Le [id] l m

variable {visit : Visit} {id : SchemaId} {rest : List SchemaId}

/-- The innermost node takes on parts that were brought back to it. -/
theorem yields_change {l : Linked} (hl : Linked.Inv (id :: rest) l)
    {f : SchemaNode → SchemaNode}
    (hname : ∀ node, (f node).standaloneName = node.standaloneName)
    (hf : ∀ node, ∀ part ∈ (f node).children,
      part ∈ node.children ∨ Linked.Brought (id :: rest) l part) :
    Yields (change id f) l fun _ m => Linked.Inv (id :: rest) m ∧ Linked.Le [id] l m :=
  yields_modify.2 (hl.modify_top hname hf)

/-- Changing the innermost node without touching its parts. -/
theorem keepsTop_change {f : SchemaNode → SchemaNode}
    (hf : ∀ node, (f node).children = node.children ∧
      (f node).standaloneName = node.standaloneName) : KeepsTop id rest (change id f) :=
  fun _ hl => yields_change hl (fun node => (hf node).2) fun node _ hpart =>
    Or.inl ((hf node).1 ▸ hpart)

theorem keepsTop_pure {α : Type} (a : α) : KeepsTop id rest (pure a : Linking α) :=
  fun l hl => yields_pure.2 ⟨hl, .refl [id] l⟩

/-- **A keyword keeps the invariant**: its schemas are visited first, and become parts of the
innermost node afterwards. -/
theorem keepsTop_linkKeyword (hvisit : visit.Keeps (id :: rest)) (hint : Option String)
    (keyword : String) (value : Json) (base : String) :
    KeepsTop id rest (linkKeyword visit id hint keyword value base) := by
  intro l hl
  obtain ⟨calls, absorb, hlinks, heq⟩ := takesOn_linkKeyword id hint keyword value base
  rw [show linkKeyword visit id hint keyword value base = _ from heq visit, takeOn]
  refine yields_bind.2 (Yields.mono (yields_mapM
    (Q := fun _ part m => Linked.Brought (id :: rest) m part) (Linked.Le.refl []) Linked.Le.trans
    (fun {_ _ _ _} hle h => Linked.Brought.mono h (hle.widen (by simp)))
    (fun call _ l hl => hvisit _ _ _ l hl) hl) ?_)
  rintro ids m ⟨hm, hle, hall⟩
  have hbrought : ∀ part ∈ ids, Linked.Brought (id :: rest) m part := by
    intro part hpart
    obtain ⟨-, -, h⟩ := exists_left_of_forall₂ hall part hpart
    exact h
  refine (yields_change hm (hlinks.absorbs.standaloneName_eq ids) fun node part hpart => ?_).mono ?_
  · exact (hlinks.absorbs.mem_of_mem_children hall.length_eq.symm hpart).imp_right (hbrought part)
  · rintro - n ⟨hn, hmn⟩
    exact ⟨hn, (hle.widen (by simp)).trans hmn⟩

/-- Gathering the keywords of the innermost node at most marks it. -/
theorem keepsTop_gather (root : Json) (pointer : String) (object : Dict Json) :
    KeepsTop id rest (gather root id pointer object) := by
  unfold gather
  split
  · exact keepsTop_pure _
  · exact keepsTop_pure _
  · next target _ =>
    intro l hl
    rw [yields_bind]
    refine (keepsTop_change (f := fun node => { node with unresolvedRef := some target })
      (fun _ => ⟨rfl, rfl⟩) l hl).mono fun _ m hm => yields_pure.2 hm

/-- What is below the innermost node is linked. -/
theorem keepsTop_linkBelow (hvisit : visit.Keeps (id :: rest)) (root : Json) (pointer : String)
    (hint : Option String) (value : Json) :
    KeepsTop id rest (linkBelow visit root id pointer hint value) := by
  cases value with
  | object object =>
    intro l hl
    refine yields_bind.2 ((keepsTop_gather root pointer object l hl).mono ?_)
    rintro entries m ⟨hm, hlm⟩
    refine yields_forM (I := fun n => Linked.Inv (id :: rest) n ∧ Linked.Le [id] l n) ?_ ⟨hm, hlm⟩
    rintro entry - n ⟨hn, hln⟩
    refine (keepsTop_linkKeyword hvisit hint entry.1 entry.2.1 entry.2.2 n hn).mono ?_
    rintro - k ⟨hk, hnk⟩
    exact ⟨hk, hln.trans hnk⟩
  | _ => exact keepsTop_pure _

/-! ### Nodes -/

namespace Linked

theorem parts_push (l : Linked) (node : SchemaNode) (other : SchemaId) :
    (l.push node).parts other = if other = l.nodes.size then node.children else l.parts other := by
  simp only [parts, push, Array.getElem?_push]
  split
  · rfl
  · rfl

theorem le_push (l : Linked) {node : SchemaNode} (hnode : node.standaloneName = none) :
    Le [] l (l.push node) where
  size := by simp [push]
  parts := by
    intro id hid _
    rw [parts_push, if_neg (Nat.ne_of_lt hid)]
  cycles := fun _ h => h
  unnamed := by
    intro h id
    have hid := h id
    simp only [push, Array.getElem?_push]
    split
    · exact hnode
    · exact hid

/-- A node without parts that is opened becomes the innermost one. -/
theorem Inv.push_top {stack : List SchemaId} {l : Linked} (h : Inv stack l) {node : SchemaNode}
    (hnode : node.children = []) (hname : node.standaloneName = none) :
    Inv (l.nodes.size :: stack) (l.push node) := by
  have hkeep : ∀ {other}, l.Settled stack other →
      (l.push node).Settled (l.nodes.size :: stack) other := by
    intro other hsettled
    refine hsettled.mono ((l.le_push hname).widen (by simp)) fun old hold hmem => ?_
    exact (List.mem_cons.1 hmem).resolve_left (Nat.ne_of_lt hold)
  have hsize : (l.push node).nodes.size = l.nodes.size + 1 := by simp [push]
  have hlt : ∀ id, id < l.nodes.size → id < (l.push node).nodes.size := by
    intro id hid
    rw [hsize]
    exact Nat.lt_succ_of_lt hid
  refine ⟨?_, ?_, ?_, ?_, ?_⟩
  · intro id hid
    rcases List.mem_cons.1 hid with rfl | hid
    · rw [hsize]
      exact Nat.lt_succ_self _
    · exact hlt id (h.expanded id hid)
  · intro id hid hidle
    rw [List.mem_cons, not_or] at hidle
    rw [hsize] at hid
    exact hkeep (h.left id (Nat.lt_of_le_of_ne (Nat.le_of_lt_succ hid) hidle.1) hidle.2)
  · intro id hid part hpart hcloses
    rw [parts_push] at hpart
    split at hpart
    · rw [hnode] at hpart
      cases hpart
    · next hne =>
      exact hkeep (h.parts id ((List.mem_cons.1 hid).resolve_left hne) part hpart hcloses)
  · intro id part hpart
    rw [parts_push] at hpart
    split at hpart
    · rw [hnode] at hpart
      cases hpart
    · exact hlt part (h.inRange id part hpart)
  · exact fun pointer id hid => hlt id (h.registered pointer id hid)

/-- A node is left: its parts are settled, and so it is. -/
theorem Inv.pop {id : SchemaId} {stack : List SchemaId} {l : Linked} (h : Inv (id :: stack) l)
    (hnew : id ∉ stack) : Inv stack l ∧ l.Settled stack id := by
  have hkeep : ∀ {other}, l.Settled (id :: stack) other → l.Settled stack other :=
    fun hsettled => hsettled.mono (.refl _ l) fun _ _ hmem => List.mem_cons_of_mem _ hmem
  have hid : l.Settled stack id :=
    .intro (h.expanded id (List.mem_cons_self ..)) hnew fun part hpart hcloses =>
      hkeep (h.parts id (List.mem_cons_self ..) part hpart hcloses)
  refine ⟨⟨?_, ?_, ?_, h.inRange, h.registered⟩, hid⟩
  · exact fun other hother => h.expanded other (List.mem_cons_of_mem _ hother)
  · intro other hother hidle
    by_cases heq : other = id
    · exact heq ▸ hid
    · exact hkeep (h.left other hother (by simp [heq, hidle]))
  · intro other hother part hpart hcloses
    exact hkeep (h.parts other (List.mem_cons_of_mem _ hother) part hpart hcloses)

end Linked

/-- What a visit that ends well does. -/
def Visited (stack : List SchemaId) (l : Linked) (id : SchemaId) (m : Linked) : Prop :=
  Linked.Inv stack m ∧ Linked.Le [] l m ∧ Linked.Brought stack m id

variable {stack : List SchemaId} {l : Linked}

/-- A place is registered for a node that is there. -/
theorem Linked.Inv.register (h : Linked.Inv stack l) {pointer : String} {id : SchemaId}
    (hid : id < l.nodes.size) :
    Linked.Inv stack { l with byPointer := (pointer, id) :: l.byPointer } := by
  have hle : Linked.Le stack l { l with byPointer := (pointer, id) :: l.byPointer } :=
    .of_nodes rfl fun _ h => h
  refine ⟨h.expanded, ?_, ?_, h.inRange, ?_⟩
  · exact fun other hother hidle => (h.left other hother hidle).mono hle fun _ _ h => h
  · intro other hother part hpart hcloses
    exact (h.parts other hother part hpart hcloses).mono hle fun _ _ h => h
  · intro other found hfound
    rw [List.lookup_cons] at hfound
    split at hfound
    · cases hfound
      exact hid
    · exact h.registered other found hfound

theorem yields_register (pointer : String) {id : SchemaId} (hl : Linked.Inv stack l)
    (hid : id < l.nodes.size) :
    Yields (register pointer id) l fun _ m =>
      Linked.Inv stack m ∧ Linked.Le [] l m ∧ m.nodes.size = l.nodes.size := by
  refine yields_modify.2 ?_
  split
  · exact ⟨hl, .refl [] l, rfl⟩
  · exact ⟨hl.register hid, .of_nodes rfl fun _ h => h, rfl⟩

/-- A node without parts that is left at once is settled. -/
theorem Linked.Inv.push_left (hl : Linked.Inv stack l) {node : SchemaNode}
    (hnode : node.children = []) (hname : node.standaloneName = none) :
    Visited stack l l.nodes.size (l.push node) := by
  have hnew : l.nodes.size ∉ stack := fun hmem => Nat.lt_irrefl _ (hl.expanded _ hmem)
  obtain ⟨hm, hsettled⟩ := (hl.push_top hnode hname).pop hnew
  exact ⟨hm, l.le_push hname, hsettled.lt, fun _ => hsettled⟩

/-- A reference that leads nowhere gets a node of its own. -/
theorem Linked.Inv.addUnresolved (hl : Linked.Inv stack l) (pointer target : String)
    (origin : Origin) :
    Yields (addUnresolved pointer target origin) l (Visited stack l) :=
  yields_addNode _ (hl.push_left rfl rfl)

/-- A cycle is recorded from the node that is re-entered to the innermost one. -/
theorem ends_of_cycleOf? {id : SchemaId} {members : List SchemaId}
    (h : cycleOf? stack id = some members) :
    members.head? = some id ∧ members.getLast? = stack.head? := by
  unfold cycleOf? at h
  split at h
  · next hmem =>
    cases h
    refine ⟨rfl, ?_⟩
    cases stack with
    | nil => simp at hmem
    | cons top rest =>
      by_cases htop : top = id
      · simp [htop]
      · simp [htop, List.getLast?_cons]
  · cases h

/-- Recording a cycle changes nothing else, and it is recorded then. -/
theorem Linked.le_record (l : Linked) (members : List SchemaId) {m : Linked}
    (hm : m = if l.cycles.contains members then l
      else { l with cycles := l.cycles ++ [members] }) :
    Linked.Le [] l m ∧ m.nodes.size = l.nodes.size ∧ m.byPointer = l.byPointer ∧
      members ∈ m.cycles := by
  subst hm
  split
  · next hmem => exact ⟨.refl [] l, rfl, rfl, by simpa using hmem⟩
  · refine ⟨.of_nodes rfl ?_, rfl, rfl, by simp⟩
    exact fun cycle h => List.mem_append_left _ h

/-- Coming back to a node either closes a cycle or finds the node settled. -/
theorem yields_closeCycle {id : SchemaId} (hl : Linked.Inv stack l) (hid : id < l.nodes.size) :
    Yields (closeCycle stack id) l fun _ m => Visited stack l id m := by
  unfold closeCycle
  split
  · next hnone =>
    unfold cycleOf? at hnone
    have hnot : id ∉ stack := by
      intro hmem
      simp [hmem] at hnone
    exact yields_pure.2 ⟨hl, .refl [] l, hid, fun _ => hl.left id hid hnot⟩
  · next members hsome =>
    have hmark : ∀ member ∈ members, ∀ m, Linked.Inv stack m ∧ Linked.Le [] l m →
        Yields (change member fun node => { node with cyclic := true }) m fun _ n =>
          Linked.Inv stack n ∧ Linked.Le [] l n := by
      intro member _ m ⟨hm, hle⟩
      have hstep := m.le_modifyNode member (f := fun node => { node with cyclic := true })
        fun _ => ⟨rfl, rfl⟩
      exact yields_modify.2 ⟨hm.of_le hstep (m.size_modifyNode ..) rfl, hle.trans hstep⟩
    rw [yields_bind]
    refine (yields_forM hmark ⟨hl, .refl [] l⟩).mono fun _ m ⟨hm, hle⟩ => yields_modify.2 ?_
    obtain ⟨hrecord, hsize, hplaces, hmem⟩ := m.le_record members rfl
    obtain ⟨hhead, hlast⟩ := ends_of_cycleOf? hsome
    refine ⟨hm.of_le hrecord hsize hplaces, hle.trans hrecord, ?_, fun htop => ?_⟩
    · rw [hsize]
      exact Nat.lt_of_lt_of_le hid hle.size
    · -- the cycle that is recorded now leads from the innermost node back to this one
      cases hstack : stack with
      | nil =>
        rw [hstack] at hsome
        cases hsome
      | cons top rest =>
        rw [hstack] at htop hlast
        exact absurd ⟨members, hmem, hhead, hlast⟩ (htop top rfl)

/-- **Every visit keeps the invariant.**  By induction on the levels; the node that a visit opens is
the innermost one while its keywords are linked, and settled when it is left. -/
theorem keeps_linkNode (root : Json) (limit levels : Nat) (stack : List SchemaId) :
    Visit.Keeps (linkNode root limit levels stack) stack := by
  induction levels generalizing stack with
  | zero => exact fun _ _ _ _ _ => yields_throw
  | succ levels ih =>
    intro pointer value origin l hl
    have hregister : ∀ id m, Visited stack l id m →
        Yields (register pointer id) m fun _ => Visited stack l id := by
      rintro id m ⟨hm, hle, hbrought⟩
      refine (yields_register pointer hm hbrought.lt).mono ?_
      rintro - n ⟨hn, hmn, -⟩
      exact ⟨hn, hle.trans hmn, hbrought.mono (hmn.widen (by simp))⟩
    refine yields_linkNode ?follow ?lost ?again ?new
    case follow => exact fun _ _ _ => (ih stack _ _ _ l hl).mono hregister
    case lost => exact fun _ _ => (hl.addUnresolved _ _ _).mono hregister
    case again =>
      intro id _ hid
      refine (yields_closeCycle hl (hl.registered pointer id hid)).mono ?_
      rintro - m ⟨hm, hle, hbrought⟩
      have hadopt := m.le_modifyNode id (f := adopt origin) fun _ => ⟨rfl, rfl⟩
      refine yields_modify.2 ⟨?_, hle.trans hadopt, ?_⟩
      · exact hm.of_le hadopt (m.size_modifyNode ..) rfl
      · exact hbrought.mono (hadopt.widen (by simp))
    case new =>
      intro _ _
      have hnew : l.nodes.size ∉ stack := fun hmem => Nat.lt_irrefl _ (hl.expanded _ hmem)
      refine (yields_register pointer (hl.push_top rfl rfl) (by simp [Linked.push])).mono ?_
      rintro - m ⟨hm, hle, -⟩
      have hgrown : Linked.Le [l.nodes.size] l m := ((l.le_push rfl).trans hle).widen (by simp)
      refine (keepsTop_linkBelow (ih _) root pointer origin.hint value m hm).mono ?_
      rintro - n ⟨hn, hmn⟩
      -- everything below the node is linked, and it is left
      obtain ⟨hn, hsettled⟩ := hn.pop hnew
      have hle := hgrown.trans hmn
      refine ⟨hn, ⟨hle.size, ?_, hle.cycles, hle.unnamed⟩, hsettled.lt, fun _ => hsettled⟩
      intro other hother _
      exact hle.parts other hother fun hmem =>
        Nat.ne_of_lt hother (List.mem_singleton.1 hmem)

/-! ### Cycles of linked graphs -/

/-- **A directed cycle**: every member is a subschema of the one before, and the first of the
last. -/
structure IsCycle (g : SchemaGraph) (cycle : List SchemaId) : Prop where
  nonempty : cycle ≠ []
  chain : cycle.IsChain fun id part => part ∈ g.children id
  closed : ∀ last ∈ cycle.getLast?, ∀ first ∈ cycle.head?, first ∈ g.children last

/-- A cycle can be read from any of its members on. -/
theorem IsCycle.rotate {g : SchemaGraph} {before after : List SchemaId}
    (h : g.IsCycle (before ++ after)) : g.IsCycle (after ++ before) := by
  obtain ⟨hne, hchain, hclosed⟩ := h
  cases before with
  | nil => exact ⟨by simpa using hne, by simpa using hchain, by simpa using hclosed⟩
  | cons b before =>
    cases after with
    | nil => exact ⟨by simp, by simpa using hchain, by simpa using hclosed⟩
    | cons a after =>
      rw [List.isChain_append] at hchain
      obtain ⟨hbefore, hafter, hjoin⟩ := hchain
      refine ⟨by simp, List.isChain_append.2 ⟨hafter, hbefore, ?_⟩, ?_⟩
      · intro last hlast first hfirst
        refine hclosed last ?_ first ?_
        · rw [List.getLast?_append_of_ne_nil _ (by simp)]
          exact hlast
        · exact hfirst
      · intro last hlast first hfirst
        rw [List.getLast?_append_of_ne_nil _ (by simp)] at hlast
        exact hjoin last hlast first hfirst

/-- Around any member, a cycle can be read so that this member is the last. -/
theorem IsCycle.exists_last {g : SchemaGraph} {cycle : List SchemaId} (h : g.IsCycle cycle)
    {id : SchemaId} (hid : id ∈ cycle) :
    ∃ turned, g.IsCycle turned ∧ turned.getLast? = some id ∧ turned ~r cycle := by
  obtain ⟨before, after, rfl⟩ := List.append_of_mem hid
  have hsplit : before ++ id :: after = (before ++ [id]) ++ after := by simp
  rw [hsplit] at h ⊢
  exact ⟨after ++ (before ++ [id]), h.rotate, by simp, List.isRotated_append⟩

/-- What linking leaves: the root is there, no node has a standalone name, parts are in range, and
every node is settled. -/
theorem settled_of_ofBundle {b : Bundle} {o : Options} {g : SchemaGraph}
    (h : ofBundle b o = .ok g) :
    g.root < g.size ∧ (∀ id, (g.node id).standaloneName = none) ∧
      (∀ id, ∀ part ∈ g.children id, part < g.size) ∧
      ∀ id < g.size, Linked.Settled ⟨g.nodes, [], g.cycles⟩ [] id := by
  obtain ⟨⟨nodes, places, cycles⟩, hwalk, rfl, rfl⟩ := exists_walk h
  have hstart : Linked.Inv [] ⟨#[], [], []⟩ :=
    ⟨by simp, by simp, by simp, fun _ _ h => absurd h List.not_mem_nil, by simp⟩
  obtain ⟨hinv, hle, hroot⟩ := keeps_linkNode b.schema o.maxDepth (o.maxDepth + 1) [] _ _ _ _
    hstart _ _ hwalk
  refine ⟨hroot.lt, hle.unnamed fun _ => rfl, hinv.inRange, fun id hid => ?_⟩
  have hsettled := hinv.left id hid List.not_mem_nil
  exact hsettled.mono (.of_nodes rfl fun _ h => h) fun _ _ h => h

/-- **Every cycle takes the closing step of a recorded cycle**: read from the right member on, it
starts and ends where the recorded one does.  This holds in a linked graph and in every graph `h`
that has no more parts. -/
theorem IsCycle.exists_turned {b : Bundle} {o : Options} {g h : SchemaGraph}
    (hg : ofBundle b o = .ok g) (hsub : ∀ id, ∀ part ∈ h.children id, part ∈ g.children id)
    {cycle : List SchemaId} (hcycle : h.IsCycle cycle) :
    ∃ recorded ∈ g.cycles, ∃ turned, h.IsCycle turned ∧ turned ~r cycle ∧
      turned.head? = recorded.head? ∧ turned.getLast? = recorded.getLast? := by
  by_contra hnone
  obtain ⟨-, -, -, hsettled⟩ := settled_of_ofBundle hg
  -- a settled node has no next member on the cycle
  have hnot : ∀ id, Linked.Settled ⟨g.nodes, [], g.cycles⟩ [] id → id ∉ cycle := by
    intro id hid
    induction hid with
    | @intro id hlt _ _ ih =>
      intro hmem
      obtain ⟨turned, hturned, hlast, hrotated⟩ := hcycle.exists_last hmem
      obtain ⟨next, hnext⟩ := Option.isSome_iff_exists.1
        (List.isSome_head?.2 hturned.nonempty)
      refine ih next (hsub id next (hturned.closed id hlast next hnext)) ?_
        (hrotated.mem_iff.1 (List.mem_of_head? hnext))
      rintro ⟨recorded, hrecorded, hhead, hrecordedLast⟩
      exact hnone ⟨recorded, hrecorded, turned, hturned, hrotated, hnext.trans hhead.symm,
        hlast.trans hrecordedLast.symm⟩
  obtain ⟨id, hid⟩ := List.exists_mem_of_ne_nil cycle hcycle.nonempty
  obtain ⟨turned, hturned, hlast, -⟩ := hcycle.exists_last hid
  obtain ⟨next, hnext⟩ := Option.isSome_iff_exists.1 (List.isSome_head?.2 hturned.nonempty)
  have hlt : id < g.size := by
    refine Nat.not_le.1 fun hle => ?_
    have hpart := hsub id next (hturned.closed id hlast next hnext)
    rw [children, node, Array.getElem?_eq_none hle] at hpart
    cases hpart
  exact hnot id (hsettled id hlt) hid

/-- Such a cycle through the same members. -/
theorem IsCycle.exists_recorded {b : Bundle} {o : Options} {g h : SchemaGraph}
    (hg : ofBundle b o = .ok g) (hsub : ∀ id, ∀ part ∈ h.children id, part ∈ g.children id)
    {cycle : List SchemaId} (hcycle : h.IsCycle cycle) :
    ∃ recorded ∈ g.cycles, ∃ turned, h.IsCycle turned ∧ (∀ id ∈ turned, id ∈ cycle) ∧
      turned.head? = recorded.head? ∧ turned.getLast? = recorded.getLast? := by
  obtain ⟨recorded, hrecorded, turned, hturned, hrotated, hends⟩ := hcycle.exists_turned hg hsub
  exact ⟨recorded, hrecorded, turned, hturned, fun _ => hrotated.mem_iff.1, hends⟩

end SchemaGraph
end SchemaTypings
