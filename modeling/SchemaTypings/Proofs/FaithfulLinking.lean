import SchemaTypings.Proofs.FaithfulStates

/-! # Linking keeps states faithful

A visit changes no more of the nodes that are there than the names by which they are reached, and
the cycles on which they lie, and finds the node of its place.  So the keywords of a node, taken in
one after the other, make it represent what its schema says.
-/
namespace SchemaTypings
namespace SchemaGraph

variable {root : Json} {changed stack rest : List SchemaId}

/-! ### Visits -/

/-- What a visit that ends well does. -/
def Found (root : Json) (stack : List SchemaId) (l : Linked) (pointer : String) (id : SchemaId)
    (m : Linked) : Prop :=
  Faithful root stack m ∧ Retains [] l m ∧ NodeOf root m.nodes pointer id

/-- The promise of a visit: it finds the node of every place that linking meets. -/
def Visit.Finds (visit : Visit) (root : Json) (stack : List SchemaId) : Prop :=
  ∀ pointer value origin l, Pointer.resolve? root pointer = some value → Meets root pointer →
    Faithful root stack l → Yields (visit pointer value origin) l (Found root stack l pointer)

/-- What visits to schemas of the innermost node do, and what holds of the value they bring. -/
def Gathers (root : Json) (stack : List SchemaId) (l : Linked) {α : Type} (x : Linking α)
    (holds : (String → SchemaId → Prop) → α → Prop) : Prop :=
  Yields x l fun a m => Faithful root stack m ∧ Retains [] l m ∧
    holds (NodeOf root m.nodes) a

/-- Schemas that are visited one after the other. -/
theorem gathers_mapM {α β : Type} {f : α → Linking β} {as : List α}
    {Q : (String → SchemaId → Prop) → α → β → Prop}
    (hmono : ∀ {stands more : String → SchemaId → Prop} {a b},
      (∀ pointer id, stands pointer id → more pointer id) → Q stands a b → Q more a b)
    (hf : ∀ a ∈ as, ∀ l, Faithful root stack l →
      Gathers root stack l (f a) fun stands b => Q stands a b)
    {l : Linked} (hl : Faithful root stack l) :
    Gathers root stack l (as.mapM f) fun stands bs => List.Forall₂ (Q stands) as bs :=
  yields_mapM (Q := fun a b (m : Linked) => Q (NodeOf root m.nodes) a b) (Retains.refl [])
    Retains.trans (fun hle => hmono fun _ _ => hle.nodeOf) hf hl

/-- The schemas that a keyword visits are found at their places. -/
theorem gathers_calls {visit : Visit} (hvisit : visit.Finds root stack) {calls : List Call}
    (hcalls : ∀ call ∈ calls, Pointer.resolve? root call.pointer = some call.value ∧
      Meets root call.pointer) {l : Linked} (hl : Faithful root stack l) :
    Gathers root stack l (calls.mapM visit.answer) fun stands ids =>
      List.Forall₂ (fun call id => stands call.pointer id) calls ids :=
  gathers_mapM (Q := fun stands (call : Call) id => stands call.pointer id)
    (fun hmore => hmore _ _) (fun call hcall l hl =>
      hvisit call.pointer call.value call.origin l (hcalls call hcall).1 (hcalls call hcall).2 hl) hl

/-! ### Keywords -/

/-- What the linking of a keyword of the innermost node does. -/
def Took (root : Json) (id : SchemaId) (rest : List SchemaId) (entry : String × Json × String)
    (l m : Linked) : Prop :=
  Faithful root (id :: rest) m ∧ Retains [id] l m ∧
    Takes (NodeOf root m.nodes) entry (nodeAt l.nodes id) (nodeAt m.nodes id)

section Steps

variable {id : SchemaId} {l : Linked} {entry : String × Json × String}
  (hl : Faithful root (id :: rest) l)

include hl

/-- Schemas are visited first and become parts afterwards. -/
theorem yields_took_bind {α : Type} {x : Linking α} {k : α → Linking Unit}
    {holds : (String → SchemaId → Prop) → α → Prop}
    (hx : Gathers root (id :: rest) l x holds)
    (hk : ∀ a m, Faithful root (id :: rest) m → holds (NodeOf root m.nodes) a →
      Yields (k a) m fun _ n => Took root id rest entry m n) :
    Yields (x >>= k) l fun _ n => Took root id rest entry l n := by
  refine yields_bind.2 (hx.mono fun a m ⟨hm, hlm, ha⟩ => ?_)
  refine (hk a m hm ha).mono fun _ n ⟨hn, hmn, htakes⟩ => ⟨hn, (hlm.widen [id]).trans hmn, ?_⟩
  exact htakes.of_said (hlm.said id (hl.expanded id List.mem_cons_self) List.not_mem_nil)

/-- The innermost node takes a keyword on. -/
theorem yields_took {f : SchemaNode → SchemaNode} (hf : ∀ node, (f node).pointer = node.pointer ∧
      (f node).boolean = node.boolean ∧ (f node).unresolvedRef = node.unresolvedRef)
    (htakes : ∀ stands : String → SchemaId → Prop,
      (∀ pointer other, NodeOf root l.nodes pointer other → stands pointer other) →
      ∀ n, Takes stands entry n (f n)) :
    Yields (change id f) l fun _ m => Took root id rest entry l m := by
  obtain ⟨hm, hle⟩ := hl.modify_top hf
  refine yields_modify.2 ⟨hm, hle, ?_⟩
  have hnode : nodeAt (l.modifyNode id f).nodes id = f (nodeAt l.nodes id) := by
    rw [Linked.modifyNode, nodeAt_modify _ _ _ _ (hl.expanded id List.mem_cons_self), if_pos rfl]
  rw [hnode]
  exact htakes _ (fun _ _ => hle.nodeOf) _

end Steps

/-- **A keyword is taken on** by the node that is being expanded. -/
theorem yields_linkKeyword {visit : Visit} {id : SchemaId} {l : Linked}
    (hvisit : visit.Finds root (id :: rest)) (hkeys : root.hasDistinctKeys = true)
    {base keyword : String} {value : Json}
    (hvalue : Pointer.resolve? root (Pointer.build base [keyword]) = some value)
    (hmeets : ∀ segments ∈ below keyword value, Meets root (Pointer.build base segments))
    (hint : Option String) (hl : Faithful root (id :: rest) l) :
    Yields (linkKeyword visit id hint keyword value base) l fun _ m =>
      Took root id rest (keyword, value, base) l m := by
  obtain ⟨calls, absorb, hlinks, heq⟩ := takesOnAt_linkKeyword id hint keyword value base
  rw [show linkKeyword visit id hint keyword value base = _ from heq visit, takeOn]
  refine yields_took_bind hl (gathers_calls hvisit (fun call hcall => ?_) hl) fun ids m hm hids => ?_
  · obtain ⟨segments, hbelow, hpointer, hfound⟩ := hlinks.resolve? hkeys hvalue hcall
    exact ⟨hfound, hpointer ▸ hmeets segments hbelow⟩
  · refine yields_took hm (fun n => ⟨hlinks.absorbs.pointer_eq ids n, hlinks.absorbs.frame_eq ids n⟩)
      fun stands hmore n => hlinks.takes (hids.imp fun call id => hmore _ _) n

/-! ### Visits of nodes -/

section Nodes

variable {l : Linked} (hl : Faithful root stack l)

include hl

/-- A change of nothing that is said. -/
theorem faithful_change (id : SchemaId) {f : SchemaNode → SchemaNode}
    (hf : ∀ node, (f node).pointer = node.pointer ∧ (f node).said = node.said) :
    Yields (change id f) l fun _ m => Faithful root stack m ∧ Retains [] l m := by
  have hle : Retains [] l (l.modifyNode id f) :=
    .modifyNode l id (fun node => (hf node).1) (Or.inr fun node => (hf node).2)
  refine yields_modify.2 ⟨hl.of_retains hle (l.size_modifyNode id f) rfl ?_ ?_, hle⟩
  · exact fun _ hmem => absurd hmem List.not_mem_nil
  · exact fun _ hmem => absurd hmem List.not_mem_nil

theorem faithful_closeCycle (id : SchemaId) :
    Yields (closeCycle stack id) l fun _ m => Faithful root stack m ∧ Retains [] l m := by
  refine keeps_closeCycle (I := fun m => Faithful root stack m ∧ Retains [] l m) ?_ ?_ l
    ⟨hl, .refl [] l⟩
  · rintro member m ⟨hm, hlm⟩
    refine (faithful_change hm member (f := fun node => { node with cyclic := true })
      fun _ => ⟨rfl, rfl⟩).mono ?_
    rintro - n ⟨hn, hmn⟩
    exact ⟨hn, hlm.trans hmn⟩
  · rintro m members - ⟨hm, hlm⟩
    exact ⟨⟨hm.own, hm.placed, hm.expanded, hm.framed, hm.left⟩, hlm.size, hlm.pointer, hlm.said⟩

/-- A place is remembered, unless it is known already. -/
theorem faithful_register {pointer : String} {id : SchemaId}
    (hid : NodeOf root l.nodes pointer id) :
    Yields (register pointer id) l fun _ m => Faithful root stack m ∧ Retains [] l m := by
  refine yields_modify.2 ?_
  split
  · exact ⟨hl, .refl [] l⟩
  · next hunknown =>
    exact ⟨hl.remember hid (Option.not_isSome_iff_eq_none.1 hunknown),
      Nat.le_refl _, fun _ _ => rfl, fun _ _ _ => rfl⟩

end Nodes

/-- A bare reference that linking meets leads to what is none. -/
theorem Direct.exists_target (h : Direct root) {pointer target : String} {value : Json}
    (hmeets : Meets root pointer) (hvalue : Pointer.resolve? root pointer = some value)
    (hbare : Bundle.bareRef? value = some target) :
    Meets root target ∧
      ∃ other, Pointer.resolve? root target = some other ∧ Bundle.bareRef? other = none := by
  have hdirect := h pointer value hmeets hvalue
  rw [refersDirectly, hbare] at hdirect
  obtain ⟨other, hother, hnone⟩ := (Option.any_eq_true _ _).1 hdirect
  refine ⟨hmeets.next hvalue ?_, other, hother, Option.isNone_iff_eq_none.1 hnone⟩
  rw [leads, hbare]
  exact List.mem_singleton_self target

/-- A reference beside other keywords leads to an object. -/
theorem Direct.exists_object (h : Direct root) {pointer target : String} {object : Dict Json}
    (hmeets : Meets root pointer) (hvalue : Pointer.resolve? root pointer = some (.object object))
    (hbare : Bundle.bareRef? (.object object) = none)
    (hreference : Bundle.reference? object = some target) :
    ∃ other, Pointer.resolve? root target = some (.object other) := by
  have hdirect := h pointer _ hmeets hvalue
  rw [refersDirectly, hbare] at hdirect
  simp only [Json.object?, Option.bind_some, hreference] at hdirect
  obtain ⟨other, hother⟩ := Option.isSome_iff_exists.1 hdirect
  obtain ⟨value, hvalue, hobject⟩ := Option.bind_eq_some_iff.1 hother
  cases value with
  | object entries => exact ⟨entries, hvalue⟩
  | _ => cases hobject

/-- What a schema says is met. -/
theorem meets_of_mem_contents {pointer : String} {value : Json} (h : Meets root pointer)
    (hvalue : Pointer.resolve? root pointer = some value) (hbare : Bundle.bareRef? value = none)
    {entry : String × Json × String} (hentry : entry ∈ contents root pointer value) :
    ∀ segments ∈ below entry.1 entry.2.1,
      Meets root (Pointer.build entry.2.2 segments) := by
  intro segments hsegments
  refine h.next hvalue ?_
  rw [leads, hbare]
  exact List.mem_flatMap.2 ⟨entry, hentry, List.mem_map.2 ⟨segments, hsegments, rfl⟩⟩

/-- Linking everything that a schema says makes the innermost node represent it. -/
theorem yields_linkKeywords (hkeys : root.hasDistinctKeys = true) {visit : Visit} {id : SchemaId}
    (hvisit : visit.Finds root (id :: stack)) {pointer : String} {value : Json}
    (hvalue : Pointer.resolve? root pointer = some value) (hmeets : Meets root pointer)
    (hbare : Bundle.bareRef? value = none) (hint : Option String) {l : Linked}
    (hl : Faithful root (id :: stack) l)
    (hnode : Represents (NodeOf root l.nodes) [] (nodeAt l.nodes id)) :
    Yields ((contents root pointer value).forM fun entry =>
        linkKeyword visit id hint entry.1 entry.2.1 entry.2.2) l fun _ m =>
      Faithful root (id :: stack) m ∧ Retains [id] l m ∧
        Represents (NodeOf root m.nodes) (contents root pointer value) (nodeAt m.nodes id) := by
  refine yields_forM_scan (I := fun done m => Faithful root (id :: stack) m ∧ Retains [id] l m ∧
    Represents (NodeOf root m.nodes) done (nodeAt m.nodes id))
    ?_ ⟨hl, .refl [id] l, hnode⟩
  rintro done entry rest hall m ⟨hm, hlm, hdone⟩
  have hentry : entry ∈ contents root pointer value := by
    rw [hall]
    exact List.mem_append_right done List.mem_cons_self
  have hnew : entry.1 ∉ Dict.keys done := by
    have hnodup := nodup_keys_contents hkeys hvalue
    rw [hall, Dict.keys, List.map_append, List.nodup_append] at hnodup
    exact fun hmem => hnodup.2.2 entry.1 hmem entry.1 List.mem_cons_self rfl
  refine (yields_linkKeyword hvisit hkeys (stands_of_mem_contents hkeys hvalue hentry)
    (meets_of_mem_contents hmeets hvalue hbare hentry) hint hm).mono ?_
  rintro - n ⟨hn, hmn, htakes⟩
  exact ⟨hn, hlm.trans hmn, (hdone.mono fun _ _ => hmn.nodeOf).snoc hnew htakes⟩

/-- What is below the innermost node is linked, and the node represents it then. -/
theorem yields_linkBelow (hkeys : root.hasDistinctKeys = true) (hdirect : Direct root)
    {visit : Visit} {id : SchemaId} (hvisit : visit.Finds root (id :: stack)) {pointer : String}
    {value : Json} (hvalue : Pointer.resolve? root pointer = some value)
    (hmeets : Meets root pointer) (hbare : Bundle.bareRef? value = none) (hint : Option String)
    {l : Linked} (hl : Faithful root (id :: stack) l)
    (hnode : Represents (NodeOf root l.nodes) [] (nodeAt l.nodes id)) :
    Yields (linkBelow visit root id pointer hint value) l fun _ m =>
      Faithful root (id :: stack) m ∧ Retains [id] l m ∧
        Represents (NodeOf root m.nodes) (contents root pointer value) (nodeAt m.nodes id) := by
  cases value with
  | object object =>
    rw [linkBelow, gather_eq hkeys _ (nodup_keys_of_resolve? hkeys hvalue) fun target =>
      hdirect.exists_object hmeets hvalue hbare, pure_bind]
    exact yields_linkKeywords hkeys hvisit hvalue hmeets hbare hint hl hnode
  | _ => exact yields_pure.2 ⟨hl, .refl _ l, hnode⟩

/-- A node that was opened is found at its place when it is left, where it represents then what the
schema there says. -/
theorem Frames.found_of_left {l n : Linked} {node : SchemaNode} {value : Json}
    (hnode : Frames root node value) (hn : Faithful root (l.nodes.size :: stack) n)
    (hle : Retains [l.nodes.size] (l.push node) n)
    (hrepresents : Represents (NodeOf root n.nodes) (contents root node.pointer value)
      (nodeAt n.nodes l.nodes.size)) :
    Found root stack l node.pointer l.nodes.size n := by
  have hlt : l.nodes.size < (l.push node).nodes.size := by simp [Linked.push]
  have hpointer : (nodeAt n.nodes l.nodes.size).pointer = node.pointer :=
    (hle.pointer _ hlt).trans (congrArg SchemaNode.pointer (nodeAt_push l.nodes node))
  refine ⟨hn.pop fun other hother => ?_, (Retains.push l node).leave hle,
    Nat.lt_of_lt_of_le hlt hle.size, value, hnode.found, ?_⟩
  · have hsame := hother.found
    rw [hpointer, hnode.found] at hsame
    rw [hpointer, ← Option.some.inj hsame]
    exact hrepresents
  · rw [hpointer, hnode.bare]
    rfl

/-- **Every visit finds the node of the place visited**, which represents what the schema there says
when it is left.  By induction on the levels. -/
theorem finds_linkNode (hkeys : root.hasDistinctKeys = true) (hdirect : Direct root)
    (limit levels : Nat) (stack : List SchemaId) :
    Visit.Finds (linkNode root limit levels stack) root stack := by
  induction levels generalizing stack with
  | zero => exact fun _ _ _ _ _ _ _ => yields_throw
  | succ levels ih =>
    intro pointer value origin l hvalue hmeets hl
    refine yields_linkNode ?follow ?lost ?again ?new
    case follow =>
      intro target other hbare hother _
      obtain ⟨htargetMeets, found, hfound, hnone⟩ := hdirect.exists_target hmeets hvalue hbare
      cases hother.symm.trans hfound
      refine (ih stack target other origin l hother htargetMeets hl).mono ?_
      rintro id m ⟨hm, hlm, hlt, _, hfound, hpointer⟩
      cases hother.symm.trans hfound
      -- the node of the target is the node of the bare reference as well
      have hsite : NodeOf root m.nodes pointer id := by
        rw [hnone] at hpointer
        exact ⟨hlt, value, hvalue, by rw [hpointer, hbare]; rfl⟩
      refine (faithful_register hm hsite).mono ?_
      rintro - n ⟨hn, hmn⟩
      exact ⟨hn, hlm.trans hmn, hmn.nodeOf hsite⟩
    case lost =>
      -- no reference is lost: its target is there, and is no bare reference
      intro target hbare hlost
      obtain ⟨-, other, hother, hnone⟩ := hdirect.exists_target hmeets hvalue hbare
      exfalso
      rcases hlost with hlost | rfl
      · cases hlost.symm.trans hother
      · cases hvalue.symm.trans hother
        cases hbare.symm.trans hnone
    case again =>
      intro id _ hid
      refine (faithful_closeCycle hl id).mono ?_
      rintro - m ⟨hm, hlm⟩
      refine (faithful_change hm id (f := adopt origin) fun _ => ⟨rfl, rfl⟩).mono ?_
      rintro - n ⟨hn, hmn⟩
      exact ⟨hn, hlm.trans hmn, (hlm.trans hmn).nodeOf (hl.placed pointer id hid)⟩
    case new =>
      intro hbare hunknown
      have hframes : Frames root (openedNode pointer value origin) value := ⟨hvalue, hbare, rfl, rfl⟩
      refine (yields_register_new (l := l.push _) hunknown).2 ?_
      have hblank : ∀ stands, Represents stands [] (openedNode pointer value origin) := fun stands =>
        represents_nil stands (fun field => by cases field <;> rfl) rfl rfl
      have hopened : nodeAt (l.push (openedNode pointer value origin)).nodes l.nodes.size =
          openedNode pointer value origin := nodeAt_push l.nodes _
      refine (yields_linkBelow hkeys hdirect (ih _) hvalue hmeets hbare origin.hint
        (hl.open_node hframes hunknown) (hopened.symm ▸ hblank _)).mono ?_
      rintro - n ⟨hn, hle, hrepresents⟩
      exact hframes.found_of_left hn ⟨hle.size, hle.pointer, hle.said⟩ hrepresents

end SchemaGraph
end SchemaTypings
