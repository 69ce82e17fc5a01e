import SchemaTypings.Proofs.CycleNames
import SchemaTypings.Proofs.Redefinitions

/-! # Recorded cycles

A cycle is recorded while its nodes are being expanded, so its steps are not yet there: each node
but the first is still to become a subschema of the one outside of it.  `Recorded` says that every
cycle so far is made of steps that are there or `owed`.  What is owed is paid by the change that
ends a keyword, and stays paid, because the keywords that follow spare what is there; only in a
schema that defines a key twice a definition is lost, and a step with it.
-/
namespace SchemaTypings
namespace SchemaGraph

variable {root : Json} {stack rest members : List SchemaId} {l m : Linked} {id : SchemaId}
  {owed owed' : SchemaId → SchemaId → Prop}

/-! ### Steps -/

/-- The step from one node to another is there, or owed. -/
def Linked.Step (owed : SchemaId → SchemaId → Prop) (l : Linked) (outer inner : SchemaId) : Prop :=
  inner ∈ (nodeAt l.nodes outer).children ∨ owed outer inner

/-- What is owed when the innermost node of the stack is to take on some nodes as well. -/
def Owing (owed : SchemaId → SchemaId → Prop) (stack ids : List SchemaId) (outer inner : SchemaId) :
    Prop :=
  owed outer inner ∨ (outer ∈ stack.head? ∧ inner ∈ ids)

/-- **The cycles so far.**  The nodes that are marked are those on a cycle; and where no schema
defines a key twice, a cycle is made of steps that are there or owed. -/
structure Recorded (root : Json) (owed : SchemaId → SchemaId → Prop) (l : Linked) : Prop where
  nonempty : ∀ cycle ∈ l.cycles, cycle ≠ []
  nodup : ∀ cycle ∈ l.cycles, cycle.Nodup
  once : l.cycles.Nodup
  marked : ∀ id, (nodeAt l.nodes id).cyclic = true ↔ ∃ cycle ∈ l.cycles, id ∈ cycle
  chain : definesOnceOverlaid root = true → ∀ cycle ∈ l.cycles, cycle.IsChain (l.Step owed)
  closed : definesOnceOverlaid root = true → ∀ cycle ∈ l.cycles, ∀ last ∈ cycle.getLast?,
    ∀ first ∈ cycle.head?, l.Step owed last first

/-- Nothing is recorded at first. -/
theorem recorded_start (root : Json) (owed : SchemaId → SchemaId → Prop) :
    Recorded root owed ⟨#[], [], []⟩ :=
  ⟨by simp, by simp, by simp, by simp [nodeAt], by simp, by simp⟩

/-- The same cycles and marks, and no fewer steps. -/
theorem Recorded.of_steps (h : Recorded root owed l) (hcycles : m.cycles = l.cycles)
    (hmarks : ∀ id, (nodeAt m.nodes id).cyclic = (nodeAt l.nodes id).cyclic)
    (hsteps : definesOnceOverlaid root = true →
      ∀ outer inner, l.Step owed outer inner → m.Step owed' outer inner) :
    Recorded root owed' m where
  nonempty := hcycles ▸ h.nonempty
  nodup := hcycles ▸ h.nodup
  once := hcycles ▸ h.once
  marked := fun id => by rw [hmarks, hcycles, h.marked]
  chain := fun hapart cycle hcycle =>
    (h.chain hapart cycle (hcycles ▸ hcycle)).imp fun _ _ => hsteps hapart _ _
  closed := fun hapart cycle hcycle last hlast first hfirst =>
    hsteps hapart _ _ (h.closed hapart cycle (hcycles ▸ hcycle) last hlast first hfirst)

/-- More may be owed. -/
theorem Recorded.mono (h : Recorded root owed l)
    (howed : ∀ outer inner, owed outer inner → owed' outer inner) : Recorded root owed' l :=
  h.of_steps rfl (fun _ => rfl) fun _ outer inner => Or.imp_right (howed outer inner)

theorem nodeAt_modifyNode (l : Linked) (id : SchemaId) (f : SchemaNode → SchemaNode)
    (other : SchemaId) : nodeAt (l.modifyNode id f).nodes other =
      if id = other ∧ other < l.nodes.size then f (nodeAt l.nodes other)
      else nodeAt l.nodes other := by
  by_cases hother : other < l.nodes.size
  · rw [Linked.modifyNode, nodeAt_modify l.nodes id other f hother]
    simp [hother]
  · have hsize : ¬ other < (l.modifyNode id f).nodes.size := by rwa [Linked.size_modifyNode]
    rw [if_neg fun h => hother h.2, nodeAt, nodeAt, Array.getElem?_eq_none (Nat.not_lt.1 hother),
      Array.getElem?_eq_none (Nat.not_lt.1 hsize)]

/-- A change of a node that leaves its subschemas and marks alone. -/
theorem Recorded.modifyNode (h : Recorded root owed l) (id : SchemaId)
    {f : SchemaNode → SchemaNode} (hf : ∀ node, (f node).children = node.children ∧
      (f node).cyclic = node.cyclic) : Recorded root owed (l.modifyNode id f) := by
  refine h.of_steps rfl (fun other => ?_) fun _ outer inner => Or.imp_left fun hpart => ?_
  · rw [nodeAt_modifyNode]
    split
    · exact (hf _).2
    · rfl
  · rw [nodeAt_modifyNode]
    split
    · rwa [(hf _).1]
    · exact hpart

theorem nodeAt_push_eq (l : Linked) (node : SchemaNode) (other : SchemaId) :
    nodeAt (l.push node).nodes other =
      if other = l.nodes.size then node else nodeAt l.nodes other := by
  simp only [nodeAt, Linked.push, Array.getElem?_push]
  split
  · rfl
  · rfl

/-- A node that is added has no subschemas, and is not marked. -/
theorem Recorded.push (h : Recorded root owed l) {node : SchemaNode}
    (hnode : node.children = [] ∧ node.cyclic = false) : Recorded root owed (l.push node) := by
  have hnone : nodeAt l.nodes l.nodes.size = { pointer := "" } := by simp [nodeAt]
  refine h.of_steps rfl (fun other => ?_) fun _ outer inner => Or.imp_left fun hpart => ?_
  · rw [nodeAt_push_eq]
    split
    · next heq => rw [heq, hnone, hnode.2]
    · rfl
  · rw [nodeAt_push_eq]
    split
    · next heq =>
      rw [heq, hnone] at hpart
      cases hpart
    · exact hpart

theorem yields_records_register (h : Recorded root owed l) (pointer : String) (id : SchemaId) :
    Yields (register pointer id) l fun _ m =>
      Recorded root owed m ∧ Retains [] l m ∧ m.nodes = l.nodes := by
  refine yields_modify.2 ?_
  split
  · exact ⟨h, .refl [] l, rfl⟩
  · exact ⟨h.of_steps rfl (fun _ => rfl) fun _ _ _ hstep => hstep,
      ⟨Nat.le_refl _, fun _ _ => rfl, fun _ _ _ => rfl⟩, rfl⟩

/-! ### Closing a cycle -/

/-- **A cycle is read off the stack** from the node that is re-entered inwards. -/
theorem reverse_prefix_of_cycleOf? (h : cycleOf? stack id = some members) :
    members.reverse <+: stack := by
  unfold cycleOf? at h
  split at h
  · next hmem =>
    cases h
    rw [List.reverse_cons, List.reverse_reverse]
    rw [List.contains_iff_mem] at hmem
    induction stack with
    | nil => cases hmem
    | cons top rest ih =>
      rw [List.takeWhile_cons]
      by_cases heq : top = id
      · subst heq
        simp
      · simp only [ne_eq, heq, not_false_eq_true, decide_true, if_true, List.cons_append,
          List.cons_prefix_cons, true_and]
        exact ih ((List.mem_cons.1 hmem).resolve_left (Ne.symm heq))
  · cases h

/-- The nodes of a cycle are marked, and nothing else changes. -/
theorem yields_mark (hmembers : ∀ member ∈ members, member < l.nodes.size) :
    Yields (members.forM fun member => change member fun node => { node with cyclic := true }) l
      fun _ m => m.cycles = l.cycles ∧ Retains [] l m ∧
        (∀ other, (nodeAt m.nodes other).children = (nodeAt l.nodes other).children) ∧
        ∀ other, (nodeAt m.nodes other).cyclic = true ↔
          (nodeAt l.nodes other).cyclic = true ∨ other ∈ members := by
  refine (yields_forM_scan (I := fun done m => m.nodes.size = l.nodes.size ∧
    m.cycles = l.cycles ∧ Retains [] l m ∧
    (∀ other, (nodeAt m.nodes other).children = (nodeAt l.nodes other).children) ∧
    ∀ other, (nodeAt m.nodes other).cyclic = true ↔
      (nodeAt l.nodes other).cyclic = true ∨ other ∈ done) ?_
    ⟨rfl, rfl, .refl [] l, fun _ => rfl, fun _ => by simp⟩).mono fun _ m hm => hm.2
  intro done member more hsplit m ⟨hsize, hcycles, hle, hchildren, hmarks⟩
  have hlt : member < m.nodes.size :=
    hsize ▸ hmembers member (hsplit ▸ List.mem_append_right _ List.mem_cons_self)
  refine yields_modify.2 ⟨(Linked.size_modifyNode ..).trans hsize, hcycles,
    hle.trans (.modifyNode m member (fun _ => rfl) (.inr fun _ => rfl)), fun other => ?_,
    fun other => ?_⟩
  · rw [nodeAt_modifyNode, ← hchildren other]
    split <;> rfl
  · rw [nodeAt_modifyNode, List.mem_append, List.mem_singleton, ← or_assoc, ← hmarks other]
    by_cases heq : member = other
    · subst heq
      simp [hlt]
    · simp [heq, Ne.symm heq]

/-- A cycle of owed steps is recorded, unless it is there. -/
theorem Recorded.record (h : Recorded root owed l) (howed : ∀ outer inner, owed outer inner →
      owed' outer inner) (hcycles : m.cycles = l.cycles)
    (hchildren : ∀ other, (nodeAt m.nodes other).children = (nodeAt l.nodes other).children)
    (hmarks : ∀ other, (nodeAt m.nodes other).cyclic = true ↔
      (nodeAt l.nodes other).cyclic = true ∨ other ∈ members)
    (hne : members ≠ []) (hnodup : members.Nodup) (hchain : members.IsChain owed')
    (hclosed : ∀ last ∈ members.getLast?, ∀ first ∈ members.head?, owed' last first) :
    Recorded root owed' (if m.cycles.contains members then m
      else { m with cycles := m.cycles ++ [members] }) := by
  have hsteps : ∀ {outer inner}, l.Step owed outer inner → m.Step owed' outer inner :=
    fun {outer inner} hstep => hstep.imp (fun hpart => (hchildren outer).symm ▸ hpart)
      (howed outer inner)
  split
  · next hmem =>
    rw [List.contains_iff_mem, hcycles] at hmem
    refine ⟨hcycles ▸ h.nonempty, hcycles ▸ h.nodup, hcycles ▸ h.once, fun other => ?_,
      fun hapart cycle hcycle => ?_, fun hapart cycle hcycle last hlast first hfirst => ?_⟩
    · rw [hmarks, h.marked, hcycles]
      exact or_iff_left_of_imp fun hother => ⟨members, hmem, hother⟩
    · exact (h.chain hapart cycle (hcycles ▸ hcycle)).imp fun _ _ => hsteps
    · exact hsteps (h.closed hapart cycle (hcycles ▸ hcycle) last hlast first hfirst)
  · next hnew =>
    rw [List.contains_iff_mem] at hnew
    have hcases : ∀ {p : List SchemaId → Prop}, (∀ cycle ∈ l.cycles, p cycle) → p members →
        ∀ cycle ∈ m.cycles ++ [members], p cycle := by
      intro p hold hmembers cycle hcycle
      rcases List.mem_append.1 hcycle with hcycle | hcycle
      · exact hold cycle (hcycles ▸ hcycle)
      · rwa [List.mem_singleton.1 hcycle]
    refine ⟨hcases h.nonempty hne, hcases h.nodup hnodup, ?_, fun other => ?_,
      fun hapart => hcases (fun cycle hcycle => ?_) ?_,
      fun hapart => hcases (fun cycle hcycle last hlast first hfirst => ?_) ?_⟩
    · exact List.nodup_append.2 ⟨hcycles ▸ h.once, List.nodup_singleton _,
        fun cycle hcycle other hother heq =>
          hnew ((heq.trans (List.mem_singleton.1 hother)) ▸ hcycle)⟩
    · simp only [List.mem_append, List.mem_singleton, or_and_right, exists_or, exists_eq_left]
      rw [hmarks, h.marked, hcycles]
    · exact (h.chain hapart cycle hcycle).imp fun _ _ => hsteps
    · exact hchain.imp fun _ _ hstep => .inr hstep
    · exact hsteps (h.closed hapart cycle hcycle last hlast first hfirst)
    · exact fun last hlast first hfirst => .inr (hclosed last hlast first hfirst)

/-- **Coming back to a node** that is being expanded records a cycle, whose steps are owed with the
step that leads back. -/
theorem yields_records_closeCycle (hstack : stack.Nodup) (hopen : ∀ id ∈ stack, id < l.nodes.size)
    (howed : stack.IsChain fun inner outer => owed outer inner) (h : Recorded root owed l)
    (id : SchemaId) :
    Yields (closeCycle stack id) l fun _ m =>
      Recorded root (Owing owed stack [id]) m ∧ Retains [] l m := by
  unfold closeCycle
  split
  · exact yields_pure.2 ⟨h.mono fun _ _ => .inl, .refl [] l⟩
  · next members hmembers =>
    have hread := reverse_prefix_of_cycleOf? hmembers
    obtain ⟨hhead, hlast⟩ := ends_of_cycleOf? hmembers
    have hsub : ∀ member ∈ members, member ∈ stack := fun member hmember =>
      hread.subset (List.mem_reverse.2 hmember)
    refine yields_bind.2 ((yields_mark fun member hmember => hopen member
      (hsub member hmember)).mono fun _ m ⟨hcycles, hle, hchildren, hmarks⟩ => ?_)
    refine yields_modify.2 ⟨h.record (fun _ _ => .inl) hcycles hchildren hmarks ?_ ?_ ?_ ?_, ?_⟩
    · rintro rfl
      cases hhead
    · exact List.nodup_reverse.1 (hread.sublist.nodup hstack)
    · have hchain := howed.infix hread.isInfix
      rw [List.isChain_reverse] at hchain
      exact hchain.imp fun _ _ => .inl
    · intro last hmem first hfirst
      rw [hhead] at hfirst
      cases hfirst
      exact .inr ⟨hlast ▸ hmem, List.mem_singleton_self _⟩
    · split
      · exact hle
      · exact ⟨hle.size, hle.pointer, hle.said⟩

/-! ### The walk -/

/-- The promise of a visit to a value of the document: the cycles so far stay recorded, where the
node that is brought back is owed to the innermost one. -/
def Visit.Records (visit : Visit) (root : Json) (stack : List SchemaId) : Prop :=
  ∀ pointer value origin l owed, root.Within value → (∀ id ∈ stack, id < l.nodes.size) →
    (stack.IsChain fun inner outer => owed outer inner) → Recorded root owed l →
    Yields (visit pointer value origin) l fun id m =>
      Recorded root (Owing owed stack [id]) m ∧ Retains [] l m

/-- Visits one after the other owe all that they bring back. -/
theorem yields_records_answers {visit : Visit} (hvisit : visit.Records root stack)
    {calls : List Call} (hcalls : ∀ call ∈ calls, root.Within call.value)
    (hopen : ∀ id ∈ stack, id < l.nodes.size)
    (howed : stack.IsChain fun inner outer => owed outer inner) (h : Recorded root owed l) :
    Yields (calls.mapM visit.answer) l fun ids m =>
      (Recorded root (Owing owed stack ids) m ∧ Retains [] l m) ∧ ids.length = calls.length := by
  refine yields_mapM_scan (I := fun ids m => Recorded root (Owing owed stack ids) m ∧
    Retains [] l m) (fun call hcall done m ⟨hm, hle⟩ => ?_) ⟨h.mono fun _ _ => .inl, .refl [] l⟩
  refine (hvisit _ _ _ m _ (hcalls call hcall) (fun id hid => Nat.lt_of_lt_of_le (hopen id hid)
    hle.size) (howed.imp fun _ _ => .inl) hm).mono fun id n ⟨hn, hmn⟩ => ⟨?_, hle.trans hmn⟩
  refine hn.mono fun outer inner hstep => ?_
  rcases hstep with (hstep | ⟨hhead, hmem⟩) | ⟨hhead, hmem⟩
  · exact .inl hstep
  · exact .inr ⟨hhead, List.mem_append_left _ hmem⟩
  · exact .inr ⟨hhead, List.mem_append_right _ hmem⟩

theorem Unsaid.of_said {keyword : String} {value : Json} {n n' : SchemaNode}
    (h : Unsaid keyword value n) (hsaid : n'.said = n.said) : Unsaid keyword value n' := by
  have hn : Unsaid keyword value n.said :=
    ⟨fun field => by cases field <;> exact h.field _, h.definitions⟩
  rw [← hsaid] at hn
  exact ⟨fun field => by cases field <;> exact hn.field _, hn.definitions⟩

/-- **A keyword pays what its visits owe**, and spares the keywords that follow. -/
theorem yields_records_linkKeyword (hkeys : root.hasDistinctKeys = true) {visit : Visit}
    (hvisit : visit.Records root (id :: rest)) (hint : Option String) {keyword base : String}
    {value : Json} (hvalue : root.Within value) (hopen : ∀ other ∈ id :: rest, other < l.nodes.size)
    (howed : (id :: rest).IsChain fun inner outer => owed outer inner) (h : Recorded root owed l)
    (hunsaid : definesOnceOverlaid root = true → Unsaid keyword value (nodeAt l.nodes id)) :
    Yields (linkKeyword visit id hint keyword value base) l fun _ m =>
      Recorded root owed m ∧ Retains [id] l m ∧ ∀ later : String × Json × String,
        Spares (keyword, value, base) later → Unsaid later.1 later.2.1 (nodeAt l.nodes id) →
          Unsaid later.1 later.2.1 (nodeAt m.nodes id) := by
  obtain ⟨calls, absorb, ⟨hwithin, -, habsorbs⟩, heq⟩ :=
    takesOn_linkKeyword id hint keyword value base
  rw [show linkKeyword visit id hint keyword value base = _ from heq visit, takeOn]
  refine yields_bind.2 ((yields_records_answers hvisit (fun call hcall => hvalue.trans
    (hwithin call hcall)) hopen howed h).mono ?_)
  rintro ids m ⟨⟨hm, hle⟩, hlength⟩
  have hlt : id < m.nodes.size := Nat.lt_of_lt_of_le (hopen id List.mem_cons_self) hle.size
  have hsaid : (nodeAt m.nodes id).said = (nodeAt l.nodes id).said :=
    hle.said id (hopen id List.mem_cons_self) List.not_mem_nil
  have hnode : nodeAt (m.modifyNode id (absorb ids)).nodes id = absorb ids (nodeAt m.nodes id) := by
    rw [nodeAt_modifyNode, if_pos ⟨rfl, hlt⟩]
  refine yields_modify.2 ⟨hm.of_steps rfl (fun other => ?_) fun hapart outer inner hstep => ?_, ?_,
    fun later hspares hlater => ?_⟩
  · rw [nodeAt_modifyNode]
    split
    · exact habsorbs.cyclic_eq ids _
    · rfl
  · -- a step from the innermost node is there now, and the others were before
    have hpaid : ∀ {part}, part ∈ (nodeAt m.nodes id).children ∨ part ∈ ids →
        part ∈ (nodeAt (m.modifyNode id (absorb ids)).nodes id).children := by
      intro part hpart
      rw [hnode]
      refine habsorbs.mem_children hlength ((hunsaid hapart).of_said hsaid) ?_ hpart
      rintro entries rfl
      exact (Json.hasDistinctKeys_object.1 (hvalue.hasDistinctKeys hkeys)).1
    rcases hstep with hpart | hstep | ⟨houter, hinner⟩
    · by_cases heq : id = outer
      · subst heq
        exact .inl (hpaid (.inl hpart))
      · refine .inl ?_
        rwa [nodeAt_modifyNode, if_neg fun h => heq h.1]
    · exact .inr hstep
    · cases houter
      exact .inl (hpaid (.inr hinner))
  · exact (hle.widen [id]).trans
      (.modifyNode m id (fun node => habsorbs.pointer_eq ids node) (.inl List.mem_cons_self))
  · rw [hnode]
    exact (hlater.of_said hsaid).absorb hspares habsorbs ids

/-- The keywords of a node, one after the other. -/
theorem yields_records_linkKeywords (hkeys : root.hasDistinctKeys = true) {visit : Visit}
    (hvisit : visit.Records root (id :: rest)) (hint : Option String) {entries : Entries}
    (hvalues : ∀ entry ∈ entries, root.Within entry.2.1)
    (hspares : definesOnceOverlaid root = true → entries.Pairwise Spares)
    (hopen : ∀ other ∈ id :: rest, other < l.nodes.size)
    (howed : (id :: rest).IsChain fun inner outer => owed outer inner) (h : Recorded root owed l)
    (hunsaid : ∀ entry ∈ entries, Unsaid entry.1 entry.2.1 (nodeAt l.nodes id)) :
    Yields (entries.forM fun (keyword, child, base) =>
      linkKeyword visit id hint keyword child base) l fun _ m =>
        Recorded root owed m ∧ Retains [id] l m := by
  refine (yields_forM_scan (I := fun done m => Recorded root owed m ∧ Retains [id] l m ∧
    (definesOnceOverlaid root = true → ∀ more, entries = done ++ more →
      ∀ entry ∈ more, Unsaid entry.1 entry.2.1 (nodeAt m.nodes id))) ?_
    ⟨h, .refl _ l, fun _ more hmore entry hentry => hunsaid entry (hmore ▸ hentry)⟩).mono
    fun _ m hm => ⟨hm.1, hm.2.1⟩
  intro done entry more hsplit m ⟨hm, hle, hnew⟩
  refine (yields_records_linkKeyword hkeys hvisit hint
    (hvalues entry (hsplit ▸ List.mem_append_right _ List.mem_cons_self))
    (fun other hother => Nat.lt_of_lt_of_le (hopen other hother) hle.size) howed hm
    fun hapart => hnew hapart _ hsplit entry List.mem_cons_self).mono
    fun _ n ⟨hn, hmn, hlater⟩ => ⟨hn, hle.trans hmn, fun hapart others hothers other hother => ?_⟩
  have hmore : others = more := by
    rw [hsplit, List.append_assoc] at hothers
    exact (List.cons.inj (List.append_cancel_left hothers)).2.symm
  subst hmore
  refine hlater other ?_ (hnew hapart _ hsplit other (List.mem_cons_of_mem _ hother))
  have hpairs := hspares hapart
  rw [hsplit, List.pairwise_append] at hpairs
  exact (List.pairwise_cons.1 hpairs.2.1).1 other hother

/-- A node is opened, and the step to it is owed. -/
theorem isChain_owing (howed : stack.IsChain fun inner outer => owed outer inner) (id : SchemaId) :
    (id :: stack).IsChain fun inner outer => Owing owed stack [id] outer inner := by
  cases stack with
  | nil => exact .singleton _
  | cons top rest =>
    exact .cons_cons (.inr ⟨rfl, List.mem_singleton_self _⟩) (howed.imp fun _ _ => .inl)

/-- A node that holds nothing says nothing yet. -/
theorem unsaid_of_empty {node : SchemaNode}
    (hfields : ∀ field : Field, field.get node = field.get { pointer := "" })
    (hdefinitions : node.definitions = []) (keyword : String) (value : Json) :
    Unsaid keyword value node where
  field := by
    intro field _
    rw [hfields]
    cases field <;> rfl
  definitions := by
    intro _ _ _ key _
    rw [hdefinitions]
    exact List.not_mem_nil

/-- What is below a node that was opened is linked; the node takes on what its schema says. -/
theorem yields_records_linkBelow (hkeys : root.hasDistinctKeys = true) {visit : Visit}
    (hvisit : visit.Records root (id :: rest)) (hint : Option String) (pointer : String)
    {value : Json} (hvalue : root.Within value) (hopen : ∀ other ∈ id :: rest, other < l.nodes.size)
    (howed : (id :: rest).IsChain fun inner outer => owed outer inner) (h : Recorded root owed l)
    (hunsaid : ∀ keyword value, Unsaid keyword value (nodeAt l.nodes id)) :
    Yields (linkBelow visit root id pointer hint value) l fun _ n =>
      Recorded root owed n ∧ Retains [id] l n := by
  have hdistinct := hvalue.hasDistinctKeys hkeys
  have hspares : definesOnceOverlaid root = true →
      (contents root pointer value).Pairwise Spares := by
    intro hapart
    cases value with
    | object object =>
      exact pairwise_spares_contents hkeys (Json.hasDistinctKeys_object.1 hdistinct).1
        (hvalue.of_everyObject hapart)
    | _ => exact .nil
  refine yields_linkBelow_of_contents hkeys hdistinct fun m hm => ?_
  -- marking the node takes nothing from what it says
  have hmarked : Recorded root owed m ∧ Retains [id] l m ∧
      ∀ keyword value, Unsaid keyword value (nodeAt m.nodes id) := by
    rcases hm with rfl | ⟨target, rfl⟩
    · exact ⟨h, .refl _ m, hunsaid⟩
    · refine ⟨h.modifyNode id fun _ => ⟨rfl, rfl⟩,
        .modifyNode l id (fun _ => rfl) (.inl List.mem_cons_self), fun keyword value => ?_⟩
      rw [nodeAt_modifyNode, if_pos ⟨rfl, hopen id List.mem_cons_self⟩]
      have hold := hunsaid keyword value
      exact ⟨fun field => by cases field <;> exact hold.field _, hold.definitions⟩
  obtain ⟨hm, hle, hnew⟩ := hmarked
  refine (yields_records_linkKeywords hkeys hvisit hint
    (fun entry hentry => within_of_mem_contents hvalue hentry) hspares
    (fun other hother => Nat.lt_of_lt_of_le (hopen other hother) hle.size) howed hm
    fun entry _ => hnew _ _).mono ?_
  rintro - n ⟨hn, hmn⟩
  exact ⟨hn, hle.trans hmn⟩

/-- **Every visit keeps what is recorded.**  By induction on the levels; the step to the node that a
visit opens is owed while its keywords are linked, and is what the visit brings back. -/
theorem records_linkNode (hkeys : root.hasDistinctKeys = true) (limit levels : Nat)
    (stack : List SchemaId) (hstack : stack.Nodup) :
    Visit.Records (linkNode root limit levels stack) root stack := by
  induction levels generalizing stack with
  | zero => exact fun _ _ _ _ _ _ _ _ _ => yields_throw
  | succ levels ih =>
    intro pointer value origin l owed hvalue hopen howed h
    have hregister : ∀ id m, Recorded root (Owing owed stack [id]) m ∧ Retains [] l m →
        Yields (register pointer id) m fun _ n =>
          Recorded root (Owing owed stack [id]) n ∧ Retains [] l n := by
      rintro id m ⟨hm, hle⟩
      refine (yields_records_register hm pointer id).mono ?_
      rintro - n ⟨hn, hmn, -⟩
      exact ⟨hn, hle.trans hmn⟩
    refine yields_linkNode ?follow ?lost ?again ?new
    case follow =>
      intro target targetValue _ htarget _
      exact (ih stack hstack _ _ _ l owed (Pointer.within_of_follow? htarget) hopen howed h).mono
        hregister
    case lost =>
      intro target _ _
      exact yields_addNode _ (hregister _ _ ⟨(h.push ⟨rfl, rfl⟩).mono fun _ _ => .inl, .push l _⟩)
    case again =>
      intro id _ _
      refine (yields_records_closeCycle hstack hopen howed h id).mono ?_
      rintro - m ⟨hm, hle⟩
      exact yields_modify.2 ⟨hm.modifyNode id fun _ => ⟨rfl, rfl⟩,
        hle.trans (.modifyNode m id (fun _ => rfl) (.inr fun _ => rfl))⟩
    case new =>
      intro _ _
      have hnew : l.nodes.size ∉ stack := fun hmem => Nat.lt_irrefl _ (hopen _ hmem)
      refine (yields_records_register (h.push ⟨rfl, rfl⟩) pointer l.nodes.size).mono ?_
      rintro - m ⟨hm, hle, hnodes⟩
      have hsize : m.nodes.size = l.nodes.size + 1 := by
        rw [hnodes]
        exact Array.size_push ..
      have hopened : ∀ other ∈ l.nodes.size :: stack, other < m.nodes.size := by
        intro other hother
        rw [hsize]
        rcases List.mem_cons.1 hother with rfl | hother
        · exact Nat.lt_succ_self _
        · exact Nat.lt_succ_of_lt (hopen other hother)
      have hempty : ∀ keyword value, Unsaid keyword value (nodeAt m.nodes l.nodes.size) := by
        intro keyword value
        rw [hnodes, nodeAt_push_eq, if_pos rfl]
        exact unsaid_of_empty (fun field => by cases field <;> rfl) rfl _ _
      refine (yields_records_linkBelow hkeys (ih _ (List.nodup_cons.2 ⟨hnew, hstack⟩)) origin.hint
        pointer hvalue hopened (isChain_owing howed _) (hm.mono fun _ _ => .inl) hempty).mono ?_
      rintro - n ⟨hn, hmn⟩
      exact ⟨hn, ((Retains.push l _).trans hle).leave hmn⟩

/-! ### Linked graphs -/

/-- **What linking records.**  Every entry is a list of nodes without repetition, no entry is listed
twice, the marked nodes are those of the entries, and every cycle of the graph, read from the right
node on, starts and ends as an entry does.  Where no schema defines a key twice, the entries are
cycles of the graph, so there are none exactly when the graph has no cycle. -/
theorem cycles_of_ofBundle {b : Bundle} {o : Options} {g : SchemaGraph}
    (hkeys : b.schema.hasDistinctKeys = true) (h : ofBundle b o = .ok g) :
    (∀ cycle ∈ g.cycles, cycle ≠ [] ∧ cycle.Nodup) ∧ g.cycles.Nodup ∧
      (∀ id, (g.node id).cyclic = true ↔ ∃ cycle ∈ g.cycles, id ∈ cycle) ∧
      (∀ cycle, g.IsCycle cycle → ∃ recorded ∈ g.cycles, ∃ turned, g.IsCycle turned ∧
        turned ~r cycle ∧ turned.head? = recorded.head? ∧ turned.getLast? = recorded.getLast?) ∧
      (definesOnceOverlaid b.schema = true → (∀ cycle ∈ g.cycles, g.IsCycle cycle) ∧
        (g.cycles = [] ↔ ∀ cycle, ¬ g.IsCycle cycle)) := by
  have hturned : ∀ cycle, g.IsCycle cycle → ∃ recorded ∈ g.cycles, ∃ turned, g.IsCycle turned ∧
      turned ~r cycle ∧ turned.head? = recorded.head? ∧ turned.getLast? = recorded.getLast? :=
    fun cycle hcycle => hcycle.exists_turned h fun _ _ hpart => hpart
  have hrecorded : Recorded b.schema (fun _ _ => False) ⟨g.nodes, [], g.cycles⟩ := by
    obtain ⟨⟨nodes, places, cycles⟩, hwalk, rfl, rfl⟩ := exists_walk h
    obtain ⟨hresult, -⟩ := records_linkNode hkeys o.maxDepth (o.maxDepth + 1) [] .nil _ _ _ _
      (fun _ _ => False) (.self _) (by simp) .nil (recorded_start ..) _ _ hwalk
    refine hresult.of_steps rfl (fun _ => rfl) fun _ outer inner => Or.imp_right ?_
    rintro (hfalse | ⟨houter, -⟩)
    · exact hfalse
    · cases houter
  have hcycles : definesOnceOverlaid b.schema = true → ∀ cycle ∈ g.cycles, g.IsCycle cycle :=
    fun hapart cycle hcycle => ⟨hrecorded.nonempty cycle hcycle,
      (hrecorded.chain hapart cycle hcycle).imp fun _ _ hstep => hstep.resolve_right id,
      fun last hlast first hfirst =>
        (hrecorded.closed hapart cycle hcycle last hlast first hfirst).resolve_right id⟩
  refine ⟨fun cycle hcycle => ⟨hrecorded.nonempty cycle hcycle, hrecorded.nodup cycle hcycle⟩,
    hrecorded.once, hrecorded.marked, hturned, fun hapart => ⟨hcycles hapart, ?_, ?_⟩⟩
  · intro hnone cycle hcycle
    obtain ⟨recorded, hmem, -⟩ := hturned cycle hcycle
    rw [hnone] at hmem
    cases hmem
  · intro hnone
    exact List.eq_nil_iff_forall_not_mem.2 fun cycle hcycle =>
      hnone cycle (hcycles hapart cycle hcycle)

/-- Trees of trees, the second one beside a description. -/
def forest : Json :=
  .object [("$ref", .string "#/definitions/Tree"), ("definitions", .object [
    ("Tree", .object [("properties", .object [
      ("first", .object [("$ref", .string "#/definitions/Tree")]),
      ("others", .object [("type", .string "array"), ("items", .object [
        ("$ref", .string "#/definitions/Tree"), ("description", .string "one more")])])])])])]

/-- A forest has cycles, and those that are recorded are some of them. -/
theorem cycles_of_ofBundle_forest :
    ∃ g, ofBundle ⟨forest, []⟩ {} = .ok g ∧ (∀ cycle ∈ g.cycles, g.IsCycle cycle) ∧
      ∃ id, (g.node id).cyclic = true := by
  have hrun : (ofBundle ⟨forest, []⟩ {}).toOption.any (fun g =>
      g.ids.any fun id => (g.node id).cyclic) = true := by decide +kernel
  obtain ⟨g, hg, hmarked⟩ := exists_ok_of_any hrun
  obtain ⟨id, -, hid⟩ := List.any_eq_true.1 hmarked
  obtain ⟨-, -, -, -, hcycles⟩ := cycles_of_ofBundle (b := ⟨forest, []⟩) (o := {})
    (by decide +kernel) hg
  exact ⟨g, hg, (hcycles (by decide +kernel)).1, id, hid⟩

/-- Around a cycle there is always a next member. -/
theorem IsCycle.exists_next {g : SchemaGraph} {cycle : List SchemaId} (h : g.IsCycle cycle)
    {id : SchemaId} (hid : id ∈ cycle) : ∃ next ∈ cycle, next ∈ g.children id := by
  obtain ⟨turned, hturned, hlast, hrotated⟩ := h.exists_last hid
  obtain ⟨next, hnext⟩ := Option.isSome_iff_exists.1 (List.isSome_head?.2 hturned.nonempty)
  exact ⟨next, hrotated.mem_iff.1 (List.mem_of_head? hnext), hturned.closed id hlast next hnext⟩

/-- There are no cycles where subschemas rank lower. -/
theorem not_isCycle_of_rank {g : SchemaGraph} (rank : SchemaId → Nat)
    (hrank : ∀ id, ∀ part ∈ g.children id, rank part < rank id) (cycle : List SchemaId) :
    ¬ g.IsCycle cycle := by
  intro hcycle
  have hnone : ∀ bound, ∀ id ∈ cycle, rank id < bound → False := by
    intro bound
    induction bound with
    | zero => exact fun id _ hlt => Nat.not_lt_zero _ hlt
    | succ bound ih =>
      intro id hid hlt
      obtain ⟨next, hnext, hpart⟩ := hcycle.exists_next hid
      exact ih next hnext (Nat.lt_of_lt_of_le (hrank id next hpart) (Nat.le_of_lt_succ hlt))
  obtain ⟨id, hid⟩ := List.exists_mem_of_ne_nil cycle hcycle.nonempty
  exact hnone _ id hid (Nat.lt_succ_self _)

/-- A schema that redefines, under the other keyword, the definition that leads back to it. -/
def brokenLoop : Json :=
  .object [("properties", .object [("a", .object [("$ref", .string "#/definitions/T"),
      ("$defs", .object [("K", .object [("type", .string "string")])])])]),
    ("definitions", .object [("T", .object [("definitions", .object [
      ("K", .object [("properties", .object [
        ("b", .object [("$ref", .string "#/properties/a")])])])])])])]

/-- **A recorded cycle that is none**: no object in the document has a key under both keywords for
definitions, but the schema at `#/properties/a` has together with what it inherits.  The cycle through
its inherited definition is recorded and marked before that definition is replaced, and then the
graph has no cycle at all. -/
theorem ofBundle_brokenLoop_records_no_cycle :
    brokenLoop.hasDistinctKeys = true ∧ definesOnce brokenLoop = true ∧
      ∃ g, ofBundle ⟨brokenLoop, []⟩ {} = .ok g ∧ g.cycles ≠ [] ∧
        (∀ cycle, ¬ g.IsCycle cycle) := by
  have hrun : (ofBundle ⟨brokenLoop, []⟩ {}).toOption.any (fun g => decide (g.cycles ≠ []) &&
      g.ids.all fun id => (g.children id).all fun part =>
        decide ([4, 1, 2, 0, 3].getD part 0 < [4, 1, 2, 0, 3].getD id 0)) = true := by
    decide +kernel
  obtain ⟨g, hg, htest⟩ := exists_ok_of_any hrun
  obtain ⟨hcycles, hranks⟩ := Bool.and_eq_true_iff.1 htest
  refine ⟨by decide +kernel, by decide +kernel, g, hg, of_decide_eq_true hcycles,
    not_isCycle_of_rank ([4, 1, 2, 0, 3].getD · 0) fun id part hpart => ?_⟩
  have hlt : id < g.size := by
    refine Nat.not_le.1 fun hle => ?_
    rw [children, node, Array.getElem?_eq_none hle] at hpart
    cases hpart
  have hall := List.all_eq_true.1 hranks id (List.mem_range.2 hlt)
  exact of_decide_eq_true (List.all_eq_true.1 hall part hpart)

end SchemaGraph
end SchemaTypings
