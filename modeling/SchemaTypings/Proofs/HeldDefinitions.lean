import SchemaTypings.Proofs.BackEdges
import SchemaTypings.Proofs.ReferenceTargets

/-! # The root holds its definitions

The two keywords for definitions are linked one after the other into one field of the root, in which
a key can stand only once.  Where no key is defined twice, also together with what the root takes
over from the target of its reference, every definition stays: the root holds, under its key, the
node that stands for the place of the definition.
-/
namespace SchemaTypings
namespace SchemaGraph

open SchemaTypings.Bundle (EndsAt)

variable {root : Json} {stack rest : List SchemaId} {l m : Linked} {id : SchemaId}
  {base keyword : String} {value : Json} {visit : Visit}

/-! ### Tracked states -/

/-- What retains the nodes leaves them in their places. -/
theorem Retains.stays {changed : List SchemaId} (h : Retains changed l m) : l.Stays m where
  size := h.size
  place := fun other hother => congrArg Pointer.split (h.pointer other hother)

/-- What a node retains are its definitions, too. -/
theorem Retains.definitions_eq {changed : List SchemaId} (h : Retains changed l m)
    (hid : id < l.nodes.size) (hkept : id ∉ changed) :
    (nodeAt m.nodes id).definitions = (nodeAt l.nodes id).definitions :=
  show (nodeAt m.nodes id).said.definitions = (nodeAt l.nodes id).said.definitions by
    rw [h.said id hid hkept]

/-- **A tracked state**: nodes stand for the places that were reached, the cycles are recorded, and
the nodes of the stack are there. -/
structure Tracked (root : Json) (stack : List SchemaId) (l : Linked) : Prop where
  placed : Linked.Placed root l
  recorded : Recorded root (fun _ _ => True) l
  expanded : ∀ id ∈ stack, id < l.nodes.size

/-- The node of a state that stands for the place at a pointer. -/
def Linked.StandsAt (root : Json) (l : Linked) (pointer : String) (id : SchemaId) : Prop :=
  l.StandsFor root (Pointer.split pointer) id

theorem isChain_true (stack : List SchemaId) : stack.IsChain fun _ _ => True :=
  (List.pairwise_of_forall fun _ _ => trivial).isChain

/-- A visit to a value of the document: the state stays tracked and retains its nodes, and the node
that is brought back stands for the place. -/
theorem Tracked.visited (hl : Tracked root stack l) (hreaches : visit.Reaches root)
    (hrecords : visit.Records root stack) {pointer : String} (origin : Origin)
    (hvalue : Pointer.resolve? root pointer = some value) :
    Yields (visit pointer value origin) l fun id m =>
      Tracked root stack m ∧ Retains [] l m ∧ m.StandsAt root pointer id := by
  intro id m hrun
  obtain ⟨hplaced, -, hstands⟩ := hreaches pointer value origin l hvalue hl.placed id m hrun
  obtain ⟨hrecorded, hle⟩ := hrecords pointer value origin l _ (Pointer.within_of_follow? hvalue)
    hl.expanded (isChain_true stack) hl.recorded id m hrun
  exact ⟨⟨hplaced, hrecorded.mono fun _ _ _ => trivial, fun other hother =>
    Nat.lt_of_lt_of_le (hl.expanded other hother) hle.size⟩, hle, hstands⟩

/-- The schemas of an object are linked one by one, each under its key. -/
theorem Tracked.linkNamed (hl : Tracked root stack l) (hreaches : visit.Reaches root)
    (hrecords : visit.Records root stack) (hkeys : root.hasDistinctKeys = true)
    {entries : Dict Json} (origin : String → Origin)
    (hvalue : Pointer.resolve? root (Pointer.build base [keyword]) = some (.object entries)) :
    Yields (linkNamed visit base keyword origin entries) l fun held m =>
      Tracked root stack m ∧ Retains [] l m ∧
        HoldsNamed (m.StandsAt root) base keyword (.object entries) held := by
  have hnodup := nodup_keys_of_resolve? hkeys hvalue
  refine yields_mapM (Q := fun (entry : String × Json) (part : String × SchemaId) m =>
      part.1 = entry.1 ∧ m.StandsAt root (Pointer.build base [keyword, entry.1]) part.2)
    (Retains.refl []) Retains.trans
    (fun hle h => ⟨h.1, Linked.StandsFor.of_stays h.2 (Retains.stays hle)⟩)
    (fun entry hentry l hl => ?_) hl
  have hchild := resolve?_build_snoc [keyword] hvalue (Dict.get?_of_mem hnodup hentry)
  exact yields_bind.2 ((hl.visited hreaches hrecords (origin entry.1) hchild).mono
    fun id m ⟨hm, hle, hid⟩ => yields_pure.2 ⟨hm, hle, rfl, hid⟩)

/-! ### Definitions of a node -/

/-- What a keyword adds to the definitions of a node. -/
def AddsDefinitions (stands : String → SchemaId → Prop) (entry : String × Json × String)
    (before after : Dict SchemaId) : Prop :=
  ∃ held, after = before.extend held ∧
    if isDefinitions entry.1 then HoldsNamed stands entry.2.2 entry.1 entry.2.1 held else held = []

/-- A keyword without definitions leaves those of a node alone. -/
theorem Absorbs.definitions_eq {count : Nat} {absorb : List SchemaId → SchemaNode → SchemaNode}
    (h : Absorbs keyword value count absorb)
    (hnone : isDefinitions keyword = true → ∀ entries, value ≠ .object entries)
    (ids : List SchemaId) (n : SchemaNode) : (absorb ids n).definitions = n.definitions := by
  cases h with
  | set field held => cases field <;> rfl
  | nothing | stored => rfl
  | definitions entries hkeyword hvalue => exact absurd hvalue (hnone hkeyword entries)

/-- A keyword without definitions, whatever it visits. -/
theorem Tracked.definitions_linkKeyword (hl : Tracked root (id :: rest) l)
    (hrecords : visit.Records root (id :: rest)) (hint : Option String) (hwithin : root.Within value)
    (hnone : isDefinitions keyword = true → ∀ entries, value ≠ .object entries) :
    Yields (linkKeyword visit id hint keyword value base) l fun _ m =>
      (nodeAt m.nodes id).definitions = (nodeAt l.nodes id).definitions := by
  obtain ⟨calls, absorb, ⟨hcalls, -, habsorbs⟩, heq⟩ :=
    takesOn_linkKeyword id hint keyword value base
  rw [show linkKeyword visit id hint keyword value base = _ from heq visit, takeOn]
  refine yields_bind.2 ((yields_records_answers hrecords (fun call hcall => hwithin.trans
    (hcalls call hcall)) hl.expanded (isChain_true _) hl.recorded).mono ?_)
  rintro ids m ⟨⟨-, hle⟩, -⟩
  have hsame := hle.definitions_eq (hl.expanded id List.mem_cons_self) List.not_mem_nil
  refine yields_modify.2 ?_
  rw [nodeAt_modifyNode]
  split
  · rw [habsorbs.definitions_eq hnone, hsame]
  · exact hsame

/-- **What linking a keyword adds to the definitions** of the node that is being expanded. -/
theorem Tracked.addsDefinitions_linkKeyword (hl : Tracked root (id :: rest) l)
    (hreaches : visit.Reaches root) (hrecords : visit.Records root (id :: rest))
    (hkeys : root.hasDistinctKeys = true) (hint : Option String)
    (hvalue : Pointer.resolve? root (Pointer.build base [keyword]) = some value) :
    Yields (linkKeyword visit id hint keyword value base) l fun _ m =>
      AddsDefinitions (m.StandsAt root) (keyword, value, base) (nodeAt l.nodes id).definitions
        (nodeAt m.nodes id).definitions := by
  have hplain : (isDefinitions keyword = true → ∀ entries, value ≠ .object entries) →
      Yields (linkKeyword visit id hint keyword value base) l fun _ m =>
        AddsDefinitions (m.StandsAt root) (keyword, value, base) (nodeAt l.nodes id).definitions
          (nodeAt m.nodes id).definitions := by
    intro hnone
    refine (hl.definitions_linkKeyword hrecords hint (Pointer.within_of_follow? hvalue)
      hnone).mono fun _ m hsame => ⟨[], hsame, ?_⟩
    split
    · next hkeyword =>
      cases value with
      | object entries => exact absurd rfl (hnone hkeyword entries)
      | _ => rfl
    · rfl
  by_cases hkeyword : isDefinitions keyword = true
  · cases value with
    | object entries =>
      have hnamed : ∀ origin : String → Origin, Yields (do
          let linked ← SchemaGraph.linkNamed visit base keyword origin entries
          change id fun node => { node with definitions := node.definitions.extend linked }) l
          fun _ m => AddsDefinitions (m.StandsAt root) (keyword, .object entries, base)
            (nodeAt l.nodes id).definitions (nodeAt m.nodes id).definitions := by
        intro origin
        refine yields_bind.2 ((hl.linkNamed hreaches hrecords hkeys origin hvalue).mono ?_)
        rintro held m ⟨hm, hle, hheld⟩
        have hsame := hle.definitions_eq (hl.expanded id List.mem_cons_self) List.not_mem_nil
        refine yields_modify.2 ⟨held, ?_, ?_⟩
        · rw [nodeAt_modifyNode, if_pos ⟨rfl, hm.expanded id List.mem_cons_self⟩]
          exact congrArg (Dict.extend · held) hsame
        · rw [if_pos hkeyword]
          refine hheld.mono fun pointer other hother => ?_
          exact Linked.StandsFor.of_stays hother
            (m.stays_modifyNode id (f := fun node => { node with
              definitions := node.definitions.extend held }) fun _ => rfl)
      rcases isDefinitions_iff.1 hkeyword with rfl | rfl
      · exact hnamed _
      · exact hnamed _
    | _ => exact hplain fun _ _ heq => nomatch heq
  · exact hplain fun h => absurd h hkeyword

theorem HoldsNamed.keys_eq {stands : String → SchemaId → Prop} {entries : Dict Json}
    {held : Dict SchemaId} (h : HoldsNamed stands base keyword (.object entries) held) :
    held.keys = entries.keys := by
  have hall : List.Forall₂ (fun entry part => part.1 = entry.1 ∧
      stands (Pointer.build base [keyword, entry.1]) part.2) entries held := h
  clear h
  induction hall with
  | nil => rfl
  | cons hfirst _ ih => exact List.cons_eq_cons.2 ⟨hfirst.1, ih⟩

/-- What is added follows what is there, where its keys are new. -/
theorem AddsDefinitions.eq_append {stands : String → SchemaId → Prop}
    {entry : String × Json × String} {n : SchemaNode} {after : Dict SchemaId}
    (h : AddsDefinitions stands entry n.definitions after) (hnew : Unsaid entry.1 entry.2.1 n)
    (hnodup : ∀ entries : Dict Json, entry.2.1 = .object entries → entries.keys.Nodup) :
    ∃ held, after = n.definitions ++ held ∧ (isDefinitions entry.1 = true →
      HoldsNamed stands entry.2.2 entry.1 entry.2.1 held) := by
  obtain ⟨held, rfl, hheld⟩ := h
  have hnone : held = [] → n.definitions.extend held = n.definitions ++ held := by
    rintro rfl
    exact (List.append_nil _).symm
  split at hheld
  · next hkeyword =>
    refine ⟨held, ?_, fun _ => hheld⟩
    cases hvalue : entry.2.1 with
    | object entries =>
      rw [hvalue] at hheld
      refine Dict.extend_of_disjoint ?_ ?_
      · rw [hheld.keys_eq]
        exact hnodup entries hvalue
      · rw [hheld.keys_eq]
        exact hnew.definitions hkeyword entries hvalue
    | _ =>
      rw [hvalue] at hheld
      exact hnone hheld
  · next hkeyword => exact ⟨held, hnone hheld, fun h => absurd h hkeyword⟩

/-- The definitions of a keyword are held, each under its key. -/
def HoldsEach (stands : String → SchemaId → Prop) (held : Dict SchemaId)
    (entry : String × Json × String) : Prop :=
  isDefinitions entry.1 = true → ∀ entries, entry.2.1 = .object entries → ∀ own ∈ entries,
    ∃ part, (own.1, part) ∈ held ∧ stands (Pointer.build entry.2.2 [entry.1, own.1]) part

theorem HoldsNamed.holdsEach {stands : String → SchemaId → Prop} {entry : String × Json × String}
    {held : Dict SchemaId} (h : isDefinitions entry.1 = true →
      HoldsNamed stands entry.2.2 entry.1 entry.2.1 held) : HoldsEach stands held entry := by
  intro hkeyword entries hentries own hown
  have hall := h hkeyword
  rw [hentries] at hall
  obtain ⟨part, hpart, hkey, hstands⟩ := exists_left_of_forall₂ (List.Forall₂.flip hall) own hown
  exact ⟨part.2, hkey ▸ hpart, hstands⟩

/-- **The keywords of a node, one after the other**, give it all the definitions among them, where
no keyword takes away what another one gives. -/
theorem Tracked.holdsEach_linkKeywords (hl : Tracked root (id :: rest) l)
    (hreaches : visit.Reaches root) (hrecords : visit.Records root (id :: rest))
    (hkeys : root.hasDistinctKeys = true) (hint : Option String) {entries : Entries}
    (hstands : ∀ entry ∈ entries, Stands root entry) (hspares : entries.Pairwise Spares)
    (hnew : ∀ entry ∈ entries, Unsaid entry.1 entry.2.1 (nodeAt l.nodes id)) :
    Yields (entries.forM fun (keyword, child, base) =>
      linkKeyword visit id hint keyword child base) l fun _ m => m.nodes.size ≥ l.nodes.size ∧
        ∀ entry ∈ entries, HoldsEach (m.StandsAt root) (nodeAt m.nodes id).definitions entry := by
  refine (yields_forM_scan (I := fun done m => Tracked root (id :: rest) m ∧
    l.nodes.size ≤ m.nodes.size ∧
    (∀ entry ∈ done, HoldsEach (m.StandsAt root) (nodeAt m.nodes id).definitions entry) ∧
    ∀ more, entries = done ++ more → ∀ entry ∈ more,
      Unsaid entry.1 entry.2.1 (nodeAt m.nodes id)) ?_
    ⟨hl, Nat.le_refl _, fun _ h => absurd h List.not_mem_nil, fun more hmore entry hentry =>
      hnew entry (hmore ▸ hentry)⟩).mono fun _ m hm => ⟨hm.2.1, hm.2.2.1⟩
  rintro done entry more hsplit m ⟨hm, hsize, hdone, hopen⟩ ⟨⟩ n hrun
  have hmem : entry ∈ entries := hsplit ▸ List.mem_append_right _ List.mem_cons_self
  have hvalue := hstands entry hmem
  have hwithin := Pointer.within_of_follow? hvalue
  have hunsaid := hopen _ hsplit entry List.mem_cons_self
  obtain ⟨hrecorded, hle, hlater⟩ := yields_records_linkKeyword hkeys hrecords hint
    hwithin hm.expanded (isChain_true _) hm.recorded (fun _ => hunsaid) _ n hrun
  obtain ⟨hplaced, hstays⟩ := keepsPlaces_linkKeyword hkeys hreaches id hint hvalue m hm.placed _ n
    hrun
  obtain ⟨held, hafter, hheld⟩ := (hm.addsDefinitions_linkKeyword hreaches hrecords hkeys hint
    hvalue _ n hrun).eq_append hunsaid fun others hothers =>
      (Json.hasDistinctKeys_object.1 (hothers ▸ hwithin.hasDistinctKeys hkeys)).1
  refine ⟨⟨hplaced, hrecorded, fun other hother => Nat.lt_of_lt_of_le (hm.expanded other hother)
    hstays.size⟩, Nat.le_trans hsize hstays.size, fun other hother => ?_,
    fun others hothers other hother => ?_⟩
  · rcases List.mem_append.1 hother with hother | hother
    · intro hkeyword entries hentries own hown
      obtain ⟨part, hpart, hplace⟩ := hdone other hother hkeyword entries hentries own hown
      exact ⟨part, hafter ▸ List.mem_append_left _ hpart, hplace.of_stays hstays⟩
    · cases List.mem_singleton.1 hother
      intro hkeyword entries hentries own hown
      obtain ⟨part, hpart, hplace⟩ := HoldsNamed.holdsEach hheld hkeyword entries hentries own hown
      exact ⟨part, hafter ▸ List.mem_append_right _ hpart, hplace⟩
  · have hmore : others = more := by
      rw [hsplit, List.append_assoc] at hothers
      exact (List.cons.inj (List.append_cancel_left hothers)).2.symm
    subst hmore
    refine hlater other ?_ (hopen _ hsplit other (List.mem_cons_of_mem _ hother))
    rw [hsplit, List.pairwise_append] at hspares
    exact (List.pairwise_cons.1 hspares.2.1).1 other hother

/-! ### The root -/

/-- What an object says itself is among what it says in the end. -/
theorem mem_contents_of_mem {root : Json} {pointer : String} {object : Dict Json}
    (hobject : object.keys.Nodup) {own : String × Json} (h : own ∈ object)
    (hlinked : isLinked own.1 = true) :
    (own.1, own.2, pointer) ∈ contents root pointer (.object object) := by
  have hmem : (own.1, own.2, pointer) ∈
      (Entries.of pointer object).filter fun entry => isLinked entry.1 :=
    List.mem_filter.2 ⟨List.mem_map.2 ⟨own, h, rfl⟩, hlinked⟩
  refine List.mem_append.2 ?_
  by_cases htaken : Dict.contains (heritage root object) own.1 = true
  · left
    obtain ⟨taken, htaken, heq⟩ := List.mem_map.1 ((Dict.contains_iff_mem_keys _ _).1 htaken)
    have hget : Dict.get? ((Entries.of pointer object).filter fun entry => isLinked entry.1) own.1 =
        some (own.2, pointer) := by
      rw [Dict.get?_filter, if_pos hlinked, get?_entriesOf, Dict.get?_of_mem hobject h]
      rfl
    exact List.mem_map.2 ⟨taken, htaken, by rw [heq, hget]; rfl⟩
  · exact Or.inr (List.mem_filter.2 ⟨hmem, by simpa using htaken⟩)

/-- The state in which the root is entered is tracked. -/
theorem tracked_start {value : Json} (hvalue : Pointer.resolve? root "#" = some value)
    (hbare : Bundle.bareRef? value = none) {node : SchemaNode} (hpointer : node.pointer = "#")
    (hblank : node.children = [] ∧ node.cyclic = false) :
    Tracked root [0] ⟨#[node], [("#", 0)], []⟩ where
  placed := by
    intro pointer id hid
    rw [List.lookup_cons] at hid
    split at hid
    · next heq =>
      rw [beq_iff_eq] at heq
      cases hid
      subst heq
      exact ⟨Nat.zero_lt_one, (Linked.standsFor_push ⟨#[], [], []⟩ hvalue hbare hpointer).place⟩
    · cases hid
  recorded := ((recorded_start root _).push hblank).of_steps rfl (fun _ => rfl) fun _ _ _ h => h
  expanded := by
    intro id hid
    rw [List.mem_singleton.1 hid]
    exact Nat.zero_lt_one

/-- **The node of an object that is visited first** holds all definitions of the object. -/
theorem holdsEach_linkNode (hkeys : root.hasDistinctKeys = true) (limit levels : Nat)
    {object : Dict Json} (hvalue : Pointer.resolve? root "#" = some (.object object))
    (hbare : Bundle.bareRef? (.object object) = none)
    (hapart : definesApart (overlaid root object) = true) (origin : Origin) :
    Yields (linkNode root limit (levels + 1) [] "#" (.object object) origin) ⟨#[], [], []⟩
      fun id m => ∀ entry ∈ contents root "#" (.object object),
        HoldsEach (m.StandsAt root) (nodeAt m.nodes id).definitions entry := by
  have hnodup := nodup_keys_of_resolve? hkeys hvalue
  refine yields_linkNode ?follow ?lost ?again ?new
  case follow => exact fun htarget => by cases hbare.symm.trans htarget
  case lost => exact fun htarget => by cases hbare.symm.trans htarget
  case again => exact fun _ hid => by cases hid
  case new =>
    intro _ hunknown
    refine (yields_register_new (l := Linked.push _ _) hunknown).2 ?_
    refine yields_linkBelow_of_contents hkeys (Pointer.hasDistinctKeys_of_follow? hkeys hvalue)
      fun m hm => ?_
    -- the root is there alone and says nothing yet, whether or not it is marked
    have hstart : Tracked root [0] m ∧ ∀ keyword value, Unsaid keyword value (nodeAt m.nodes 0) := by
      rcases hm with rfl | ⟨target, rfl⟩ <;>
        exact ⟨tracked_start hvalue hbare rfl ⟨rfl, rfl⟩,
          unsaid_of_empty (fun field => by cases field <;> rfl) rfl⟩
    obtain ⟨hm, hnew⟩ := hstart
    exact (hm.holdsEach_linkKeywords (reaches_linkNode hkeys limit levels [0])
      (records_linkNode hkeys limit levels [0] (List.nodup_singleton 0)) hkeys origin.hint
      (fun entry hentry => stands_of_mem_contents hkeys hvalue hentry)
      (pairwise_spares_contents hkeys hnodup hapart) fun entry _ => hnew _ _).mono
      fun _ _ hn => hn.2

/-- **The root holds every definition** under its key, where it defines no key twice. -/
theorem exists_definition_of_ofBundle {b : Bundle} {o : Options} {g : SchemaGraph}
    (hkeys : b.schema.hasDistinctKeys = true) (h : ofBundle b o = .ok g) {object : Dict Json}
    (hobject : b.schema = .object object) (hapart : definesApart (overlaid b.schema object) = true)
    {keyword : String} (hkeyword : isDefinitions keyword = true) {entries : Dict Json}
    (hentries : object.get? keyword = some (.object entries)) {key : String}
    (hkey : key ∈ entries.keys) :
    ∃ id < g.size, (key, id) ∈ (g.node g.root).definitions ∧
      ∀ last, EndsAt b.schema [keyword, key] last → Pointer.split (g.node id).pointer = last := by
  obtain ⟨l, hwalk, hnodes, -⟩ := exists_walk h
  have hlinked : isLinked keyword = true := by
    rcases isDefinitions_iff.1 hkeyword with rfl | rfl <;> decide
  have hbare : Bundle.bareRef? b.schema = none := by
    refine Option.eq_none_iff_forall_ne_some.2 fun target htarget => ?_
    have heq := hobject.symm.trans (Bundle.bareRef?_eq_some.1 htarget)
    cases heq
    rw [Dict.get?_cons] at hentries
    split at hentries <;> cases hentries
  have hvalue : Pointer.resolve? b.schema "#" = some (.object object) := congrArg some hobject
  obtain ⟨own, hown, rfl⟩ := List.mem_map.1 hkey
  rw [hobject] at hbare
  rw [walk, show linkNode b.schema o.maxDepth (o.maxDepth + 1) [] "#" b.schema {} =
    linkNode b.schema o.maxDepth (o.maxDepth + 1) [] "#" (.object object) {} from
      congrArg (linkNode b.schema o.maxDepth (o.maxDepth + 1) [] "#" · {}) hobject] at hwalk
  obtain ⟨id, hmem, hlt, hplace⟩ := holdsEach_linkNode hkeys o.maxDepth o.maxDepth hvalue hbare
    hapart {} _ _ hwalk _ (mem_contents_of_mem (nodup_keys_of_resolve? hkeys hvalue)
      (Dict.mem_of_get? hentries) hlinked) hkeyword entries rfl own hown
  refine ⟨id, ?_, ?_, fun last hlast => ?_⟩
  · rw [size, ← hnodes]
    exact hlt
  · rw [node, ← hnodes]
    exact hmem
  · rw [node, ← hnodes]
    refine hplace last ?_
    rw [Pointer.split_build, Pointer.split_hash]
    exact hlast

end SchemaGraph
end SchemaTypings
