import Mathlib.Data.List.Nodup
import SchemaTypings.Proofs.MakingKinds
import SchemaTypings.Proofs.VisitsSideBySide

/-! # Types keep the identity of schemas

A schema is met many times: in several places, and inside itself.  It gets one type, reserved where
it is met first, and every other place finds that type.  The levels of nesting that the making of
types is given are enough, so that more of them change nothing.  In the end every type is that of one
schema, with the kind that was made when it was reserved, or a part without a name.
-/
namespace SchemaTypings
namespace TypeGraph

variable {g : SchemaGraph} {o : Options} {levels : Nat} {s t : Growth}

/-! ### Enough levels -/

/-- Equal states that are ready for some levels of nesting. -/
def SamePrepared (g : SchemaGraph) (o : Options) (levels : Nat) (s t : Growth) : Prop :=
  s = t ∧ Prepared g o levels s

/-- What a run keeps, it keeps beside itself. -/
theorem matches_self {σ α : Type} {I : σ → Prop} {x : StateM σ α} (h : ∀ s, I s → I (x.run s).2) :
    Matches (fun s t => s = t ∧ I s) x x Eq := by
  rintro s _ ⟨rfl, hs⟩
  exact ⟨rfl, rfl, h s hs⟩

theorem keptByAdditions_samePrepared : KeptByAdditions o (SamePrepared g o levels) where
  addUnnamed kind := matches_self fun _ hs => (making_addUnnamed hs kind).1
  placeholderType := matches_self fun _ hs => (making_placeholderType hs).1

/-- **More levels than are needed change nothing.** -/
theorem matches_ofNode_levels (hg : ∀ id, ∀ part ∈ g.children id, part < g.size)
    {levels more : Nat} (hle : levels ≤ more) : ∀ schema < g.size,
      Matches (SamePrepared g o levels) (ofNode g o levels schema) (ofNode g o more schema) Eq := by
  induction levels generalizing more with
  | zero =>
    rintro schema hlt s _ ⟨rfl, hs⟩
    cases hlookup : s.typeOf.lookup schema with
    | some type =>
      rw [ofNode_run_found hlookup, ofNode_run_found hlookup]
      exact ⟨rfl, rfl, hs⟩
    | none =>
      exact absurd hs.toReady (not_ready_zero hlt hlookup)
  | succ levels ih =>
    rintro schema hlt s _ ⟨rfl, hs⟩
    have hprepared := (makes_ofNode o hg (levels + 1) schema hlt s hs).1
    obtain ⟨more, rfl⟩ := Nat.exists_eq_add_of_le' hle
    cases hlookup : s.typeOf.lookup schema with
    | some type =>
      rw [ofNode_run_found hlookup, ofNode_run_found hlookup]
      exact ⟨rfl, rfl, hs⟩
    | none =>
      obtain ⟨hvalue, hstate, -⟩ := keptByAdditions_samePrepared.kindOf
        (fun part hpart => ih (Nat.le_add_left levels more) part (hg schema part hpart))
        _ _ ⟨rfl, hs.reserving hlt hlookup⟩
      have hsame : (ofNode g o (levels + 1) schema).run s =
          (ofNode g o (more + levels + 1) schema).run s := by
        rw [ofNode_run_new hlookup, ofNode_run_new hlookup, hvalue, hstate]
      exact ⟨congrArg Prod.fst hsame, congrArg Prod.snd hsame, hprepared⟩

/-- The kind of a schema that is made with enough levels of nesting. -/
theorem kindOf_levels (hg : ∀ id, ∀ part ∈ g.children id, part < g.size) {levels more : Nat}
    (hle : levels ≤ more) (schema : SchemaId) (hs : Prepared g o levels s) :
    (kindOf (ofNode g o levels) g o schema).run s = (kindOf (ofNode g o more) g o schema).run s := by
  obtain ⟨hvalue, hstate, -⟩ := keptByAdditions_samePrepared.kindOf
    (fun part hpart => matches_ofNode_levels hg hle part (hg schema part hpart)) _ _ ⟨rfl, hs⟩
  exact Prod.ext hvalue hstate

/-! ### Where types come from -/

/-- **The kind that was made for a schema when its type was reserved**, behind all types of schemas
that were there before. -/
def MadeKind (g : SchemaGraph) (o : Options) (t : Growth) (schema : SchemaId) (type : TypeId)
    (kind : TypeKind) : Prop :=
  ∃ s : Growth, s.typeOf.lookup schema = none ∧ s.nodes.size = type ∧
    ((schema, type) :: s.typeOf) <:+ t.typeOf ∧
    ((kindOf (ofNode g o g.size) g o schema).run (s.reserving g schema)).1 = kind

/-- **What is kept of types and schemas**: no schema has two types and no type has two schemas.  The
type of a schema is what was reserved for it, with the kind that was made for it unless that is still
being made; and every other type is a part without a name. -/
structure Identified (g : SchemaGraph) (o : Options) (opened : List SchemaId) (t : Growth) :
    Prop where
  schemas : (t.typeOf.map Prod.fst).Nodup
  types : (t.typeOf.map Prod.snd).Nodup
  settled : ∀ schema type, (schema, type) ∈ t.typeOf → ∃ kind,
    t.nodes[type]? = some { reservedNode (g.node schema) with kind } ∧
      (schema ∉ opened → MadeKind g o t schema type kind)
  source : ∀ (id : TypeId) (node : TypeNode), t.nodes[id]? = some node →
    (∃ kind, node = { kind }) ∨ ∃ schema, (schema, id) ∈ t.typeOf

theorem MadeKind.of_suffix {schema : SchemaId} {type : TypeId} {kind : TypeKind}
    (h : MadeKind g o s schema type kind) (hsuffix : s.typeOf <:+ t.typeOf) :
    MadeKind g o t schema type kind := by
  obtain ⟨u, hnone, hsize, hle, hkind⟩ := h
  exact ⟨u, hnone, hsize, hle.trans hsuffix, hkind⟩

namespace Identified

variable {opened : List SchemaId}

theorem start (g : SchemaGraph) (o : Options) : Identified g o [] {} where
  schemas := .nil
  types := .nil
  settled _ _ h := nomatch h
  source _ _ h := nomatch h

/-- A part may be added. -/
theorem push (hs : Identified g o opened s) (kind : TypeKind) :
    Identified g o opened { s with nodes := s.nodes.push { kind } } where
  schemas := hs.schemas
  types := hs.types
  settled := by
    intro schema type htype
    obtain ⟨kind, hnode, hkind⟩ := hs.settled schema type htype
    exact ⟨kind, getElem?_push_of_some hnode _, hkind⟩
  source := by
    intro id node hnode
    rw [Array.getElem?_push] at hnode
    split at hnode
    · cases hnode
      exact Or.inl ⟨kind, rfl⟩
    · exact hs.source id node hnode

/-- The placeholder is found or added. -/
theorem placeholderType (hs : Identified g o opened s) :
    Identified g o opened ((placeholderType o).run s).2 := by
  unfold TypeGraph.placeholderType
  show After _ s fun _ t => Identified g o opened t
  refine after_bind.2 (after_get.2 ?_)
  split
  · exact hs
  · have hpush := hs.push (placeholderKind o)
    exact ⟨hpush.schemas, hpush.types, hpush.settled, hpush.source⟩

/-- Types of schemas are there. -/
theorem lt_size (hs : Identified g o opened s) {schema : SchemaId} {type : TypeId}
    (h : (schema, type) ∈ s.typeOf) : type < s.nodes.size := by
  obtain ⟨kind, hnode, -⟩ := hs.settled schema type h
  exact (Array.getElem?_eq_some_iff.1 hnode).1

/-- The type of a schema may be reserved, while its kind is being made. -/
theorem reserving (hs : Identified g o opened s) {schema : SchemaId}
    (hnone : s.typeOf.lookup schema = none) :
    Identified g o (schema :: opened) (s.reserving g schema) where
  schemas := by
    have hnew : schema ∉ s.typeOf.map Prod.fst := by
      intro hmem
      obtain ⟨type, htype⟩ := Growth.has_iff.1 hmem
      cases htype.symm.trans hnone
    exact List.nodup_cons.2 ⟨hnew, hs.schemas⟩
  types := by
    have hnew : s.nodes.size ∉ s.typeOf.map Prod.snd := by
      intro hmem
      obtain ⟨⟨other, _⟩, hother, rfl⟩ := List.mem_map.1 hmem
      exact Nat.lt_irrefl _ (hs.lt_size hother)
    exact List.nodup_cons.2 ⟨hnew, hs.types⟩
  settled := by
    intro other type htype
    rcases List.mem_cons.1 htype with heq | htype
    · cases heq
      exact ⟨.any, Array.getElem?_push_size, fun hnot => absurd List.mem_cons_self hnot⟩
    · obtain ⟨kind, hnode, hkind⟩ := hs.settled other type htype
      refine ⟨kind, getElem?_push_of_some hnode _, fun hnot => ?_⟩
      exact (hkind fun hmem => hnot (List.mem_cons_of_mem _ hmem)).of_suffix (List.suffix_cons ..)
  source := by
    intro id node hnode
    rw [Growth.reserving, Array.getElem?_push] at hnode
    split at hnode
    · next hid => exact Or.inr ⟨schema, hid ▸ List.mem_cons_self⟩
    · rcases hs.source id node hnode with hpart | ⟨other, hother⟩
      · exact Or.inl hpart
      · exact Or.inr ⟨other, List.mem_cons_of_mem _ hother⟩

/-- The type of a schema may be settled with the kind that was made for it. -/
theorem settling (ht : Identified g o (schema :: opened) t) {type : TypeId} {kind : TypeKind}
    (htype : (schema, type) ∈ t.typeOf) (hkind : MadeKind g o t schema type kind) :
    Identified g o opened (t.settling type kind) where
  schemas := ht.schemas
  types := ht.types
  settled := by
    intro other otherType hother
    obtain ⟨otherKind, hnode, hmade⟩ := ht.settled other otherType hother
    by_cases heq : otherType = type
    · subst heq
      obtain rfl : other = schema :=
        congrArg Prod.fst (List.inj_on_of_nodup_map ht.types hother htype rfl)
      refine ⟨kind, ?_, fun _ => hkind⟩
      rw [Growth.settling, Array.getElem?_modify, if_pos rfl, hnode]
      rfl
    · refine ⟨otherKind, (t.getElem?_settling kind heq).trans hnode, fun hnot => hmade fun hmem => ?_⟩
      rcases List.mem_cons.1 hmem with rfl | hmem
      · exact heq (congrArg Prod.snd (List.inj_on_of_nodup_map ht.schemas hother htype rfl))
      · exact hnot hmem
  source := by
    intro id node hnode
    by_cases hid : id = type
    · exact Or.inr ⟨schema, hid ▸ htype⟩
    · rw [t.getElem?_settling kind hid] at hnode
      exact ht.source id node hnode

end Identified

/-! ### Every visit keeps identity -/

theorem typeOf_placeholderType (o : Options) (s : Growth) :
    ((placeholderType o).run s).2.typeOf = s.typeOf := by
  unfold placeholderType
  show After _ s fun _ t => t.typeOf = s.typeOf
  refine after_bind.2 (after_get.2 ?_)
  split <;> rfl

/-- **A state behind another**, in which the types of schemas are still those that were there. -/
structure Behind (g : SchemaGraph) (o : Options) (levels : Nat) (opened : List SchemaId)
    (before : List (SchemaId × TypeId)) (t : Growth) : Prop where
  prepared : Prepared g o levels t
  identified : Identified g o opened t
  suffix : before <:+ t.typeOf

theorem keptByAdditions_behind {opened : List SchemaId} {before : List (SchemaId × TypeId)} :
    KeptByAdditions o fun s t => s = t ∧ Behind g o levels opened before s where
  addUnnamed kind := matches_self fun _ hs =>
    ⟨(making_addUnnamed hs.prepared kind).1, hs.identified.push kind, hs.suffix⟩
  placeholderType := matches_self fun s hs =>
    ⟨(making_placeholderType hs.prepared).1, hs.identified.placeholderType,
      (typeOf_placeholderType o s).symm ▸ hs.suffix⟩

/-- **A visit keeps the identity of schemas**, whichever kinds are being made around it. -/
theorem behind_ofNode (hg : ∀ id, ∀ part ∈ g.children id, part < g.size) {levels : Nat}
    (hle : levels ≤ g.size) {schema : SchemaId} (hlt : schema < g.size) {opened : List SchemaId}
    {before : List (SchemaId × TypeId)} (hs : Behind g o levels opened before s) :
    Behind g o levels opened before ((ofNode g o levels schema).run s).2 := by
  induction levels generalizing schema opened before s with
  | zero =>
    cases hlookup : s.typeOf.lookup schema with
    | some type =>
      rw [ofNode_run_found hlookup]
      exact hs
    | none =>
      exact absurd hs.prepared.toReady (not_ready_zero hlt hlookup)
  | succ levels ih =>
    have hprepared := (makes_ofNode o hg (levels + 1) schema hlt s hs.prepared).1
    cases hlookup : s.typeOf.lookup schema with
    | some type =>
      rw [ofNode_run_found hlookup]
      exact hs
    | none =>
      -- while the kind is made, the schema is open, and its type is the last one
      have hreserved : Behind g o levels (schema :: opened) (s.reserving g schema).typeOf
          (s.reserving g schema) :=
        ⟨hs.prepared.reserving hlt hlookup, hs.identified.reserving hlookup, List.suffix_refl _⟩
      have hvisits : ∀ part ∈ g.children schema,
          Matches (fun u v => u = v ∧ Behind g o levels (schema :: opened)
            (s.reserving g schema).typeOf u) (ofNode g o levels part) (ofNode g o levels part) Eq :=
        fun part hpart => matches_self fun u hu =>
          ih (Nat.le_of_succ_le hle) (hg schema part hpart) hu
      obtain ⟨-, -, ht⟩ := keptByAdditions_behind.kindOf hvisits _ _ ⟨rfl, hreserved⟩
      have hkind : MadeKind g o ((kindOf (ofNode g o levels) g o schema).run
          (s.reserving g schema)).2 schema s.nodes.size
          ((kindOf (ofNode g o levels) g o schema).run (s.reserving g schema)).1 :=
        ⟨s, hlookup, rfl, ht.suffix,
          congrArg Prod.fst (kindOf_levels hg (Nat.le_of_succ_le hle) schema hreserved.prepared).symm⟩
      have hmem := ht.suffix.subset (List.mem_cons_self (a := (schema, s.nodes.size)))
      refine ⟨hprepared, ?_, ?_⟩
      · rw [ofNode_run_new hlookup]
        exact ht.identified.settling hmem hkind
      · rw [ofNode_run_new hlookup]
        exact (hs.suffix.trans (List.suffix_cons ..)).trans ht.suffix

/-- **The types of a graph keep the identity of its schemas.** -/
theorem identified_made (o : Options) (hroot : g.root < g.size)
    (hg : ∀ id, ∀ part ∈ g.children id, part < g.size) : Identified g o [] (made g o) := by
  have hstart : Behind g o g.size [] [] {} :=
    ⟨prepared_start g o, .start g o, List.nil_suffix⟩
  exact (behind_ofNode hg (Nat.le_refl _) hroot hstart).identified

/-- The types of schemas, listed and looked up. -/
theorem Identified.mem_iff_assigns {opened : List SchemaId} (h : Identified g o opened s)
    {schema : SchemaId} {type : TypeId} : (schema, type) ∈ s.typeOf ↔ s.Assigns schema type := by
  have hmem : ∀ {type}, s.Assigns schema type → (schema, type) ∈ s.typeOf := by
    intro type hassigns
    obtain ⟨before, after, heq, -⟩ := List.lookup_eq_some_iff.1 hassigns
    exact heq ▸ List.mem_append_right _ List.mem_cons_self
  refine ⟨fun htype => ?_, hmem⟩
  obtain ⟨other, hother⟩ := Growth.has_iff.1 (List.mem_map.2 ⟨_, htype, rfl⟩)
  obtain rfl : other = type :=
    congrArg Prod.snd (List.inj_on_of_nodup_map h.schemas (hmem hother) htype rfl)
  exact hother

/-- **A type is a part without a name, or that of a schema.** -/
theorem part_or_assigned (o : Options) (hroot : g.root < g.size)
    (hg : ∀ id, ∀ part ∈ g.children id, part < g.size) (id : TypeId) :
    (∃ kind, (ofSchema g o).node id = { kind }) ∨ ∃ schema, (made g o).Assigns schema id := by
  have hmade := identified_made o hroot hg
  cases hnode : (made g o).nodes[id]? with
  | none =>
    refine Or.inl ⟨.any, ?_⟩
    rw [TypeGraph.node, show (ofSchema g o).nodes[id]? = none from hnode]
    rfl
  | some node =>
    rcases hmade.source id node hnode with ⟨kind, rfl⟩ | ⟨schema, hschema⟩
    · refine Or.inl ⟨kind, ?_⟩
      rw [TypeGraph.node, show (ofSchema g o).nodes[id]? = some { kind } from hnode]
      rfl
    · exact Or.inr ⟨schema, hmade.mem_iff_assigns.1 hschema⟩

/-- **Types keep the identity of schemas.**  The levels of nesting are enough: more of them make the
same types.  The root gets the root; no schema that is reached gets two types, and no two schemas get
one.  The type of a schema carries the name, the key, the comment and the pointer of the schema, and
the kind that was made for it when it was reserved.  In that kind every place which held a schema (a
property, an item, a member of a set, a base, a definition) holds the type that the schema has in the
end, also where the schema was still open. -/
theorem types_keep_identity (o : Options) (hroot : g.root < g.size)
    (hg : ∀ id, ∀ part ∈ g.children id, part < g.size) :
    (∀ levels, g.size ≤ levels →
      (ofNode g o levels g.root).run {} = ((ofSchema g o).root, made g o)) ∧
    (made g o).Assigns g.root (ofSchema g o).root ∧
    ((made g o).typeOf.map Prod.fst).Nodup ∧ ((made g o).typeOf.map Prod.snd).Nodup ∧
    ∀ schema type, (schema, type) ∈ (made g o).typeOf →
      (made g o).Assigns schema type ∧ ∃ kind,
        (ofSchema g o).nodes[type]? = some
          { kind
            name := (g.node schema).standaloneName
            key := (g.node schema).keyName
            comment := commentOf (g.node schema)
            origin := some (g.node schema).pointer } ∧
        MadeKind g o (made g o) schema type kind ∧ IsKind (made g o) g o schema kind := by
  have hmade := identified_made o hroot hg
  refine ⟨fun levels hle => ?_, (adds_made o hroot hg).2, hmade.schemas, hmade.types, ?_⟩
  · obtain ⟨hvalue, hstate, -⟩ :=
      matches_ofNode_levels hg hle g.root hroot {} {} ⟨rfl, prepared_start g o⟩
    exact (Prod.ext hvalue hstate).symm
  · intro schema type htype
    have hassigns := hmade.mem_iff_assigns.1 htype
    obtain ⟨kind, hnode, hkind⟩ := exists_isKind_of_assigns hroot hg hassigns
    obtain ⟨kind', hnode', hmadeKind⟩ := hmade.settled schema type htype
    obtain rfl : kind = kind' :=
      congrArg TypeNode.kind (Option.some.inj (hnode.symm.trans hnode'))
    exact ⟨hassigns, kind, hnode, hmadeKind List.not_mem_nil, hkind⟩

/-- A person with a spouse and friends that are persons or addresses; the address is shared. -/
def family : SchemaGraph where
  nodes := #[
    { pointer := "#", standaloneName := some "Person"
      keywords := [("description", .string "A person.")]
      properties := [("spouse", 0), ("home", 1), ("friends", 2)] },
    { pointer := "#/definitions/Address", keyName := some "home", standaloneName := some "Address"
      properties := [("owner", 0)] },
    { pointer := "#/properties/friends", keyName := some "friends", items := some (.each 3) },
    { pointer := "#/properties/friends/items", anyOf := [0, 1] }]
  root := 0
  referenceTexts := []
  cycles := [[0], [0, 1]]

/-- The person and the address are met again while they are open, and in several places. -/
theorem types_keep_identity_family :
    family.root < family.size ∧ (∀ id, ∀ part ∈ family.children id, part < family.size) ∧
    (made family {}).typeOf = [(3, 3), (2, 2), (1, 1), (0, 0)] ∧
    (ofSchema family {}).children 0 = [0, 1, 2] ∧ (ofSchema family {}).children 1 = [0] ∧
    (ofSchema family {}).children 3 = [0, 1] ∧
    (∃ kind, (ofSchema family {}).nodes[0]? = some
      { kind, name := some "Person", comment := some "A person.", origin := some "#" } ∧
      IsKind (made family {}) family {} 0 kind) ∧
    (ofNode family {} 7 0).run {} = ((ofSchema family {}).root, made family {}) := by
  have hchecked : ∀ id < family.size, ∀ part ∈ family.children id, part < family.size := by
    decide +kernel
  have hparts : ∀ id, ∀ part ∈ family.children id, part < family.size := by
    intro id part hpart
    refine hchecked id (Nat.not_le.1 fun hle => ?_) part hpart
    rw [SchemaGraph.children, SchemaGraph.node, Array.getElem?_eq_none hle] at hpart
    cases hpart
  have hroot : family.root < family.size := by decide
  obtain ⟨hlevels, -, -, -, hall⟩ := types_keep_identity {} hroot hparts
  have htypes : (made family {}).typeOf = [(3, 3), (2, 2), (1, 1), (0, 0)] := by decide +kernel
  obtain ⟨-, kind, hnode, -, hkind⟩ := hall 0 0 (by rw [htypes]; decide)
  have hcomment : commentOf (family.node 0) = some "A person." := by decide +kernel
  refine ⟨hroot, hparts, htypes, by decide +kernel, by decide +kernel, by decide +kernel,
    ⟨kind, ?_, hkind⟩, hlevels 7 (by decide)⟩
  rw [hnode, hcomment]
  rfl

end TypeGraph
end SchemaTypings
