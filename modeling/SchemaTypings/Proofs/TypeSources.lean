import SchemaTypings.Proofs.MakingKinds

/-! # Where the kinds of types come from

A schema gets a type, and further types without names: for its statements, where it makes several;
for the types that it lists by name; and for its values.  `Expresses` says of a kind which of these
it is, and every type that is made is of such a kind, by the same induction on the levels by which
schemas get theirs.  What a kind is made of then follows from the schema that it expresses: its
`Shape` is one of five, and whatever is claimed of all kinds is shown once for each shape.
-/
namespace SchemaTypings

/-- Whether a kind is made of nothing: it has no parts, no members and no entries. -/
def TypeKind.isAtomic : TypeKind → Bool
  | .any | .unknown | .null | .boolean | .number | .string | .object | .literal _ | .custom _ => true
  | _ => false

namespace TypeGraph

/-- **What of a schema a kind expresses**: all of it, one of its statements, one of the types that
it lists, or one of its values. -/
inductive Expresses (s : Growth) (g : SchemaGraph) (o : Options) (schema : SchemaId) :
    TypeKind → Prop where
  | whole {kind : TypeKind} (h : IsKind s g o schema kind) : Expresses s g o schema kind
  | statement {kinds : List TypeKind} {kind : TypeKind} (hkinds : AreFacets s g o schema kinds)
    (h : kind ∈ kinds) : Expresses s g o schema kind
  | named {name : String} {kind : TypeKind} (hname : name ∈ (g.node schema).types)
    (h : IsNamedKind s g o (g.node schema) name kind) : Expresses s g o schema kind
  | value {value : Json} (h : value ∈ (g.node schema).enumValues?.getD []) :
    Expresses s g o schema (.literal value)

/-- **A kind that is found among types**: that of a type which is being made, that of parts which
say nothing, or one that expresses something of a schema. -/
inductive Founded (s : Growth) (g : SchemaGraph) (o : Options) : TypeKind → Prop where
  | reserved : Founded s g o .any
  | placeholder : Founded s g o (placeholderKind o)
  | schema {schema : SchemaId} {kind : TypeKind} (hlt : schema < g.size)
    (h : Expresses s g o schema kind) : Founded s g o kind

variable {g : SchemaGraph} {o : Options} {levels : Nat} {s t : Growth}

/-! ### Shapes -/

section Shapes

variable {n : SchemaNode} {kind : TypeKind}

/-- **The shape of a kind that a schema gives**: made of nothing, a class, an array or an enumeration
of the schema, or an operation on types of schemas and parts. -/
inductive Shape (s : Growth) (g : SchemaGraph) (o : Options) (n : SchemaNode) :
    TypeKind → Prop where
  | atom {kind : TypeKind} (h : kind.isAtomic = true) : Shape s g o n kind
  | record {schemas : List SchemaId} {bases : List TypeId} {kind : TypeKind}
      (hbases : s.AssignsAll schemas bases) (h : IsRecordKind s g o n bases kind) :
      Shape s g o n kind
  | array {kind : TypeKind} (hshaped : n.isArrayShaped = true) (h : IsArrayKind s o n kind) :
      Shape s g o n kind
  | values {kind : TypeKind} (h : IsEnumKind s n kind) : Shape s g o n kind
  | operation {isUnion : Bool} {members : List TypeId} {kind : TypeKind}
      (hkind : kind.operands? = some (isUnion, members))
      (hmembers : ∀ m ∈ members, (∃ schema, s.Assigns schema m) ∨ ∃ part, s.HasPart part m) :
      Shape s g o n kind

theorem isAtomic_placeholderKind (o : Options) : (placeholderKind o).isAtomic = true := by
  unfold placeholderKind
  split <;> rfl

theorem IsObjectKind.shape (h : IsObjectKind s g o n kind) : Shape s g o n kind := by
  unfold IsObjectKind at h
  split at h
  · have hnone : s.AssignsAll [] [] := .nil
    exact .record hnone h
  · subst h
    exact .atom rfl

/-- A name that a schema lists gives a shape; the name of arrays is listed for arrays. -/
theorem IsNamedKind.shape {name : String} (hname : name ∈ n.types)
    (h : IsNamedKind s g o n name kind) : Shape s g o n kind := by
  unfold IsNamedKind at h
  split at h
  case h_6 => exact h.shape
  case h_7 =>
    refine .array ?_ h
    rw [SchemaNode.isArrayShaped, SchemaNode.hasType, List.contains_iff_mem.2 hname, Bool.true_or]
  case h_8 =>
    subst h
    exact .atom (isAtomic_placeholderKind o)
  all_goals
    subst h
    exact .atom rfl

theorem IsOwnStatement.shape {schemas : List SchemaId} {bases : List TypeId}
    (hbases : s.AssignsAll schemas bases) (h : IsOwnStatement s g o n bases kind) :
    Shape s g o n kind := by
  cases h with
  | values hkind => exact .values hkind
  | record hkind => exact .record hbases hkind
  | object hkind => exact hkind.shape
  | array hshaped hkind => exact .array hshaped hkind
  | named hname hkind => exact hkind.shape hname
  | types hmembers =>
    refine .operation rfl fun m hm => ?_
    obtain ⟨_, -, part, -, hpart⟩ := hmembers m hm
    exact Or.inr ⟨part, hpart⟩

theorem AreFacets.shape {schema : SchemaId} {kinds : List TypeKind}
    (h : AreFacets s g o schema kinds) (hmem : kind ∈ kinds) : Shape s g o (g.node schema) kind := by
  have hassigned : ∀ {schemas members}, s.AssignsAll schemas members →
      ∀ m ∈ members, (∃ schema, s.Assigns schema m) ∨ ∃ part, s.HasPart part m := by
    intro schemas members hmembers m hm
    obtain ⟨schema, -, hassigns⟩ := exists_left_of_forall₂ hmembers m hm
    exact Or.inl ⟨schema, hassigns⟩
  rcases h.own_or_group hmem with ⟨bases, hbases, hown⟩ | ⟨schemas, members, hmembers, rfl | rfl⟩
  · exact hown.shape hbases
  · exact .operation rfl (hassigned hmembers)
  · exact .operation rfl (hassigned hmembers)

/-- **The kind of the type of a schema has a shape.** -/
theorem IsKind.shape {schema : SchemaId} (h : IsKind s g o schema kind) :
    Shape s g o (g.node schema) kind := by
  rcases h.placeholder_or_statement with
    rfl | ⟨text, rfl⟩ | ⟨kinds, hkinds, hmem⟩ | ⟨kinds, members, -, hmembers, rfl⟩
  · exact .atom (isAtomic_placeholderKind o)
  · exact .atom rfl
  · exact hkinds.shape hmem
  · refine .operation rfl fun m hm => ?_
    obtain ⟨part, -, hpart⟩ := exists_left_of_forall₂ hmembers m hm
    exact Or.inr ⟨part, hpart⟩

/-- What a kind expresses of a schema has a shape. -/
theorem Expresses.shape {schema : SchemaId} (h : Expresses s g o schema kind) :
    Shape s g o (g.node schema) kind := by
  cases h with
  | whole hkind => exact hkind.shape
  | statement hkinds hmem => exact hkinds.shape hmem
  | named hname hkind => exact hkind.shape hname
  | value => exact .atom rfl

/-- **A kind that is found among types has a shape for a schema**, which is in range unless the kind
is made of nothing. -/
theorem Founded.exists_shape (h : Founded s g o kind) :
    ∃ schema, Shape s g o (g.node schema) kind ∧ (kind.isAtomic = false → schema < g.size) := by
  have hatom : kind.isAtomic = true →
      ∃ schema, Shape s g o (g.node schema) kind ∧ (kind.isAtomic = false → schema < g.size) :=
    fun hatom => ⟨0, .atom hatom, fun hnot => absurd (hatom.symm.trans hnot) (by decide)⟩
  cases h with
  | reserved => exact hatom rfl
  | placeholder => exact hatom (isAtomic_placeholderKind o)
  | schema hlt hkind => exact ⟨_, hkind.shape, fun _ => hlt⟩

end Shapes

/-! ### Kinds are kept -/

theorem Expresses.kept (h : s.Keeps t) {schema : SchemaId} {kind : TypeKind}
    (hkind : Expresses s g o schema kind) : Expresses t g o schema kind := by
  cases hkind with
  | whole hkind => exact .whole (hkind.kept h)
  | statement hkinds hmem => exact .statement (hkinds.kept h) hmem
  | named hname hkind => exact .named hname (hkind.kept h)
  | value hvalue => exact .value hvalue

theorem Founded.kept (h : s.Keeps t) {kind : TypeKind} (hkind : Founded s g o kind) :
    Founded t g o kind := by
  cases hkind with
  | reserved => exact .reserved
  | placeholder => exact .placeholder
  | schema hlt hkind => exact .schema hlt (hkind.kept h)

/-! ### States in which all types are founded -/

/-- **Ready for more levels of nesting**, with every type of a kind that is founded. -/
structure Grounded (g : SchemaGraph) (o : Options) (levels : Nat) (s : Growth) : Prop
    extends Prepared g o levels s where
  founded : ∀ (id : TypeId) (node : TypeNode), s.nodes[id]? = some node → Founded s g o node.kind

namespace Grounded

/-- A type may be added whose kind is founded. -/
theorem founded_push (hs : ∀ (id : TypeId) (node : TypeNode), s.nodes[id]? = some node →
    Founded s g o node.kind) {node : TypeNode} (hnode : Founded s g o node.kind) (id : TypeId)
    (other : TypeNode) (h : (s.nodes.push node)[id]? = some other) :
    Founded { s with nodes := s.nodes.push node } g o other.kind := by
  have hkeeps := (Makes.push (g := g) (o := o) s node).keeps
  rw [Array.getElem?_push] at h
  split at h
  · cases h
    exact hnode.kept hkeeps
  · exact (hs id other h).kept hkeeps

/-- The type of a schema may be reserved. -/
theorem reserving (hs : Grounded g o (levels + 1) s) {schema : SchemaId} (hlt : schema < g.size)
    (hnone : s.typeOf.lookup schema = none) : Grounded g o levels (s.reserving g schema) where
  toPrepared := hs.toPrepared.reserving hlt hnone
  founded := by
    have hkeeps : Growth.Keeps { s with nodes := s.nodes.push (reservedNode (g.node schema)) }
        (s.reserving g schema) := by
      refine ⟨fun other type htype => Growth.assigns_reserving.2 ?_, fun _ h => h, fun _ _ h => h⟩
      rw [if_neg]
      · exact htype
      · rintro rfl
        have hsome := htype.symm.trans hnone
        cases hsome
    exact fun id node hnode => (founded_push hs.founded .reserved id node hnode).kept hkeeps

/-- A type that was reserved for a schema may be settled. -/
theorem settling (ht : Grounded g o levels t) {schema : SchemaId} {kind : TypeKind}
    (hlt : schema < g.size) (hst : Makes g o (s.reserving g schema) t)
    (hkind : IsKind t g o schema kind) (id : TypeId) (node : TypeNode)
    (hnode : (t.settling s.nodes.size kind).nodes[id]? = some node) :
    Founded (t.settling s.nodes.size kind) g o node.kind := by
  have hkeeps := hst.keeps_settling kind
  by_cases hid : id = s.nodes.size
  · subst hid
    rw [Growth.settling, Array.getElem?_modify, if_pos rfl, hst.getElem?_reserving] at hnode
    cases hnode
    exact .schema hlt (.whole (hkind.kept hkeeps))
  · rw [t.getElem?_settling kind hid] at hnode
    exact (ht.founded id node hnode).kept hkeeps

end Grounded

/-! ### Steps -/

/-- A step that leaves all types founded. -/
def Grounds (g : SchemaGraph) (o : Options) (levels : Nat) {α : Type} (x : Growing α) : Prop :=
  ∀ s, Grounded g o levels s → Grounded g o levels (x.run s).2

namespace Grounds

variable {α β : Type}

theorem pure (a : α) : Grounds g o levels (Pure.pure a : Growing α) := fun _ hs => hs

theorem bind {x : Growing α} {f : α → Growing β} (hx : Grounds g o levels x)
    (hf : ∀ a, Grounds g o levels (f a)) : Grounds g o levels (x >>= f) :=
  fun s hs => hf _ _ (hx s hs)

/-- Two steps, the second of which needs what the first brings. -/
theorem bind_of {x : Growing α} {f : α → Growing β} {Q : α → Growth → Prop}
    (hx : Grounds g o levels x) (hmakes : ∀ s, Prepared g o levels s → Making g o levels s x Q)
    (hf : ∀ a s, Grounded g o levels s → Q a s → Grounded g o levels ((f a).run s).2) :
    Grounds g o levels (x >>= f) :=
  fun s hs => hf _ _ (hx s hs) (hmakes s hs.toPrepared).2.2

theorem map {x : Growing α} (f : α → β) (hx : Grounds g o levels x) :
    Grounds g o levels (f <$> x) := hx

theorem listIf {x : Growing (List α)} (hx : Grounds g o levels x) (asked : Bool) :
    Grounds g o levels (listIf asked x) := by
  unfold TypeGraph.listIf
  split
  · exact hx
  · exact .pure []

theorem mapM {f : α → Growing β} {as : List α} (hf : ∀ a ∈ as, Grounds g o levels (f a)) :
    Grounds g o levels (as.mapM f) := by
  intro s hs
  have hall : After (as.mapM f) s fun bs t => Grounded g o levels t ∧
      List.Forall₂ (fun _ _ => True) as bs :=
    after_mapM_forall₂ (fun a ha t ht => ⟨hf a ha t ht, trivial⟩) hs
  exact hall.1

end Grounds

/-- A type is added whose kind is founded. -/
theorem grounded_addUnnamed (hs : Grounded g o levels s) {kind : TypeKind}
    (hkind : Founded s g o kind) : Grounded g o levels ((addUnnamed kind).run s).2 where
  toPrepared := (making_addUnnamed hs.toPrepared kind).1
  founded := Grounded.founded_push hs.founded hkind

/-- The statements of a schema are added. -/
theorem grounded_addStatements (hs : Grounded g o levels s) {schema : SchemaId}
    (hlt : schema < g.size) {kinds : List TypeKind} (hkinds : AreFacets s g o schema kinds) :
    Grounded g o levels ((kinds.mapM addUnnamed).run s).2 := by
  have hall : After (kinds.mapM addUnnamed) s fun ids t =>
      (Grounded g o levels t ∧ AreFacets t g o schema kinds) ∧
        List.Forall₂ (fun _ _ => True) kinds ids := by
    refine after_mapM_forall₂ (fun kind hkind t ⟨ht, hfacets⟩ => ?_) ⟨hs, hkinds⟩
    have hmakes := (making_addUnnamed ht.toPrepared kind).2.1
    exact ⟨⟨grounded_addUnnamed ht (.schema hlt (.statement hfacets hkind)),
      hfacets.kept hmakes.keeps⟩, trivial⟩
  exact hall.1.1

theorem grounds_placeholderType : Grounds g o levels (placeholderType o) := by
  intro s hs
  have hprepared := (making_placeholderType hs.toPrepared).1
  refine ⟨hprepared, ?_⟩
  unfold placeholderType
  show After _ s fun _ t => ∀ (id : TypeId) (node : TypeNode), t.nodes[id]? = some node →
    Founded t g o node.kind
  refine after_bind.2 (after_get.2 ?_)
  split
  · exact hs.founded
  · next hnone =>
    intro id node hnode
    have hremembered : Growth.Keeps
        { s with nodes := s.nodes.push { kind := placeholderKind o } }
        { s with
          nodes := s.nodes.push { kind := placeholderKind o }
          placeholder := some s.nodes.size } :=
      ⟨fun _ _ h => h, fun _ h => (nomatch hnone.symm.trans h), fun _ _ h => h⟩
    exact (Grounded.founded_push hs.founded .placeholder id node hnode).kept hremembered

theorem grounds_enumKind {schema : SchemaId} (hlt : schema < g.size) :
    Grounds g o levels (enumKind (g.node schema)) := by
  unfold enumKind
  dsimp only
  split
  · exact .pure _
  · exact .pure _
  · refine .bind (.mapM fun value hvalue s hs => ?_) fun _ => .pure _
    exact grounded_addUnnamed hs (.schema hlt (.value hvalue))

/-! ### Kinds of schemas -/

section Visiting

variable {visit : Visit} (hvisit : visit.Makes g o levels)
  (hgrounds : ∀ schema < g.size, Grounds g o levels (visit schema))

include hgrounds

theorem grounds_membersOf (make : String → SchemaId → TypeId → Member) {entries : Dict SchemaId}
    (hin : ∀ schema ∈ entries.values, schema < g.size) :
    Grounds g o levels (membersOf visit make entries) :=
  .mapM fun entry hentry => .bind (hgrounds entry.2 (hin _ (List.mem_map.2 ⟨entry, hentry, rfl⟩)))
    fun _ => .pure _

theorem grounds_additionalType {rest : Option Additional}
    (hin : ∀ schema ∈ Additional.ids rest, schema < g.size) :
    Grounds g o levels (additionalType visit o rest) := by
  unfold additionalType
  split
  · exact grounds_placeholderType.map some
  · next child => exact (hgrounds child (hin child (List.mem_singleton_self _))).map some
  · exact .pure _

theorem grounds_groupFacet (make : List TypeId → TypeKind) {schemas : List SchemaId}
    (hin : ∀ schema ∈ schemas, schema < g.size) :
    Grounds g o levels (groupFacet visit make schemas) := by
  unfold groupFacet
  split
  · exact .pure _
  · exact .bind (.mapM fun schema hschema => hgrounds schema (hin schema hschema)) fun _ => .pure _

section Node

variable {n : SchemaNode} (hn : ∀ part ∈ n.children, part < g.size)

include hn

theorem grounds_recordKind (bases : List TypeId) :
    Grounds g o levels (recordKind visit g o n bases) := by
  simp only [SchemaNode.children, List.mem_append] at hn
  unfold recordKind
  refine .bind (grounds_membersOf hgrounds _ fun c hc => hn c (by simp [hc])) fun _ => ?_
  refine .bind (grounds_membersOf hgrounds _ fun c hc => hn c (by simp [hc])) fun _ => ?_
  refine .bind (grounds_additionalType hgrounds fun c hc => hn c (by simp [hc])) fun _ => ?_
  exact .bind (.listIf (grounds_membersOf hgrounds _ fun c hc => hn c (by simp [hc])) _)
    fun _ => .pure _

theorem grounds_objectKind : Grounds g o levels (objectKind visit g o n) := by
  unfold objectKind
  split
  · exact grounds_recordKind hgrounds hn []
  · exact .pure _

theorem grounds_arrayKind : Grounds g o levels (arrayKind visit o n) := by
  simp only [SchemaNode.children, List.mem_append] at hn
  unfold arrayKind
  dsimp only
  split
  · next ids hids =>
    refine .bind (.mapM fun c hc => hgrounds c (hn c (by simp [hids, Items.ids, hc]))) fun _ => ?_
    refine .bind (grounds_additionalType hgrounds fun c hc => hn c (by simp [hc])) fun _ => ?_
    split
    · exact .pure _
    · exact .pure _
  · next id hid =>
    exact .bind (hgrounds id (hn id (by simp [hid, Items.ids]))) fun _ => .pure _
  · refine .bind grounds_placeholderType fun _ => ?_
    split
    · exact .pure _
    · exact .pure _

theorem grounds_namedKind (name : String) : Grounds g o levels (namedKind visit g o n name) := by
  unfold namedKind
  split
  case h_6 => exact grounds_objectKind hgrounds hn
  case h_7 => exact grounds_arrayKind hgrounds hn
  all_goals exact .pure _

end Node

include hvisit

variable {schema : SchemaId} (hlt : schema < g.size)
  (hschema : ∀ part ∈ g.children schema, part < g.size)

include hlt hschema

theorem grounds_ownFacet (bases : List TypeId) :
    Grounds g o levels (ownFacet visit g o (g.node schema) bases) := by
  unfold ownFacet
  split
  · exact (grounds_enumKind hlt).map some
  split
  · exact (grounds_recordKind hgrounds hschema bases).map some
  split
  · split
    · exact (grounds_objectKind hgrounds hschema).map some
    split
    · exact (grounds_arrayKind hgrounds hschema).map some
    · exact .pure _
  · exact (grounds_namedKind hgrounds hschema _).map some
  · -- the type that is added for a name expresses what the schema says by it
    refine .bind (.mapM fun name hname => ?_) fun _ => .pure _
    exact .bind_of (grounds_namedKind hgrounds hschema name)
      (fun s hs => making_namedKind hvisit hschema hs name)
      fun kind s hs hkind => grounded_addUnnamed hs (.schema hlt (.named hname hkind))

theorem grounds_facets : Grounds g o levels (facets visit g o schema) := by
  have hin : ∀ part ∈ (g.node schema).children, part < g.size := hschema
  simp only [SchemaNode.children, List.mem_append] at hin
  have hcandidates : ∀ c ∈ baseCandidates (g.node schema), c < g.size :=
    fun c hc => hschema c (mem_children_of_mem_baseCandidates hc)
  unfold facets
  dsimp only
  refine .bind (.listIf (.mapM fun c hc => hgrounds c (hcandidates c hc)) _) fun _ => ?_
  refine .bind (grounds_ownFacet hvisit hgrounds hlt hschema _) fun _ => ?_
  refine .bind (.listIf (grounds_groupFacet hgrounds _ fun c hc => hin c (by simp [hc])) _)
    fun _ => ?_
  refine .bind (.listIf (grounds_groupFacet hgrounds _ fun c hc => hin c (by simp [hc])) _)
    fun _ => ?_
  refine .bind (grounds_groupFacet hgrounds _ fun c hc => hin c (by simp [hc])) fun _ => ?_
  exact .bind (grounds_groupFacet hgrounds _ fun c hc => hin c (by simp [hc])) fun _ => .pure _

theorem grounds_kindOf : Grounds g o levels (kindOf visit g o schema) := by
  unfold kindOf
  dsimp only
  split
  · exact .pure _
  · exact .pure _
  · exact .pure _
  · refine .bind_of (grounds_facets hvisit hgrounds hlt hschema)
      (fun s hs => making_facets hvisit hs hschema) fun kinds s hs hkinds => ?_
    split
    · exact hs
    · exact hs
    · exact grounded_addStatements hs hlt hkinds

end Visiting

/-! ### Types of schemas -/

/-- **All types that are made for a schema are founded.** -/
theorem grounds_ofNode {g : SchemaGraph} (o : Options)
    (hg : ∀ id, ∀ part ∈ g.children id, part < g.size) (levels : Nat) :
    ∀ schema < g.size, Grounds g o levels (ofNode g o levels schema) := by
  refine fun schema hschema s hs => ofNode_rule
    (P := fun levels schema s => schema < g.size ∧ Grounded g o levels s)
    (Q := fun levels _ _ _ t => Grounded g o levels t)
    ?found ?out ?new levels schema s ⟨hschema, hs⟩
  case found | out => exact fun ⟨_, hs⟩ _ => hs
  case new =>
    intro levels schema s ih ⟨hlt, hs⟩ hnone
    have hreserved := hs.reserving hlt hnone
    have ht := grounds_kindOf (makes_ofNode o hg levels)
      (fun schema hschema s hs => ih schema s ⟨hschema, hs⟩) hlt (hg schema) _ hreserved
    obtain ⟨-, hst, hkind⟩ :=
      making_kindOf (makes_ofNode o hg levels) hreserved.toPrepared (hg schema)
    exact ⟨(makes_settled hnone hst hkind).prepared hs.toPrepared, ht.settling hlt hst hkind⟩

/-- The state in which a graph has got its types. -/
theorem grounded_made {g : SchemaGraph} (o : Options) (hroot : g.root < g.size)
    (hg : ∀ id, ∀ part ∈ g.children id, part < g.size) : Grounded g o g.size (made g o) :=
  grounds_ofNode o hg g.size g.root hroot _ ⟨prepared_start g o, fun _ _ h => by cases h⟩

/-- **Every type of a graph is founded.** -/
theorem founded_kind {g : SchemaGraph} (o : Options) (hroot : g.root < g.size)
    (hg : ∀ id, ∀ part ∈ g.children id, part < g.size) (id : TypeId) :
    Founded (made g o) g o ((ofSchema g o).kind id) := by
  change Founded _ g o ((made g o).nodes[id]?.getD { kind := .any }).kind
  cases hnode : (made g o).nodes[id]? with
  | none => exact .reserved
  | some node => exact (grounded_made o hroot hg).founded id node hnode

end TypeGraph
end SchemaTypings
