import SchemaTypings.Proofs.SchemaKinds
import SchemaTypings.Proofs.Values

/-! # Every type gets the kind that its schema asks for

Each function that makes a kind brings one that is in the relation of that function, if the visit
that it is given brings the types of schemas.  By induction on the levels of nesting every schema
that gets a type gets the kind that it asks for, in place of the one that the type was reserved
with.
-/
namespace SchemaTypings
namespace TypeGraph

/-! ### What a step makes -/

/-- **What a step makes**: nodes stay, and so do the types of schemas and the placeholder; and a
schema that gets a type gets one of the kind that it asks for. -/
structure Makes (g : SchemaGraph) (o : Options) (s t : Growth) : Prop where
  nodes : ∀ (id : TypeId) (node : TypeNode), s.nodes[id]? = some node → t.nodes[id]? = some node
  assigned : ∀ schema type, s.Assigns schema type → t.Assigns schema type
  placeholder : ∀ id, s.placeholder = some id → t.placeholder = some id
  settled : ∀ schema type, t.Assigns schema type → s.Assigns schema type ∨
    (s.nodes.size ≤ type ∧ ∃ kind,
      t.nodes[type]? = some { reservedNode (g.node schema) with kind } ∧ IsKind t g o schema kind)
  held : ∀ id, t.placeholder = some id → s.placeholder = some id ∨ t.HasPart (placeholderKind o) id

/-- **Ready for more levels of nesting**, with the placeholder in its place. -/
structure Prepared (g : SchemaGraph) (o : Options) (levels : Nat) (s : Growth) : Prop
    extends Ready g levels s where
  held : ∀ id, s.placeholder = some id → s.HasPart (placeholderKind o) id

variable {g : SchemaGraph} {o : Options} {levels : Nat} {s t u : Growth}

namespace Makes

theorem refl (s : Growth) : Makes g o s s where
  nodes := fun _ _ h => h
  assigned := fun _ _ h => h
  placeholder := fun _ h => h
  settled := fun _ _ h => Or.inl h
  held := fun _ h => Or.inl h

theorem keeps (h : Makes g o s t) : s.Keeps t where
  assigned := h.assigned
  placeholder := h.placeholder
  part := fun kind id => h.nodes id { kind }

theorem size_le (h : Makes g o s t) : s.nodes.size ≤ t.nodes.size :=
  Growth.size_le h.nodes

theorem trans (hst : Makes g o s t) (htu : Makes g o t u) : Makes g o s u where
  nodes := fun id node h => htu.nodes id node (hst.nodes id node h)
  assigned := fun schema type h => htu.assigned schema type (hst.assigned schema type h)
  placeholder := fun id h => htu.placeholder id (hst.placeholder id h)
  settled := by
    intro schema type htype
    rcases htu.settled schema type htype with hearlier | ⟨hle, hnew⟩
    · refine (hst.settled schema type hearlier).imp_right fun ⟨hle, kind, hnode, hkind⟩ => ?_
      exact ⟨hle, kind, htu.nodes _ _ hnode, hkind.kept htu.keeps⟩
    · exact Or.inr ⟨Nat.le_trans hst.size_le hle, hnew⟩
  held := by
    intro id hid
    rcases htu.held id hid with hearlier | hnew
    · exact (hst.held id hearlier).imp_right (htu.keeps.part _ id)
    · exact Or.inr hnew

instance : IsPreorder Growth (Makes g o) where
  refl := refl
  trans := fun _ _ _ => trans

/-- A step leaves the state prepared. -/
theorem prepared (h : Makes g o s t) (hs : Prepared g o levels s) : Prepared g o levels t where
  inRange := by
    intro schema type htype
    rcases h.settled schema type htype with hearlier | ⟨-, kind, hnode, -⟩
    · exact Nat.lt_of_lt_of_le (hs.inRange schema type hearlier) h.size_le
    · exact (Array.getElem?_eq_some_iff.1 hnode).1
  enough := Nat.le_trans (Growth.length_untyped_le h.assigned g) hs.enough
  held := fun id hid => (h.held id hid).elim (fun hearlier => h.keeps.part _ id (hs.held id hearlier))
    fun hpart => hpart

/-- A node may be added. -/
theorem push (s : Growth) (node : TypeNode) :
    Makes g o s { s with nodes := s.nodes.push node } where
  nodes := fun _ _ hid => getElem?_push_of_some hid _
  assigned := fun _ _ h => h
  placeholder := fun _ h => h
  settled := fun _ _ h => Or.inl h
  held := fun _ h => Or.inl h

/-- The placeholder may be remembered. -/
theorem remember {id : TypeId} (hnone : s.placeholder = none)
    (hpart : s.HasPart (placeholderKind o) id) : Makes g o s { s with placeholder := some id } where
  nodes := fun _ _ h => h
  assigned := fun _ _ h => h
  placeholder := fun _ h => by rw [hnone] at h; cases h
  settled := fun _ _ h => Or.inl h
  held := by
    intro other hother
    cases hother
    exact Or.inr hpart

end Makes

/-! ### Steps -/

/-- A step of making types brings a value with `Q`. -/
def Making (g : SchemaGraph) (o : Options) (levels : Nat) (s : Growth) {α : Type} (x : Growing α)
    (Q : α → Growth → Prop) : Prop :=
  Rises (Prepared g o levels) (Makes g o) x s Q

theorem Making.listIf {α : Type} {x : Growing (List α)} {Q : List α → Growth → Prop} {asked : Bool}
    (hs : Prepared g o levels s) (hx : asked = true → Making g o levels s x Q)
    (hnil : asked = false → Q [] s) : Making g o levels s (listIf asked x) Q := by
  unfold TypeGraph.listIf
  cases asked with
  | true => exact hx rfl
  | false => exact Rises.pure hs (hnil rfl)

theorem making_addUnnamed (hs : Prepared g o levels s) (kind : TypeKind) :
    Making g o levels s (addUnnamed kind) fun id t => t.HasPart kind id := by
  have hmakes : Makes g o s { s with nodes := s.nodes.push { kind } } := .push s { kind }
  exact ⟨hmakes.prepared hs, hmakes, Array.getElem?_push_size⟩

theorem making_mapM_addUnnamed {α : Type} (hs : Prepared g o levels s) (kind : α → TypeKind)
    (as : List α) : Making g o levels s (as.mapM fun a => addUnnamed (kind a)) fun ids t =>
      List.Forall₂ (fun a id => t.HasPart (kind a) id) as ids :=
  Rises.mapM (fun a id _ _ htu hpart => htu.keeps.part (kind a) id hpart)
    (fun a _ _ ht _ => making_addUnnamed ht (kind a)) hs

theorem making_placeholderType (hs : Prepared g o levels s) :
    Making g o levels s (placeholderType o) fun id t => t.placeholder = some id := by
  unfold Making Rises placeholderType
  refine after_bind.2 (after_get.2 ?_)
  split
  · next id hid => exact Rises.pure hs hid
  · next hnone =>
    -- the first one is added and remembered
    have hpush : Makes g o s { s with nodes := s.nodes.push { kind := placeholderKind o } } :=
      .push s _
    have hmakes := hpush.trans (.remember hnone Array.getElem?_push_size)
    exact ⟨hmakes.prepared hs, hmakes, rfl⟩

theorem making_enumKind (hs : Prepared g o levels s) (n : SchemaNode) :
    Making g o levels s (enumKind n) fun kind t => IsEnumKind t n kind := by
  simp only [enumKind, IsEnumKind]
  rw [← SchemaNode.declaredEntries?]
  generalize n.declaredEntries? = entries
  generalize n.enumValues?.getD [] = values
  match entries, values with
  | some entries, _ => exact Rises.pure hs rfl
  | none, [value] => exact Rises.pure hs rfl
  | none, [] =>
    exact (making_mapM_addUnnamed hs .literal []).bind fun literals t ht _ hliterals =>
      .pure ht ⟨literals, hliterals, rfl⟩
  | none, first :: second :: more =>
    exact (making_mapM_addUnnamed hs .literal (first :: second :: more)).bind
      fun literals t ht _ hliterals => .pure ht ⟨literals, hliterals, rfl⟩

/-! ### Kinds of schemas -/

/-- **The promise of a visit**: a schema of the graph gets a type of the kind that it asks for. -/
def Visit.Makes (visit : Visit) (g : SchemaGraph) (o : Options) (levels : Nat) : Prop :=
  ∀ schema < g.size, ∀ s, Prepared g o levels s →
    Making g o levels s (visit schema) fun type t => t.Assigns schema type

section Visiting

variable {visit : Visit} (hvisit : visit.Makes g o levels) {n : SchemaNode}
  (hn : ∀ part ∈ n.children, part < g.size)

include hvisit

theorem making_mapM_visit (hs : Prepared g o levels s) {schemas : List SchemaId}
    (hin : ∀ schema ∈ schemas, schema < g.size) :
    Making g o levels s (schemas.mapM visit) fun types t => t.AssignsAll schemas types :=
  Rises.mapM (fun schema type _ _ h => h.assigned schema type)
    (fun schema hschema t ht _ => hvisit schema (hin schema hschema) t ht) hs

theorem making_membersOf (hs : Prepared g o levels s) (make : String → SchemaId → TypeId → Member)
    {entries : Dict SchemaId} (hin : ∀ schema ∈ entries.values, schema < g.size) :
    Making g o levels s (membersOf visit make entries) fun members t =>
      AreMembers t make entries members := by
  refine Rises.mapM (fun entry member _ _ htu ⟨type, htype, hmember⟩ =>
    ⟨type, htu.assigned _ _ htype, hmember⟩) (fun entry hentry t ht _ => ?_) hs
  exact (hvisit entry.2 (hin entry.2 (List.mem_map.2 ⟨entry, hentry, rfl⟩)) t ht).bind
    fun type u hu _ htype => .pure hu ⟨type, htype, rfl⟩

theorem making_additionalType (hs : Prepared g o levels s) {rest : Option Additional}
    (hin : ∀ schema ∈ Additional.ids rest, schema < g.size) :
    Making g o levels s (additionalType visit o rest) fun further t => IsFurther t rest further := by
  unfold additionalType
  split
  · exact (making_placeholderType hs).map fun id _ hid => ⟨id, hid, rfl⟩
  · next child =>
    exact (hvisit child (hin child (List.mem_singleton_self _)) s hs).map fun id _ hid =>
      ⟨id, hid, rfl⟩
  · next hallowed hschema =>
    refine Rises.pure hs ?_
    unfold IsFurther
    split
    · contradiction
    · exact absurd rfl (hschema _)
    · rfl

include hn

theorem making_recordKind (hs : Prepared g o levels s) (bases : List TypeId) :
    Making g o levels s (recordKind visit g o n bases) fun kind t =>
      IsRecordKind t g o n bases kind := by
  simp only [SchemaNode.children, List.mem_append] at hn
  unfold recordKind
  refine (making_membersOf hvisit hs (propertyMember g n) fun c hc => hn c (by simp [hc])).bind
    fun properties t ht _ hproperties => ?_
  refine (making_membersOf hvisit ht (patternMember n) fun c hc => hn c (by simp [hc])).bind
    fun patterns u hu htu hpatterns => ?_
  refine (making_additionalType hvisit hu fun c hc => hn c (by simp [hc])).bind
    fun additional v hv huv hadditional => ?_
  have hunreachable : Making g o levels v (listIf o.unreachableDefinitions
      (membersOf visit definitionMember n.definitions)) fun members w =>
        AreMembers w definitionMember (if o.unreachableDefinitions then n.definitions else [])
          members := by
    refine Making.listIf hv (fun hasked => ?_) fun hnot => ?_
    · rw [if_pos hasked]
      exact making_membersOf hvisit hv definitionMember fun c hc => hn c (by simp [hc])
    · rw [if_neg (by simp [hnot])]
      exact .nil
  refine Rises.bind hunreachable fun unreachable w hw hvw hdefinitions => .pure hw ?_
  exact ⟨properties, patterns, additional, unreachable,
    hproperties.kept (htu.trans (huv.trans hvw)).keeps, hpatterns.kept (huv.trans hvw).keeps,
    hadditional.kept hvw.keeps, hdefinitions, rfl⟩

theorem making_objectKind (hs : Prepared g o levels s) :
    Making g o levels s (objectKind visit g o n) fun kind t => IsObjectKind t g o n kind := by
  unfold objectKind IsObjectKind
  split
  · exact making_recordKind hvisit hn hs []
  · exact Rises.pure hs rfl

theorem making_arrayKind (hs : Prepared g o levels s) :
    Making g o levels s (arrayKind visit o n) fun kind t => IsArrayKind t o n kind := by
  simp only [SchemaNode.children, List.mem_append] at hn
  unfold arrayKind IsArrayKind
  cases hitems : n.items with
  | none =>
    refine (making_placeholderType hs).bind fun any t ht _ hany => ?_
    split
    · exact Rises.pure ht ⟨any, hany, rfl⟩
    · exact Rises.pure ht ⟨any, hany, rfl⟩
  | some items =>
    rw [hitems] at hn
    cases items with
    | tuple ids =>
      refine (making_mapM_visit hvisit hs fun c hc => hn c (by simp [Items.ids, hc])).bind
        fun elements t ht _ helements => ?_
      refine (making_additionalType hvisit ht fun c hc => hn c (by simp [hc])).bind
        fun spread u hu htu hspread => ?_
      have helements := htu.keeps.assignsAll helements
      split
      · exact Rises.pure hu ⟨elements, spread, helements, hspread, rfl⟩
      · exact Rises.pure hu ⟨elements, spread, helements, hspread, rfl⟩
    | each id =>
      exact (hvisit id (hn id (by simp [Items.ids])) s hs).bind fun element t ht _ helement =>
        .pure ht ⟨element, helement, rfl⟩

theorem making_namedKind (hs : Prepared g o levels s) (name : String) :
    Making g o levels s (namedKind visit g o n name) fun kind t => IsNamedKind t g o n name kind := by
  unfold namedKind
  split
  case h_6 => exact making_objectKind hvisit hn hs
  case h_7 => exact making_arrayKind hvisit hn hs
  case h_8 =>
    refine Rises.pure hs ?_
    unfold IsNamedKind
    split <;> first | contradiction | rfl
  all_goals exact Rises.pure hs rfl

theorem making_ownFacet (hs : Prepared g o levels s) (bases : List TypeId) :
    Making g o levels s (ownFacet visit g o n bases) fun own t => IsOwnFacet t g o n bases own := by
  unfold ownFacet IsOwnFacet
  split
  · exact (making_enumKind hs n).map fun kind _ hkind => ⟨kind, hkind, rfl⟩
  · split
    · exact (making_recordKind hvisit hn hs bases).map fun kind _ hkind => ⟨kind, hkind, rfl⟩
    · generalize n.types = names
      match names with
      | [] =>
        dsimp only
        split
        · exact (making_objectKind hvisit hn hs).map fun kind _ hkind => ⟨kind, hkind, rfl⟩
        · split
          · exact (making_arrayKind hvisit hn hs).map fun kind _ hkind => ⟨kind, hkind, rfl⟩
          · exact Rises.pure hs rfl
      | [name] =>
        exact (making_namedKind hvisit hn hs name).map fun kind _ hkind => ⟨kind, hkind, rfl⟩
      | first :: second :: more =>
        have hmembers : Making g o levels s ((first :: second :: more).mapM fun name => do
            let kind ← namedKind visit g o n name
            addUnnamed kind) fun ids t => List.Forall₂ (fun name id => ∃ kind,
              IsNamedKind t g o n name kind ∧ t.HasPart kind id) (first :: second :: more) ids := by
          refine Rises.mapM (fun name id _ _ htu ⟨kind, hkind, hpart⟩ =>
            ⟨kind, hkind.kept htu.keeps, htu.keeps.part kind id hpart⟩) (fun name _ t ht _ => ?_) hs
          exact (making_namedKind hvisit hn ht name).bind fun kind u hu _ hkind =>
            (making_addUnnamed hu kind).mono fun _ _ huv hpart =>
              ⟨kind, hkind.kept huv.keeps, hpart⟩
        exact Rises.bind hmembers fun members t ht _ hall => .pure ht ⟨members, hall, rfl⟩

omit hn in
theorem making_groupFacet (hs : Prepared g o levels s) (make : List TypeId → TypeKind)
    {schemas : List SchemaId} (hin : ∀ schema ∈ schemas, schema < g.size) :
    Making g o levels s (groupFacet visit make schemas) fun kinds t =>
      AreGroupFacets t make schemas kinds := by
  unfold groupFacet AreGroupFacets
  split
  · exact Rises.pure hs rfl
  · exact (making_mapM_visit hvisit hs hin).bind fun members t ht _ hmembers =>
      .pure ht ⟨members, hmembers, rfl⟩

omit hn in
theorem making_facets (hs : Prepared g o levels s) {id : SchemaId}
    (hid : ∀ part ∈ g.children id, part < g.size) :
    Making g o levels s (facets visit g o id) fun kinds t => AreFacets t g o id kinds := by
  have hin : ∀ part ∈ (g.node id).children, part < g.size := hid
  simp only [SchemaNode.children, List.mem_append] at hin
  have hcandidates : ∀ schema ∈ baseCandidates (g.node id), schema < g.size :=
    fun schema hschema => hid schema (mem_children_of_mem_baseCandidates hschema)
  have hbases : Making g o levels s
      (listIf (hasBases g id) ((baseCandidates (g.node id)).mapM visit)) fun bases t =>
        t.AssignsAll (if hasBases g id then baseCandidates (g.node id) else []) bases := by
    refine Making.listIf hs (fun hhas => ?_) fun hno => ?_
    · rw [if_pos hhas]
      exact making_mapM_visit hvisit hs hcandidates
    · rw [if_neg (by simp [hno])]
      exact .nil
  have hgroup : ∀ {bases : List TypeId} {schemas : List SchemaId} {v : Growth},
      Prepared g o levels v → (∀ schema ∈ schemas, schema < g.size) → Making g o levels v
        (listIf bases.isEmpty (groupFacet visit .intersection schemas)) fun kinds w =>
          AreGroupFacets w .intersection (if bases.isEmpty then schemas else []) kinds := by
    intro bases schemas v hv hschemas
    refine Making.listIf hv (fun hempty => ?_) fun hfull => ?_
    · rw [if_pos hempty]
      exact making_groupFacet hvisit hv .intersection hschemas
    · rw [if_neg (by simp [hfull])]
      rfl
  refine Rises.bind hbases fun bases t ht _ hcandidates => ?_
  refine (making_ownFacet hvisit hid ht bases).bind fun own u hu htu hown => ?_
  refine Rises.bind (hgroup hu fun c hc => hin c (by simp [hc])) fun all v hv huv hall => ?_
  refine Rises.bind (hgroup hv fun c hc => hin c (by simp [hc])) fun extended w hw hvw hext => ?_
  refine (making_groupFacet hvisit hw .union fun c hc => hin c (by simp [hc])).bind
    fun any x hx hwx hany => ?_
  refine (making_groupFacet hvisit hx .union fun c hc => hin c (by simp [hc])).bind
    fun one y hy hxy hone => .pure hy ?_
  have hwy := hwx.trans hxy
  have hvy := hvw.trans hwy
  have huy := huv.trans hvy
  exact ⟨bases, own, all, extended, any, one, (htu.trans huy).keeps.assignsAll hcandidates,
    hown.kept huy.keeps, hall.kept hvy.keeps, hext.kept hwy.keeps, hany.kept hxy.keeps, hone, rfl⟩

omit hn in
/-- **The kind of the type of a schema** is the one that it asks for. -/
theorem making_kindOf (hs : Prepared g o levels s) {id : SchemaId}
    (hid : ∀ part ∈ g.children id, part < g.size) :
    Making g o levels s (kindOf visit g o id) fun kind t => IsKind t g o id kind := by
  unfold kindOf IsKind
  simp only []
  generalize (g.node id).boolean = boolean
  generalize (g.node id).customType? = custom
  cases boolean with
  | some value => cases value <;> exact Rises.pure hs rfl
  | none =>
    cases custom with
    | some text => exact Rises.pure hs rfl
    | none =>
      refine (making_facets hvisit hs hid).bind fun kinds t ht _ hkinds => ?_
      cases kinds with
      | nil => exact Rises.pure ht ⟨[], hkinds, rfl⟩
      | cons first rest =>
        cases rest with
        | nil => exact Rises.pure ht ⟨[first], hkinds, rfl⟩
        | cons second more =>
          exact (making_mapM_addUnnamed ht (fun kind => kind) (first :: second :: more)).bind
            fun members u hu htu hmembers =>
              .pure hu ⟨_, hkinds.kept htu.keeps, members, hmembers, rfl⟩

end Visiting

/-! ### Types of schemas -/

theorem Prepared.reserving (hs : Prepared g o (levels + 1) s) {schema : SchemaId}
    (hlt : schema < g.size) (hnone : s.typeOf.lookup schema = none) :
    Prepared g o levels (s.reserving g schema) where
  toReady := hs.toReady.reserving hlt hnone
  held := fun id hid =>
    (Makes.push (g := g) (o := o) s (reservedNode (g.node schema))).keeps.part _ id (hs.held id hid)

/-- The reserved type is there until it is settled. -/
theorem Makes.getElem?_reserving {schema : SchemaId} (hst : Makes g o (s.reserving g schema) t) :
    t.nodes[s.nodes.size]? = some (reservedNode (g.node schema)) :=
  hst.nodes _ _ Array.getElem?_push_size

/-- Settling a reserved type keeps the parts of kinds: it has an origin, so it is no unnamed part. -/
theorem Makes.keeps_settling {schema : SchemaId} (hst : Makes g o (s.reserving g schema) t)
    (kind : TypeKind) : t.Keeps (t.settling s.nodes.size kind) := by
  refine ⟨fun _ _ h => h, fun _ h => h, fun other id hpart => ?_⟩
  refine (t.getElem?_settling kind ?_).trans hpart
  rintro rfl
  have horigin := congrArg TypeNode.origin
    (Option.some.inj (hst.getElem?_reserving.symm.trans hpart))
  cases horigin

/-- **A schema gets its type**: the type is reserved, its kind is made, and is settled. -/
theorem makes_settled {schema : SchemaId} {kind : TypeKind}
    (hnone : s.typeOf.lookup schema = none) (hst : Makes g o (s.reserving g schema) t)
    (hkind : IsKind t g o schema kind) : Makes g o s (t.settling s.nodes.size kind) := by
  have helsewhere : ∀ {id : TypeId}, id ≠ s.nodes.size →
      (t.settling s.nodes.size kind).nodes[id]? = t.nodes[id]? := t.getElem?_settling kind
  have hsettled := Growth.getElem?_settling_self hst.getElem?_reserving kind
  have hkeeps := hst.keeps_settling kind
  refine ⟨?_, ?_, hst.placeholder, ?_, ?_⟩
  · intro id node hnode
    obtain ⟨hne, hreserved⟩ := Growth.getElem?_reserving (g := g) hnode schema
    exact (helsewhere hne).trans (hst.nodes id node hreserved)
  · intro other type htype
    refine hst.assigned other type (Growth.assigns_reserving.2 ?_)
    rw [if_neg]
    · exact htype
    · rintro rfl
      rw [Growth.Assigns, hnone] at htype
      cases htype
  · intro other type htype
    rcases hst.settled other type htype with hreserved | ⟨hle, otherKind, hnode, hother⟩
    · rw [Growth.assigns_reserving] at hreserved
      split at hreserved
      · next heq =>
        subst heq hreserved
        exact Or.inr ⟨Nat.le_refl _, kind, hsettled, hkind.kept hkeeps⟩
      · exact Or.inl hreserved
    · rw [Growth.reserving, Array.size_push] at hle
      refine Or.inr ⟨Nat.le_of_succ_le hle, otherKind, ?_, hother.kept hkeeps⟩
      exact (helsewhere (Nat.ne_of_gt hle)).trans hnode
  · exact fun id hid => (hst.held id hid).imp_right (hkeeps.part _ id)

/-- **Every schema of the graph gets the type that it asks for.** -/
theorem makes_ofNode {g : SchemaGraph} (o : Options)
    (hg : ∀ id, ∀ part ∈ g.children id, part < g.size) (levels : Nat) :
    Visit.Makes (ofNode g o levels) g o levels := by
  refine fun schema hschema s hs => ofNode_rule
    (P := fun levels schema s => schema < g.size ∧ Prepared g o levels s)
    (Q := fun levels schema s type t =>
      Prepared g o levels t ∧ Makes g o s t ∧ t.Assigns schema type)
    ?found ?out ?new levels schema s ⟨hschema, hs⟩
  case found => exact fun ⟨_, hs⟩ htype => ⟨hs, .refl _, htype⟩
  case out => exact fun ⟨hschema, hs⟩ hnone => absurd hs.toReady (not_ready_zero hschema hnone)
  case new =>
    intro levels schema s ih ⟨hschema, hs⟩ hnone
    obtain ⟨-, hst, hkind⟩ := making_kindOf (fun schema hschema s hs => ih schema s ⟨hschema, hs⟩)
      (hs.reserving hschema hnone) (hg schema)
    have hmakes := makes_settled hnone hst hkind
    exact ⟨hmakes.prepared hs, hmakes, hst.assigned _ _ Growth.assigns_self⟩

/-! ### The types of a graph -/

theorem prepared_start (g : SchemaGraph) (o : Options) : Prepared g o g.size {} where
  inRange := fun _ _ h => nomatch h
  enough := Nat.le_trans (List.length_filter_le ..) (by simp [SchemaGraph.ids])
  held := fun _ h => nomatch h

/-- What is made of a graph, from nothing. -/
theorem makes_made {g : SchemaGraph} (o : Options) (hroot : g.root < g.size)
    (hg : ∀ id, ∀ part ∈ g.children id, part < g.size) : Makes g o {} (made g o) :=
  (makes_ofNode o hg g.size g.root hroot {} (prepared_start g o)).2.1

/-- **The types of a graph are those that its schemas ask for.** -/
theorem exists_isKind_of_assigns {g : SchemaGraph} {o : Options} (hroot : g.root < g.size)
    (hg : ∀ id, ∀ part ∈ g.children id, part < g.size) {schema : SchemaId} {type : TypeId}
    (h : (made g o).Assigns schema type) :
    ∃ kind, (made g o).nodes[type]? = some { reservedNode (g.node schema) with kind } ∧
      IsKind (made g o) g o schema kind := by
  rcases (makes_made o hroot hg).settled schema type h with hstart | ⟨-, hsettled⟩
  · cases hstart
  · exact hsettled

/-! ### What types admit -/

theorem kind_of_hasPart {g : SchemaGraph} {o : Options} {kind : TypeKind} {id : TypeId}
    (h : (made g o).HasPart kind id) : (ofSchema g o).kind id = kind := by
  change ((made g o).nodes[id]?.getD { kind := .any }).kind = kind
  rw [show (made g o).nodes[id]? = some { kind } from h]
  rfl

/-- The placeholder has its kind. -/
theorem kind_of_placeholder {g : SchemaGraph} {o : Options} (hroot : g.root < g.size)
    (hg : ∀ id, ∀ part ∈ g.children id, part < g.size) {id : TypeId}
    (h : (made g o).placeholder = some id) : (ofSchema g o).kind id = placeholderKind o := by
  rcases (makes_made o hroot hg).held id h with hstart | hpart
  · cases hstart
  · exact kind_of_hasPart hpart

section Assigned

variable {g : SchemaGraph} {o : Options} (hroot : g.root < g.size)
  (hg : ∀ id, ∀ part ∈ g.children id, part < g.size) {schema : SchemaId} {type : TypeId}
  (h : (made g o).Assigns schema type)

include hroot hg h

/-- **The type of a schema is what was reserved for it**, apart from its kind. -/
theorem node_of_assigns : (ofSchema g o).node type =
    { reservedNode (g.node schema) with kind := (ofSchema g o).kind type } := by
  obtain ⟨kind, hnode, -⟩ := exists_isKind_of_assigns hroot hg h
  have hsame : (ofSchema g o).node type = { reservedNode (g.node schema) with kind } := by
    change (made g o).nodes[type]?.getD { kind := .any } = _
    rw [hnode]
    rfl
  rw [TypeGraph.kind, hsame]

/-- **The type of a schema has a kind that the schema asks for.** -/
theorem isKind_of_assigns : IsKind (made g o) g o schema ((ofSchema g o).kind type) := by
  obtain ⟨kind, hnode, hkind⟩ := exists_isKind_of_assigns hroot hg h
  have hsame : (ofSchema g o).kind type = kind := by
    change ((made g o).nodes[type]?.getD { kind := .any }).kind = kind
    rw [hnode]
    rfl
  rwa [hsame]

/-- The type of a schema has the name of the schema. -/
theorem name?_of_assigns : (ofSchema g o).name? type = (g.node schema).standaloneName :=
  congrArg TypeNode.name (node_of_assigns hroot hg h)

end Assigned

/-- An unnamed type admits the values of its kind. -/
theorem values_of_hasPart (g : SchemaGraph) (o : Options) {kind : TypeKind} {id : TypeId}
    (h : (made g o).HasPart kind id) : (ofSchema g o).values id =
      kindValues ((ofSchema g o).bearing (ofSchema g o).values) (ofSchema g o).values kind := by
  rw [← meaning_values, meaning, kind_of_hasPart h]

/-- **The type of a schema admits the values of a kind that the schema asks for.** -/
theorem exists_values_of_assigns {g : SchemaGraph} {o : Options} (hroot : g.root < g.size)
    (hg : ∀ id, ∀ part ∈ g.children id, part < g.size) {schema : SchemaId} {type : TypeId}
    (h : (made g o).Assigns schema type) : ∃ kind, IsKind (made g o) g o schema kind ∧
      (ofSchema g o).values type =
        kindValues ((ofSchema g o).bearing (ofSchema g o).values) (ofSchema g o).values kind :=
  ⟨_, isKind_of_assigns hroot hg h, (meaning_values _ type).symm⟩

end TypeGraph
end SchemaTypings
