import SchemaTypings.Proofs.Additions

/-! # The types of schemas

Every schema gets a type whose kind is what the schema asks for, by induction on the levels of
nesting: each function that makes a kind `Adds` to the state, if the visit that it is given does.
The levels never run out, for each opens a schema that had no type.
-/
namespace SchemaTypings
namespace TypeGraph

variable {g : SchemaGraph} {levels : Nat} {s t u : Growth}

/-! ### What schemas say -/

/-- **What a schema says of its own** is a class exactly when it is given bases or says so. -/
structure SaysOwn (n : SchemaNode) (bases : List TypeId) (own : Option TypeKind) : Prop where
  isRecord : (∃ kind, own = some kind ∧ kind.isRecord = true) ↔ bases ≠ [] ∨ SaysClass n
  kinds : ∀ kind ∈ own, kind.bases = bases ∧ kind.isCustom = false

namespace SaysOwn

variable {n : SchemaNode} {kind : TypeKind}

/-- A schema without bases that says nothing of its own says no class. -/
theorem silent (hno : ¬ SaysClass n) : SaysOwn n [] none where
  isRecord := ⟨fun ⟨_, h, _⟩ => (nomatch h), fun h => absurd h (by simp [hno])⟩
  kinds := fun _ h => absurd h (Option.not_mem_none _)

/-- A schema without bases says a class where its kind is one. -/
theorem said (hrecord : kind.isRecord = true ↔ SaysClass n)
    (hkind : kind.bases = [] ∧ kind.isCustom = false) : SaysOwn n [] (some kind) where
  isRecord := by
    constructor
    · rintro ⟨other, heq, hother⟩
      cases heq
      exact Or.inr (hrecord.1 hother)
    · exact fun h => ⟨kind, rfl, hrecord.2 (h.resolve_left fun hne => hne rfl)⟩
  kinds := by
    rintro other hother
    cases hother
    exact hkind

theorem of_isPlain (hno : ¬ SaysClass n) (hkind : kind.isPlain = true) :
    SaysOwn n [] (some kind) := by
  have hrecord := kind.isRecord_of_isPlain hkind
  refine said ⟨fun h => ?_, fun h => absurd h hno⟩
    ⟨kind.bases_of_not_isRecord hrecord, kind.isCustom_of_isPlain hkind⟩
  rw [hrecord] at h
  cases h

/-- A schema that is given bases says a class with them. -/
theorem of_bases (hne : kind.bases ≠ []) (hrecord : kind.isRecord = true) :
    SaysOwn n kind.bases (some kind) where
  isRecord := ⟨fun _ => Or.inl hne, fun _ => ⟨kind, rfl, hrecord⟩⟩
  kinds := by
    rintro other hother
    cases hother
    exact ⟨rfl, kind.isCustom_of_isRecord hrecord⟩

end SaysOwn

/-- What a schema says: first of its own, if it says anything of its own, and then by lists. -/
structure Says (g : SchemaGraph) (s : Growth) (id : SchemaId) (own : Option TypeKind)
    (others : List TypeKind) : Prop where
  isRecord : (∃ kind, own = some kind ∧ kind.isRecord = true) ↔
    hasBases g id = true ∨ SaysClass (g.node id)
  inherited : hasBases g id = true → ∃ kind, own = some kind ∧
    s.AssignsAll (baseCandidates (g.node id)) kind.bases
  uninherited : hasBases g id = false → ∀ kind ∈ own, kind.bases = []
  custom : ∀ kind ∈ own, kind.isCustom = false
  plainLists : ∀ kind ∈ others, kind.isPlain = true
  alone : others = [] ↔ (g.node id).anyOf = [] ∧ (g.node id).oneOf = [] ∧
    (hasBases g id = true ∨ ((g.node id).allOf = [] ∧ (g.node id).bases = []))

/-- A kind that is no class, of a schema that does not become one. -/
theorem Fulfils.of_not_isRecord {schema : SchemaId} {kind : TypeKind}
    (hkind : kind.isRecord = false) (hclass : ¬ BecomesClass g schema)
    (hinherits : ¬ Inherits g schema)
    (hcustom : ∀ text, kind = .custom text → text = "never" ∨
      (g.node schema).customType? = some text)
    (hsplit : SplitsBases g schema → ∃ (type : TypeId) (node : TypeNode),
      s.nodes[type]? = some node ∧
        s.AssignsAll (baseCandidates (g.node schema)) node.kind.bases) :
    Fulfils g s schema kind where
  isRecord := by
    rw [hkind]
    exact ⟨fun h => absurd h Bool.false_ne_true, fun h => absurd h hclass⟩
  inherits := fun h => absurd h hinherits
  bases := fun h => absurd (kind.bases_of_not_isRecord hkind) h
  custom := hcustom
  split := hsplit

/-- A plain kind, of a schema that gets no bases. -/
theorem Fulfils.of_isPlain {schema : SchemaId} {kind : TypeKind} (hkind : kind.isPlain = true)
    (hclass : ¬ BecomesClass g schema) (hgets : ¬ GetsBases g schema) :
    Fulfils g s schema kind := by
  refine .of_not_isRecord (kind.isRecord_of_isPlain hkind) hclass (fun h => hgets h.1) ?_
    fun h => absurd ⟨h.1, h.2.1, h.2.2.1⟩ hgets
  rintro text rfl
  cases hkind

/-- What a schema says takes its bases from the schema. -/
theorem Says.justifies {id : SchemaId} {own : Option TypeKind} {others : List TypeKind}
    (h : Says g s id own others) (hboolean : (g.node id).boolean = none)
    (hcustom : (g.node id).customType? = none) (hhas : s.Has id) :
    ∀ kind ∈ own.toList ++ others, s.Justifies g { kind } := by
  intro kind hkind
  rcases List.mem_append.1 hkind with hown | hother
  · have hown := Option.mem_toList.1 hown
    cases hbases : hasBases g id with
    | false => exact justifies_of_bases (h.uninherited hbases kind hown) (h.custom kind hown)
    | true =>
      obtain ⟨kind', rfl, hall⟩ := h.inherited hbases
      cases hown
      refine ⟨fun _ h => (nomatch h), fun _ => ⟨id, ⟨hbases, hboolean, hcustom⟩, hhas, hall⟩, ?_⟩
      rintro text rfl
      cases h.custom _ rfl
  · exact justifies_of_isPlain (h.plainLists kind hother)

section Said

variable {id : SchemaId} {own : Option TypeKind} {others : List TypeKind}
  (h : Says g s id own others)

include h

theorem Says.adds (hadds : Adds g s t) : Says g t id own others :=
  { h with inherited := fun hhas => (h.inherited hhas).imp fun _ => And.imp_right hadds.assignsAll }

/-- A schema becomes a class only where its own statement is one and stands alone. -/
theorem Says.own_isRecord_of_becomesClass (hclass : BecomesClass g id) :
    others = [] ∧ ∃ kind, own = some kind ∧ kind.isRecord = true := by
  obtain ⟨-, -, hany, hone, hbases | ⟨hall, hextends, hown⟩⟩ := hclass
  · exact ⟨h.alone.2 ⟨hany, hone, Or.inl hbases⟩, h.isRecord.2 (Or.inl hbases)⟩
  · exact ⟨h.alone.2 ⟨hany, hone, Or.inr ⟨hall, hextends⟩⟩, h.isRecord.2 (Or.inr hown)⟩

/-- A class that is all that a schema says makes the schema a class. -/
theorem Says.becomesClass (hboolean : (g.node id).boolean = none)
    (hcustom : (g.node id).customType? = none) (hothers : others = []) {kind : TypeKind}
    (hown : own = some kind) (hkind : kind.isRecord = true) : BecomesClass g id := by
  obtain ⟨hany, hone, hlists⟩ := h.alone.1 hothers
  refine ⟨hboolean, hcustom, hany, hone, ?_⟩
  rcases h.isRecord.1 ⟨kind, hown, hkind⟩ with hbases | hsays
  · exact Or.inl hbases
  · exact hlists.imp_right fun hnone => ⟨hnone.1, hnone.2, hsays⟩

/-- A schema that says nothing of its own has no bases. -/
theorem Says.not_hasBases (hown : own = none) : ¬ hasBases g id = true := by
  intro hhas
  obtain ⟨kind, hkind, -⟩ := h.inherited hhas
  cases hkind.symm.trans hown

/-- What stands alone is not split from others. -/
theorem Says.not_splitsBases (hothers : others = []) : ¬ SplitsBases g id := by
  obtain ⟨hany, hone, -⟩ := h.alone.1 hothers
  exact fun hsplits => hsplits.2.2.2.elim (absurd hany) (absurd hone)

/-- A plain kind fulfils a schema that says nothing of its own. -/
theorem Says.fulfils_of_silent {kind : TypeKind} (hkind : kind.isPlain = true)
    (hown : own = none) : Fulfils g s id kind := by
  refine .of_isPlain hkind (fun hclass => ?_) fun hgets => h.not_hasBases hown hgets.1
  obtain ⟨-, _, hsome, -⟩ := h.own_isRecord_of_becomesClass hclass
  cases hsome.symm.trans hown

end Said

/-- The only statement of a schema fulfils it. -/
theorem Says.fulfils_own {id : SchemaId} {kind : TypeKind} (h : Says g s id (some kind) [])
    (hboolean : (g.node id).boolean = none) (hcustom : (g.node id).customType? = none) :
    Fulfils g s id kind where
  isRecord := by
    refine ⟨h.becomesClass hboolean hcustom rfl rfl, fun hclass => ?_⟩
    obtain ⟨-, other, heq, hother⟩ := h.own_isRecord_of_becomesClass hclass
    cases heq
    exact hother
  inherits := fun hinherits => by
    obtain ⟨other, heq, hall⟩ := h.inherited hinherits.1.1
    cases heq
    exact hall
  bases := fun hne => by
    have hbases : hasBases g id = true := by
      by_contra hno
      exact hne (h.uninherited (Bool.eq_false_iff.2 hno) kind rfl)
    exact ⟨⟨hbases, hboolean, hcustom⟩, (h.alone.1 rfl).1, (h.alone.1 rfl).2.1⟩
  custom := by
    rintro text rfl
    cases h.custom _ rfl
  split := fun hsplits => absurd hsplits (h.not_splitsBases rfl)

/-- An intersection fulfils a schema that makes several statements, the first of which is a type. -/
theorem Says.fulfils_joined {id : SchemaId} {kind other : TypeKind} {others : List TypeKind}
    {members : List TypeId} (h : Says g s id (some kind) (other :: others)) {first : TypeId}
    (hfirst : s.nodes[first]? = some { kind }) : Fulfils g s id (.intersection members) := by
  refine .of_not_isRecord rfl (fun hclass => ?_) (fun hinherits => ?_) (fun _ heq => nomatch heq)
    fun hsplits => ?_
  · exact List.cons_ne_nil _ _ (h.own_isRecord_of_becomesClass hclass).1
  · exact List.cons_ne_nil _ _
      (h.alone.2 ⟨hinherits.2.1, hinherits.2.2, Or.inl hinherits.1.1⟩)
  · obtain ⟨_, heq, hall⟩ := h.inherited hsplits.1
    cases heq
    exact ⟨first, _, hfirst, hall⟩

/-! ### Kinds of schemas -/

/-- **The promise of a visit**: a schema of the graph gets a type. -/
def Visit.Assigns (visit : Visit) (g : SchemaGraph) (levels : Nat) : Prop :=
  ∀ schema < g.size, ∀ s, Ready g levels s →
    Adding g levels s (visit schema) fun type t => t.Assigns schema type

section Visiting

variable {visit : Visit} (hvisit : visit.Assigns g levels) {n : SchemaNode}
  (hn : ∀ part ∈ n.children, part < g.size)

include hvisit

theorem adding_mapM_visit (hs : Ready g levels s) {schemas : List SchemaId}
    (hin : ∀ schema ∈ schemas, schema < g.size) :
    Adding g levels s (schemas.mapM visit) fun types t => t.AssignsAll schemas types :=
  .mapM (fun schema type _ _ h => h.assigned schema type)
    (fun schema hschema t ht _ => hvisit schema (hin schema hschema) t ht) hs

theorem adding_membersOf (hs : Ready g levels s) (make : String → SchemaId → TypeId → Member)
    {entries : Dict SchemaId} (hin : ∀ schema ∈ entries.values, schema < g.size) :
    Adding g levels s (membersOf visit make entries) fun _ _ => True := by
  refine (Adding.mapM (Q := fun _ _ _ => True) (fun _ _ _ _ _ h => h)
    (fun entry hentry t ht _ => ?_) hs).mono fun _ _ _ => trivial
  exact (hvisit entry.2 (hin entry.2 (List.mem_map.2 ⟨entry, hentry, rfl⟩)) t ht).bind
    fun type u hu _ _ => .pure hu trivial

theorem adding_additionalType (hs : Ready g levels s) (o : Options) {rest : Option Additional}
    (hin : ∀ schema ∈ Additional.ids rest, schema < g.size) :
    Adding g levels s (additionalType visit o rest) fun _ _ => True := by
  unfold additionalType
  split
  · exact (adding_placeholderType hs o).map fun _ _ h => h
  · next child =>
    exact (hvisit child (hin child (List.mem_singleton_self _)) s hs).map fun _ _ _ => trivial
  · exact .pure hs trivial

include hn

/-- A class has the bases that it is given. -/
theorem adding_recordKind (hs : Ready g levels s) (o : Options) (bases : List TypeId) :
    Adding g levels s (recordKind visit g o n bases) fun kind _ =>
      kind.isRecord = true ∧ kind.bases = bases := by
  simp only [SchemaNode.children, List.mem_append] at hn
  unfold recordKind
  refine (adding_membersOf hvisit hs _ fun c hc => hn c (by simp [hc])).bind
    fun properties t ht _ _ => ?_
  refine (adding_membersOf hvisit ht _ fun c hc => hn c (by simp [hc])).bind
    fun patterns u hu _ _ => ?_
  refine (adding_additionalType hvisit hu o fun c hc => hn c (by simp [hc])).bind
    fun additional v hv _ _ => ?_
  have hunreachable : Adding g levels v (membersOf visit (fun key _ type =>
      { key, type, isRequired := true, isUnreachable := true }) n.definitions) fun _ _ => True :=
    adding_membersOf hvisit hv _ fun c hc => hn c (by simp [hc])
  refine (Adding.listIf (Q := fun _ _ => True) hv (hunreachable.mono fun _ _ _ _ => trivial)
    fun _ => trivial).bind fun unreachable w hw _ _ => .pure hw ⟨rfl, rfl⟩

theorem adding_objectKind (hs : Ready g levels s) (o : Options) :
    Adding g levels s (objectKind visit g o n) fun kind _ =>
      kind.isRecord = n.isClassShaped ∧ kind.bases = [] ∧ kind.isCustom = false := by
  unfold objectKind
  split
  · next hshaped =>
    exact (adding_recordKind hvisit hn hs o []).mono fun kind _ ⟨hrecord, hbases⟩ =>
      ⟨hrecord.trans hshaped.symm, hbases, kind.isCustom_of_isRecord hrecord⟩
  · next hplain => exact .pure hs ⟨(Bool.eq_false_iff.2 hplain).symm, rfl, rfl⟩

theorem adding_arrayKind (hs : Ready g levels s) (o : Options) :
    Adding g levels s (arrayKind visit o n) fun kind _ => kind.isPlain = true := by
  simp only [SchemaNode.children, List.mem_append] at hn
  simp only [arrayKind]
  split
  · next ids hids =>
    refine (adding_mapM_visit hvisit hs fun c hc => hn c (by simp [hids, Items.ids, hc])).bind
      fun elements t ht _ _ => ?_
    refine (adding_additionalType hvisit ht o fun c hc => hn c (by simp [hc])).bind
      fun spread u hu _ _ => ?_
    split <;> exact .pure hu rfl
  · next id hid =>
    exact (hvisit id (hn id (by simp [hid, Items.ids])) s hs).bind
      fun element t ht _ _ => .pure ht rfl
  · refine (adding_placeholderType hs o).bind fun any t ht _ _ => ?_
    split <;> exact .pure ht rfl

/-- A named kind is a class for objects with members alone. -/
theorem adding_namedKind (hs : Ready g levels s) (o : Options) (name : String) :
    Adding g levels s (namedKind visit g o n name) fun kind _ =>
      (kind.isRecord = true ↔ n.isClassShaped = true ∧ name = "object") ∧ kind.bases = [] ∧
        kind.isCustom = false := by
  have hother : ∀ {kind : TypeKind} {name : String}, kind.isPlain = true → name ≠ "object" →
      (kind.isRecord = true ↔ n.isClassShaped = true ∧ name = "object") ∧ kind.bases = [] ∧
        kind.isCustom = false := by
    intro kind name hkind hname
    have hrecord := kind.isRecord_of_isPlain hkind
    refine ⟨⟨fun h => ?_, fun h => absurd h.2 hname⟩, kind.bases_of_not_isRecord hrecord,
      kind.isCustom_of_isPlain hkind⟩
    rw [hrecord] at h
    cases h
  unfold namedKind
  split
  case h_6 =>
    refine (adding_objectKind hvisit hn hs o).mono fun kind _ ⟨hrecord, hrest⟩ => ⟨?_, hrest⟩
    rw [hrecord]
    exact ⟨fun h => ⟨h, rfl⟩, And.left⟩
  case h_7 =>
    exact (adding_arrayKind hvisit hn hs o).mono fun kind _ hkind => hother hkind (by decide)
  case h_8 hobject _ =>
    exact .pure hs (hother (isPlain_placeholderKind o) hobject)
  all_goals exact .pure hs (hother rfl (by decide))

/-- What a schema says by itself is a class exactly when it is given bases or says so. -/
theorem adding_ownFacet (hs : Ready g levels s) (o : Options) {bases : List TypeId}
    (henum : bases ≠ [] → n.isEnumShaped = false) :
    Adding g levels s (ownFacet visit g o n bases) fun own _ => SaysOwn n bases own := by
  unfold ownFacet
  split
  · next hshaped =>
    obtain rfl : bases = [] := by
      by_contra hne
      rw [henum hne] at hshaped
      cases hshaped
    refine (adding_enumKind hs n).map fun kind _ hkind => .of_isPlain (fun h => ?_) hkind
    rw [h.1] at hshaped
    cases hshaped
  next hshaped =>
  have hshaped : n.isEnumShaped = false := Bool.eq_false_iff.2 hshaped
  split
  · next hbases =>
    have hne : bases ≠ [] := by simpa using hbases
    refine (adding_recordKind hvisit hn hs o bases).map fun kind _ ⟨hrecord, hkind⟩ => ?_
    subst hkind
    exact .of_bases hne hrecord
  next hbases =>
  obtain rfl : bases = [] := by simpa using hbases
  split
  · next htypes =>
    have hclass : n.isClassShaped = true ↔ SaysClass n :=
      ⟨fun h => ⟨hshaped, h, Or.inl htypes⟩, fun h => h.2.1⟩
    split
    · exact (adding_objectKind hvisit hn hs o).map fun kind _ ⟨hrecord, hkind⟩ =>
        .said (by rw [hrecord, hclass]) hkind
    next hno =>
    -- a schema with members is a schema of objects
    have hplain : ¬ SaysClass n := by
      rw [SchemaNode.isObjectShaped] at hno
      simp only [Bool.or_eq_true, not_or] at hno
      exact fun h => hno.1.2 h.2.1
    split
    · exact (adding_arrayKind hvisit hn hs o).map fun kind _ hkind => .of_isPlain hplain hkind
    · exact .pure hs (.silent hplain)
  · next name htypes =>
    refine (adding_namedKind hvisit hn hs o name).map fun kind _ ⟨hrecord, hkind⟩ =>
      .said (hrecord.trans ?_) hkind
    simp [SaysClass, hshaped, htypes]
  · next hempty hsingle =>
    have hmembers : Adding g levels s (n.types.mapM fun name => do
        let kind ← namedKind visit g o n name
        addUnnamed kind) fun _ _ => True := by
      refine (Adding.mapM (Q := fun _ _ _ => True) (fun _ _ _ _ _ h => h)
        (fun name _ t ht _ => ?_) hs).mono fun _ _ _ => trivial
      exact (adding_namedKind hvisit hn ht o name).bind fun kind u hu _ ⟨_, hkind, hcustom⟩ =>
        (adding_addUnnamed hu (justifies_of_bases hkind hcustom)).mono fun _ _ _ => trivial
    refine hmembers.bind fun members t ht _ _ => .pure ht (.of_isPlain (fun h => ?_) rfl)
    exact h.2.2.elim hempty (hsingle _)

omit hn in
/-- A list of schemas is one statement, unless it is empty, and a plain one. -/
theorem adding_groupFacet (hs : Ready g levels s) {make : List TypeId → TypeKind}
    (hmake : ∀ ids, (make ids).isPlain = true) {schemas : List SchemaId}
    (hin : ∀ schema ∈ schemas, schema < g.size) :
    Adding g levels s (groupFacet visit make schemas) fun kinds _ =>
      (kinds = [] ↔ schemas = []) ∧ ∀ kind ∈ kinds, kind.isPlain = true := by
  unfold groupFacet
  split
  · next hempty => exact .pure hs ⟨by simpa using hempty, fun _ h => nomatch h⟩
  · next hfull =>
    refine (adding_mapM_visit hvisit hs hin).bind fun members t ht _ _ => .pure ht ⟨?_, ?_⟩
    · simpa using hfull
    · intro kind hkind
      rw [List.mem_singleton.1 hkind]
      exact hmake members

omit hn in
theorem adding_facets (hs : Ready g levels s) (o : Options) {id : SchemaId}
    (hid : ∀ part ∈ g.children id, part < g.size) :
    Adding g levels s (facets visit g o id) fun kinds t =>
      ∃ own lists, kinds = own.toList ++ lists ∧ Says g t id own lists := by
  have hin : ∀ part ∈ (g.node id).children, part < g.size := hid
  simp only [SchemaNode.children, List.mem_append] at hin
  have hcandidates : ∀ schema ∈ baseCandidates (g.node id), schema < g.size :=
    fun schema hschema => hid schema (mem_children_of_mem_baseCandidates hschema)
  simp only [facets]
  have hbases : Adding g levels s
      (listIf (hasBases g id) ((baseCandidates (g.node id)).mapM visit)) fun bases t =>
        (bases = [] ↔ hasBases g id = false) ∧ (hasBases g id = true →
          t.AssignsAll (baseCandidates (g.node id)) bases) := by
    refine Adding.listIf hs ((adding_mapM_visit hvisit hs hcandidates).mono
      fun bases t hall hhas => ⟨?_, fun _ => hall⟩) fun hno => ?_
    · rw [hhas, ← List.length_eq_zero_iff, ← hall.length_eq, List.length_eq_zero_iff]
      exact ⟨fun h => absurd h (baseCandidates_ne_nil hhas),
        fun h => absurd h.symm Bool.false_ne_true⟩
    · exact ⟨⟨fun _ => hno, fun _ => rfl⟩, fun hhas => by rw [hno] at hhas; cases hhas⟩
  refine hbases.bind fun bases t ht _ hgiven => ?_
  obtain ⟨hnil, hall⟩ := hgiven
  have hne : bases ≠ [] ↔ hasBases g id = true := by
    rw [Ne, hnil, Bool.not_eq_false]
  refine (adding_ownFacet hvisit hid ht o fun h => not_isEnumShaped_of_hasBases (hne.1 h)).bind
    fun own u hu htu howned => ?_
  obtain ⟨hown, hownBases⟩ := howned
  -- lists under `allOf` and `extends` are statements of their own where they are no bases
  have hgroup : ∀ {schemas : List SchemaId} {v : Growth}, Ready g levels v →
      (∀ schema ∈ schemas, schema < g.size) → Adding g levels v
        (listIf bases.isEmpty (groupFacet visit .intersection schemas)) fun kinds _ =>
          (kinds = [] ↔ hasBases g id = true ∨ schemas = []) ∧
            ∀ kind ∈ kinds, kind.isPlain = true := by
    intro schemas v hv hschemas
    refine Adding.listIf hv ((adding_groupFacet hvisit hv (fun _ => rfl) hschemas).mono
      fun kinds _ hkinds hempty => ⟨?_, hkinds.2⟩) fun hfull =>
        ⟨?_, fun _ h => absurd h List.not_mem_nil⟩
    · rw [hnil.1 (by simpa using hempty), hkinds.1]
      simp
    · simp [hne.1 (by simpa using hfull)]
  refine (hgroup hu fun c hc => hin c (by simp [hc])).bind fun all v hv huv hallOf => ?_
  refine (hgroup hv fun c hc => hin c (by simp [hc])).bind fun extended w hw hvw hextends => ?_
  refine (adding_groupFacet hvisit hw (fun _ => rfl) fun c hc => hin c (by simp [hc])).bind
    fun any x hx hwx hany => ?_
  refine (adding_groupFacet hvisit hx (fun _ => rfl) fun c hc => hin c (by simp [hc])).bind
    fun one y hy hxy hone => ?_
  refine .pure hy ⟨own, all ++ extended ++ any ++ one, by simp, ?_, ?_, ?_,
    fun kind hkind => (hownBases kind hkind).2, ?_, ?_⟩
  · rw [hown, hne]
  · intro hhas
    obtain ⟨kind, rfl, -⟩ := hown.2 (Or.inl (hne.2 hhas))
    refine ⟨kind, rfl, ?_⟩
    rw [(hownBases kind rfl).1]
    exact (htu.trans (huv.trans (hvw.trans (hwx.trans hxy)))).assignsAll (hall hhas)
  · intro hno kind hkind
    rw [(hownBases kind hkind).1, hnil.2 hno]
  · intro kind hkind
    simp only [List.mem_append] at hkind
    rcases hkind with ((h | h) | h) | h
    · exact hallOf.2 kind h
    · exact hextends.2 kind h
    · exact hany.2 kind h
    · exact hone.2 kind h
  · simp only [List.append_eq_nil_iff, hallOf.1, hextends.1, hany.1, hone.1, or_and_left]
    exact ⟨fun h => ⟨h.1.2, h.2, h.1.1⟩, fun h => ⟨⟨h.2.2, h.1⟩, h.2.1⟩⟩

omit hvisit hn in
/-- The statements of a schema become nodes, each a node without a name. -/
theorem adding_mapM_addUnnamed (hs : Ready g levels s) {kinds : List TypeKind}
    (h : ∀ kind ∈ kinds, s.Justifies g { kind }) :
    Adding g levels s (kinds.mapM addUnnamed) fun ids t =>
      List.Forall₂ (fun kind id => t.nodes[id]? = some { kind }) kinds ids :=
  .mapM (fun kind id _ _ htu hid => htu.nodes id { kind } hid)
    (fun kind hkind _ ht hst => adding_addUnnamed ht (hst.justifies (h kind hkind))) hs

omit hn in
/-- **The kind of the type of a schema** that is being made. -/
theorem adding_kindOf (hs : Ready g levels s) (o : Options) {id : SchemaId}
    (hid : ∀ part ∈ g.children id, part < g.size) (hhas : s.Has id) :
    Adding g levels s (kindOf visit g o id) fun kind t => Fulfils g t id kind := by
  simp only [kindOf]
  split
  · next hboolean =>
    exact .pure hs (.of_isPlain (isPlain_placeholderKind o) (fun h => by simp [h.1] at hboolean)
      fun h => by simp [h.2.1] at hboolean)
  · next hboolean =>
    refine .pure hs (.of_not_isRecord rfl (fun h => by simp [h.1] at hboolean)
      (fun h => by simp [h.1.2.1] at hboolean) (fun text htext => ?_)
      fun h => by simp [h.2.1] at hboolean)
    cases htext
    exact Or.inl rfl
  · next hcustom =>
    refine .pure hs (.of_not_isRecord rfl (fun h => by simp [h.2.1] at hcustom)
      (fun h => by simp [h.1.2.2] at hcustom) (fun text htext => ?_)
      fun h => by simp [h.2.2.1] at hcustom)
    cases htext
    exact Or.inr hcustom
  · next hboolean hcustom =>
    refine (adding_facets hvisit hs o hid).bind fun kinds t ht hst hkinds => ?_
    obtain ⟨own, others, rfl, htold⟩ := hkinds
    have hjustified := htold.justifies hboolean hcustom (hst.has hhas)
    cases others with
    | nil =>
      cases own with
      | none => exact .pure ht (htold.fulfils_of_silent (isPlain_placeholderKind o) rfl)
      | some kind => exact .pure ht (htold.fulfils_own hboolean hcustom)
    | cons other rest =>
      -- several statements make an intersection, and one by a list makes what the list makes
      cases own with
      | none =>
        cases rest with
        | nil =>
          exact .pure ht
            (htold.fulfils_of_silent (htold.plainLists other List.mem_cons_self) rfl)
        | cons _ _ =>
          exact (adding_mapM_addUnnamed ht hjustified).bind fun _ u hu htu _ =>
            .pure hu ((htold.adds htu).fulfils_of_silent rfl rfl)
      | some kind =>
        refine (adding_mapM_addUnnamed ht hjustified).bind fun ids u hu htu hids => .pure hu ?_
        cases hids with
        | cons hfirst _ => exact (htold.adds htu).fulfils_joined hfirst

end Visiting

/-! ### Types of schemas -/

theorem Growth.mem_untyped {schema : SchemaId} (hlt : schema < g.size)
    (h : s.typeOf.lookup schema = none) : schema ∈ s.untyped g := by
  simp [Growth.untyped, SchemaGraph.ids, hlt, h]

/-- Levels have not run out while a schema has no type. -/
theorem not_ready_zero {schema : SchemaId} (hlt : schema < g.size)
    (h : s.typeOf.lookup schema = none) : ¬ Ready g 0 s := fun hs =>
  Nat.not_lt.2 hs.enough (List.length_pos_of_mem (Growth.mem_untyped hlt h))

/-- A schema without a type that is given one leaves fewer without. -/
theorem length_untyped_lt {schema : SchemaId} {type : TypeId} {nodes : Array TypeNode}
    (hlt : schema < g.size) (h : s.typeOf.lookup schema = none) :
    (Growth.untyped { s with nodes, typeOf := (schema, type) :: s.typeOf } g).length <
      (s.untyped g).length := by
  have heq : Growth.untyped { s with nodes, typeOf := (schema, type) :: s.typeOf } g =
      (s.untyped g).filter fun other => other ≠ schema := by
    unfold Growth.untyped
    rw [List.filter_filter]
    refine List.filter_congr fun other _ => ?_
    rw [List.lookup_cons]
    by_cases hother : other = schema
    · simp [hother]
    · simp [hother, beq_eq_false_iff_ne.2 hother]
  rw [heq]
  exact List.length_filter_lt_length_iff_exists.2 ⟨schema, Growth.mem_untyped hlt h, by simp⟩

theorem Growth.assigns_reserving {schema other : SchemaId} {type : TypeId} :
    (s.reserving g schema).Assigns other type ↔
      if other = schema then type = s.nodes.size else s.Assigns other type := by
  rw [Assigns, reserving, List.lookup_cons]
  by_cases hother : other = schema
  · simp [hother, eq_comm]
  · simp [hother, beq_eq_false_iff_ne.2 hother, Assigns]

theorem Growth.assigns_self {schema : SchemaId} :
    (s.reserving g schema).Assigns schema s.nodes.size := by
  rw [assigns_reserving, if_pos rfl]

theorem Ready.reserving (hs : Ready g (levels + 1) s) {schema : SchemaId} (hlt : schema < g.size)
    (h : s.typeOf.lookup schema = none) : Ready g levels (s.reserving g schema) where
  inRange := by
    intro other type htype
    rw [Growth.assigns_reserving] at htype
    rw [Growth.reserving, Array.size_push]
    split at htype
    · exact htype ▸ Nat.lt_succ_self _
    · exact Nat.lt_succ_of_lt (hs.inRange other type htype)
  enough := Nat.le_of_lt_succ (Nat.lt_of_lt_of_le (length_untyped_lt hlt h) hs.enough)

/-- Settling a reserved type, which has no bases, leaves alone what other schemas have. -/
theorem Fulfils.settling {schema : SchemaId}
    (hnew : t.nodes[s.nodes.size]? = some (reservedNode (g.node schema)))
    {other : SchemaId} {otherKind : TypeKind} (h : Fulfils g t other otherKind) (kind : TypeKind) :
    Fulfils g (t.settling s.nodes.size kind) other otherKind := by
  refine ⟨h.isRecord, h.inherits, h.bases, h.custom, fun hsplits => ?_⟩
  obtain ⟨id, node, hnode, hall⟩ := h.split hsplits
  refine ⟨id, node, (t.getElem?_settling kind ?_).trans hnode, hall⟩
  rintro rfl
  rw [hnew] at hnode
  cases hnode
  exact baseCandidates_ne_nil hsplits.1 (List.forall₂_nil_right_iff.1 hall)

/-- What is there before a type is reserved stays in its place. -/
theorem Growth.getElem?_reserving {id : TypeId} {node : TypeNode} (h : s.nodes[id]? = some node)
    (schema : SchemaId) : id ≠ s.nodes.size ∧ (s.reserving g schema).nodes[id]? = some node :=
  ⟨Nat.ne_of_lt (Array.getElem?_eq_some_iff.1 h).1, getElem?_push_of_some h _⟩

/-- **A schema gets its type**: the type is reserved, its kind is made, and is settled. -/
theorem adds_settled (hs : Ready g (levels + 1) s) {schema : SchemaId} {kind : TypeKind}
    (hnone : s.typeOf.lookup schema = none) (hst : Adds g (s.reserving g schema) t)
    (hkind : Fulfils g t schema kind) : Adds g s (t.settling s.nodes.size kind) := by
  have hnew : t.nodes[s.nodes.size]? = some (reservedNode (g.node schema)) :=
    hst.nodes _ _ Array.getElem?_push_size
  have hsettled := Growth.getElem?_settling_self hnew kind
  have hassigned : ∀ {other type}, s.Assigns other type → t.Assigns other type := by
    intro other type h
    refine hst.assigned other type (Growth.assigns_reserving.2 ?_)
    rw [if_neg]
    · exact h
    · rintro rfl
      rw [Growth.Assigns, hnone] at h
      cases h
  have hself : t.Has schema :=
    Growth.has_iff.2 ⟨_, hst.assigned _ _ Growth.assigns_self⟩
  refine ⟨fun id node h => ?_, fun _ _ => hassigned, ?_, ?_, ?_⟩
  · obtain ⟨hne, hreserved⟩ := Growth.getElem?_reserving (g := g) h schema
    exact (t.getElem?_settling kind hne).trans (hst.nodes id node hreserved)
  · intro other type htype
    rcases hst.fulfilled other type htype with hreserved | ⟨hle, node, hnode, hnodeKind⟩
    · rw [Growth.assigns_reserving] at hreserved
      split at hreserved
      · next heq =>
        subst heq hreserved
        exact Or.inr ⟨Nat.le_refl _, _, hsettled, hkind.settling hnew kind⟩
      · exact Or.inl hreserved
    · rw [Growth.reserving, Array.size_push] at hle
      refine Or.inr ⟨Nat.le_of_succ_le hle, node, ?_, hnodeKind.settling hnew kind⟩
      exact (t.getElem?_settling kind (Nat.ne_of_gt hle)).trans hnode
  · intro first second type hfirst hsecond
    rcases hst.distinct first second type hfirst hsecond with heq | ⟨hfirst, hsecond⟩
    · exact Or.inl heq
    · -- only the new schema has the reserved type
      have hnot : ∀ {other}, ¬ s.Assigns other s.nodes.size := fun h =>
        Nat.lt_irrefl _ (hs.inRange _ _ h)
      rw [Growth.assigns_reserving] at hfirst hsecond
      split at hfirst <;> split at hsecond
      · next h h' => exact Or.inl (h.trans h'.symm)
      · exact absurd (hfirst ▸ hsecond) hnot
      · exact absurd (hsecond ▸ hfirst) hnot
      · exact Or.inr ⟨hfirst, hsecond⟩
  · intro id node hnode
    by_cases hid : id = s.nodes.size
    · subst hid
      obtain rfl := Option.some.inj (hsettled.symm.trans hnode)
      refine Or.inr ⟨fun name hname => ⟨schema, hname⟩, fun hbases => ?_, fun text htext => ?_⟩
      · have hinherits := hkind.bases hbases
        exact ⟨schema, hinherits.1, hself, hkind.inherits hinherits⟩
      · exact (hkind.custom text htext).imp_right fun hcustom => ⟨schema, hself, hcustom⟩
    · rw [t.getElem?_settling kind hid] at hnode
      refine (hst.justified id node hnode).imp (fun hreserved => ?_) (·.of_typeOf)
      rw [Growth.reserving, Array.getElem?_push, if_neg hid] at hreserved
      exact hreserved

/-- **Every schema of the graph gets a type**: the levels do not run out. -/
theorem assigns_ofNode {g : SchemaGraph} (o : Options)
    (hg : ∀ id, ∀ part ∈ g.children id, part < g.size) (levels : Nat) :
    Visit.Assigns (ofNode g o levels) g levels := by
  refine fun schema hschema s hs => ofNode_rule
    (P := fun levels schema s => schema < g.size ∧ Ready g levels s)
    (Q := fun levels schema s type t =>
      Ready g levels t ∧ Adds g s t ∧ t.Assigns schema type)
    ?found ?out ?new levels schema s ⟨hschema, hs⟩
  case found => exact fun ⟨_, hs⟩ htype => ⟨hs, .refl _, htype⟩
  case out => exact fun ⟨hschema, hs⟩ hnone => absurd hs (not_ready_zero hschema hnone)
  case new =>
    intro levels schema s ih ⟨hschema, hs⟩ hnone
    obtain ⟨-, hst, hkind⟩ := adding_kindOf (fun schema hschema s hs => ih schema s ⟨hschema, hs⟩)
      (hs.reserving hschema hnone) o (hg schema) (Growth.has_iff.2 ⟨_, Growth.assigns_self⟩)
    have hadds := adds_settled hs hnone hst hkind
    exact ⟨hadds.ready hs, hadds, hst.assigned _ _ Growth.assigns_self⟩

/-! ### The types of a graph -/

/-- What is made of a graph, from nothing. -/
theorem adds_made {g : SchemaGraph} (o : Options) (hroot : g.root < g.size)
    (hg : ∀ id, ∀ part ∈ g.children id, part < g.size) :
    Adds g {} (made g o) ∧ (made g o).Assigns g.root (ofSchema g o).root := by
  have hready : Ready g g.size {} :=
    ⟨fun _ _ h => (nomatch h), Nat.le_trans (List.length_filter_le ..) (by simp [SchemaGraph.ids])⟩
  exact (assigns_ofNode o hg g.size g.root hroot {} hready).2

end TypeGraph
end SchemaTypings
