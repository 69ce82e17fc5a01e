import SchemaTypings.Compile
import SchemaTypings.Proofs.Growth

/-! # Which classes lose their bases

The bases of a class are written in the head of its declaration alone, so a class with bases needs a
name.  Whether a schema becomes a class with bases is decided by the name of the schema; but when
the schema also lists alternatives, its class is only one member of an intersection, and has no
name.  `bases_named_iff` says that this is the only way to lose bases.

Making types is a sequence of steps, and what they do in this respect is a relation of the states
before and after: `Accounts`.
-/
namespace SchemaTypings

/-- Whether a kind is a class with bases. -/
def TypeKind.inherits : TypeKind → Bool
  | .record _ bases => !bases.isEmpty
  | _ => false

namespace TypeGraph

/-- The state when the types of a graph are made. -/
def made (g : SchemaGraph) (o : Options) : Growth := ((ofNode g o g.size g.root).run {}).2

/-- A type was made of a schema. -/
def HasType (g : SchemaGraph) (o : Options) (schema : SchemaId) : Prop :=
  schema ∈ (made g o).typeOf.map Prod.fst

instance (g : SchemaGraph) (o : Options) (schema : SchemaId) : Decidable (HasType g o schema) :=
  inferInstanceAs (Decidable (schema ∈ _))

/-- **The bases of a schema are one facet of several**: it becomes a class with bases, and lists
alternatives beside them. -/
def SplitsBases (g : SchemaGraph) (schema : SchemaId) : Prop :=
  hasBases g schema = true ∧ (g.node schema).boolean = none ∧
    (g.node schema).customType? = none ∧
    ((g.node schema).anyOf ≠ [] ∨ (g.node schema).oneOf ≠ [])

instance (g : SchemaGraph) (schema : SchemaId) : Decidable (SplitsBases g schema) :=
  inferInstanceAs (Decidable (_ ∧ _ ∧ _ ∧ _))

/-- A class that has bases and no name. -/
def TypeNode.LosesBases (node : TypeNode) : Prop := node.kind.inherits = true ∧ node.name = none

/-! ### What steps account for -/

namespace Growth

/-- A state has a class that loses its bases. -/
def LosesBases (s : Growth) : Prop :=
  ∃ (id : TypeId) (node : TypeNode), s.nodes[id]? = some node ∧ TypeNode.LosesBases node

/-- A schema has a type. -/
def Has (s : Growth) (schema : SchemaId) : Prop := schema ∈ s.typeOf.map Prod.fst

end Growth

/-- **A step accounts for lost bases**: it keeps the nodes and the schemas that are there; every
schema that it adds and whose bases are split loses them; and they are lost for no other reason. -/
structure Accounts (g : SchemaGraph) (s t : Growth) : Prop where
  nodes : ∀ (id : TypeId) (node : TypeNode), s.nodes[id]? = some node → t.nodes[id]? = some node
  kept : ∀ schema, s.Has schema → t.Has schema
  lost : ∀ schema, t.Has schema → SplitsBases g schema → s.Has schema ∨ t.LosesBases
  reason : t.LosesBases → s.LosesBases ∨ ∃ schema, t.Has schema ∧ SplitsBases g schema

variable {g : SchemaGraph} {s t u : Growth}

theorem Growth.LosesBases.mono
    (hnodes : ∀ (id : TypeId) (node : TypeNode), s.nodes[id]? = some node →
      t.nodes[id]? = some node) (h : s.LosesBases) : t.LosesBases := by
  obtain ⟨id, node, hnode, hloses⟩ := h
  exact ⟨id, node, hnodes id node hnode, hloses⟩

namespace Accounts

theorem refl (s : Growth) : Accounts g s s where
  nodes := fun _ _ h => h
  kept := fun _ h => h
  lost := fun _ h _ => Or.inl h
  reason := Or.inl

theorem trans (hst : Accounts g s t) (htu : Accounts g t u) : Accounts g s u where
  nodes := fun id node h => htu.nodes id node (hst.nodes id node h)
  kept := fun schema h => htu.kept schema (hst.kept schema h)
  lost := by
    intro schema hhas hsplits
    rcases htu.lost schema hhas hsplits with hearlier | hloses
    · exact (hst.lost schema hearlier hsplits).imp_right (·.mono htu.nodes)
    · exact Or.inr hloses
  reason := by
    intro hloses
    rcases htu.reason hloses with hearlier | hlater
    · refine (hst.reason hearlier).imp_right fun ⟨schema, hhas, hsplits⟩ => ?_
      exact ⟨schema, htu.kept schema hhas, hsplits⟩
    · exact Or.inr hlater

end Accounts

/-- A computation whose steps account for lost bases, and which brings a value with `P`. -/
def Accounted (g : SchemaGraph) {α : Type} (x : Growing α) (P : α → Prop) : Prop :=
  ∀ s, After x s fun a t => Accounts g s t ∧ P a

namespace Accounted

variable {α β : Type}

theorem pure {a : α} {P : α → Prop} (h : P a) : Accounted g (Pure.pure a) P :=
  fun s => ⟨.refl s, h⟩

theorem bind {x : Growing α} {f : α → Growing β} {P : α → Prop} {Q : β → Prop}
    (hx : Accounted g x P) (hf : ∀ a, P a → Accounted g (f a) Q) : Accounted g (x >>= f) Q := by
  intro s
  obtain ⟨hst, hp⟩ := hx s
  obtain ⟨htu, hq⟩ := hf _ hp _
  exact ⟨hst.trans htu, hq⟩

theorem map {x : Growing α} {f : α → β} {P : α → Prop} {Q : β → Prop} (hx : Accounted g x P)
    (hf : ∀ a, P a → Q (f a)) : Accounted g (f <$> x) Q :=
  fun s => ⟨(hx s).1, hf _ (hx s).2⟩

theorem mono {x : Growing α} {P Q : α → Prop} (hx : Accounted g x P) (h : ∀ a, P a → Q a) :
    Accounted g x Q :=
  fun s => ⟨(hx s).1, h _ (hx s).2⟩

theorem mapM {f : α → Growing β} {P : β → Prop} {as : List α}
    (hf : ∀ a ∈ as, Accounted g (f a) P) :
    Accounted g (as.mapM f) fun bs => bs.length = as.length ∧ ∀ b ∈ bs, P b := by
  induction as with
  | nil => exact pure ⟨rfl, fun b hb => nomatch hb⟩
  | cons a rest ih =>
    rw [List.mapM_cons]
    refine (hf a List.mem_cons_self).bind fun b hb => ?_
    refine (ih fun a ha => hf a (List.mem_cons_of_mem _ ha)).bind fun bs hbs => ?_
    refine pure ⟨by rw [List.length_cons, List.length_cons, hbs.1], fun c hc => ?_⟩
    rcases List.mem_cons.1 hc with rfl | hc
    · exact hb
    · exact hbs.2 c hc

end Accounted

/-! ### Adding nodes -/

/-- A node that loses its bases may be added when a schema with split bases is there. -/
theorem accounts_push (s : Growth) {node : TypeNode}
    (h : TypeNode.LosesBases node → ∃ schema, s.Has schema ∧ SplitsBases g schema) :
    Accounts g s { s with nodes := s.nodes.push node } where
  nodes := fun _ _ hid => getElem?_push_of_some hid _
  kept := fun _ h => h
  lost := fun _ h _ => Or.inl h
  reason := by
    rintro ⟨id, other, hid, hloses⟩
    rw [Array.getElem?_push] at hid
    split at hid
    · cases hid
      exact Or.inr (h hloses)
    · exact Or.inl ⟨id, other, hid, hloses⟩

theorem not_losesBases {node : TypeNode} (h : node.kind.inherits = false) :
    ¬ TypeNode.LosesBases node := by
  rintro ⟨hinherits, -⟩
  rw [h] at hinherits
  cases hinherits

theorem accounted_addUnnamed {kind : TypeKind} (h : kind.inherits = false) :
    Accounted g (addUnnamed kind) fun _ => True :=
  fun s => ⟨accounts_push s fun hloses => absurd hloses (not_losesBases h), trivial⟩

theorem inherits_placeholderKind (o : Options) : (placeholderKind o).inherits = false := by
  unfold placeholderKind
  split <;> rfl

theorem accounted_placeholderType (o : Options) :
    Accounted g (placeholderType o) fun _ => True := by
  intro s
  rw [placeholderType]
  refine after_bind.2 (after_get.2 ?_)
  split
  · exact ⟨.refl s, trivial⟩
  · obtain ⟨hpush, -⟩ := accounted_addUnnamed (g := g) (inherits_placeholderKind o) s
    refine ⟨⟨hpush.nodes, hpush.kept, hpush.lost, hpush.reason⟩, trivial⟩

/-! ### Kinds of schemas -/

theorem accounted_listIf {α : Type} {x : Growing (List α)} {P : List α → Prop} {asked : Bool}
    (hx : Accounted g x fun list => asked = true → P list) (hnil : asked = false → P []) :
    Accounted g (listIf asked x) P := by
  unfold listIf
  cases asked with
  | true => exact hx.mono fun list h => h rfl
  | false => exact .pure (hnil rfl)

theorem accounted_enumKind (n : SchemaNode) :
    Accounted g (enumKind n) fun kind => kind.inherits = false := by
  simp only [enumKind]
  generalize (if n.standaloneName.isSome then _ else _ : Option (List EnumEntry)) = entries
  split
  · exact .pure rfl
  · exact .pure rfl
  · refine (Accounted.mapM (P := fun _ => True) fun value _ => ?_).bind fun _ _ => .pure rfl
    exact accounted_addUnnamed rfl

section Visiting

/-- A visit accounts for lost bases. -/
def Visit.Accounts (visit : Visit) (g : SchemaGraph) : Prop :=
  ∀ schema, Accounted g (visit schema) fun _ => True

variable {visit : Visit} (hvisit : visit.Accounts g)

include hvisit

theorem accounted_membersOf (make : String → SchemaId → TypeId → Member)
    (entries : Dict SchemaId) : Accounted g (membersOf visit make entries) fun _ => True := by
  refine (Accounted.mapM (P := fun _ => True) fun entry _ => ?_).mono fun _ _ => trivial
  exact (hvisit entry.2).bind fun _ _ => .pure trivial

theorem accounted_additionalType (o : Options) (rest : Option Additional) :
    Accounted g (additionalType visit o rest) fun _ => True := by
  unfold additionalType
  split
  · exact (accounted_placeholderType o).map fun _ h => h
  · exact (hvisit _).map fun _ h => h
  · exact .pure trivial

/-- A class inherits when it is given bases. -/
theorem accounted_recordKind (o : Options) (n : SchemaNode) (bases : List TypeId) :
    Accounted g (recordKind visit g o n bases) fun kind => kind.inherits = !bases.isEmpty := by
  unfold recordKind
  refine (accounted_membersOf hvisit _ _).bind fun properties _ => ?_
  refine (accounted_membersOf hvisit _ _).bind fun patterns _ => ?_
  refine (accounted_additionalType hvisit o _).bind fun additional _ => ?_
  refine (accounted_listIf (P := fun _ => True) ?_ fun _ => trivial).bind
    fun unreachable _ => .pure rfl
  exact (accounted_membersOf hvisit _ _).mono fun _ h _ => h

theorem accounted_objectKind (o : Options) (n : SchemaNode) :
    Accounted g (objectKind visit g o n) fun kind => kind.inherits = false := by
  unfold objectKind
  split
  · exact accounted_recordKind hvisit o n []
  · exact .pure rfl

theorem accounted_mapM_visit (schemas : List SchemaId) :
    Accounted g (schemas.mapM visit) fun types => types.length = schemas.length :=
  (Accounted.mapM (P := fun _ => True) fun schema _ => hvisit schema).mono fun _ h => h.1

theorem accounted_arrayKind (o : Options) (n : SchemaNode) :
    Accounted g (arrayKind visit o n) fun kind => kind.inherits = false := by
  simp only [arrayKind]
  split
  · refine (accounted_mapM_visit hvisit _).bind fun elements _ => ?_
    refine (accounted_additionalType hvisit o _).bind fun spread _ => ?_
    split <;> exact .pure rfl
  · exact (hvisit _).bind fun element _ => .pure rfl
  · refine (accounted_placeholderType o).bind fun any _ => ?_
    split <;> exact .pure rfl

theorem accounted_namedKind (o : Options) (n : SchemaNode) (name : String) :
    Accounted g (namedKind visit g o n name) fun kind => kind.inherits = false := by
  unfold namedKind
  split
  · exact .pure rfl
  · exact .pure rfl
  · exact .pure rfl
  · exact .pure rfl
  · exact .pure rfl
  · exact accounted_objectKind hvisit o n
  · exact accounted_arrayKind hvisit o n
  · exact .pure (inherits_placeholderKind o)

/-- What a schema says by itself inherits exactly when it is given bases and is no enumeration. -/
theorem accounted_ownFacet (o : Options) (n : SchemaNode) (bases : List TypeId) :
    Accounted g (ownFacet visit g o n bases) fun own =>
      (bases ≠ [] → n.isEnumShaped = false → ∃ kind, own = some kind ∧ kind.inherits = true) ∧
        (bases = [] → ∀ kind ∈ own, kind.inherits = false) := by
  unfold ownFacet
  split
  · next henum =>
    refine (accounted_enumKind n).map fun kind hkind => ⟨fun _ hno => ?_, fun _ other hother => ?_⟩
    · rw [henum] at hno
      cases hno
    · cases hother
      exact hkind
  · split
    · next hbases =>
      refine (accounted_recordKind hvisit o n bases).map fun kind hkind =>
        ⟨fun _ _ => ⟨kind, rfl, hkind.trans hbases⟩, fun hnil => ?_⟩
      rw [hnil] at hbases
      cases hbases
    · next hbases =>
      have hnil : bases = [] := by simpa using hbases
      refine Accounted.mono (P := fun own => ∀ kind ∈ own, kind.inherits = false) ?_
        fun own hown => ⟨fun hne => absurd hnil hne, fun _ => hown⟩
      have hsome : ∀ kind : TypeKind, kind.inherits = false →
          ∀ other ∈ some kind, other.inherits = false := by
        intro kind hkind other hother
        cases hother
        exact hkind
      split
      · split
        · exact (accounted_objectKind hvisit o n).map hsome
        · split
          · exact (accounted_arrayKind hvisit o n).map hsome
          · exact .pure fun _ h => absurd h (Option.not_mem_none _)
      · exact (accounted_namedKind hvisit o n _).map hsome
      · refine (Accounted.mapM (P := fun _ => True) fun name _ => ?_).bind
          fun members _ => .pure (hsome _ rfl)
        exact (accounted_namedKind hvisit o n name).bind fun kind hkind =>
          accounted_addUnnamed hkind

/-- A list of schemas is one statement, unless it is empty, and inherits nothing. -/
theorem accounted_groupFacet {make : List TypeId → TypeKind}
    (hmake : ∀ ids, (make ids).inherits = false) (schemas : List SchemaId) :
    Accounted g (groupFacet visit make schemas) fun kinds =>
      (kinds = [] ↔ schemas = []) ∧ ∀ kind ∈ kinds, kind.inherits = false := by
  unfold groupFacet
  split
  · next hempty => exact .pure ⟨by simpa using hempty, fun _ h => nomatch h⟩
  · next hfull =>
    refine (accounted_mapM_visit hvisit schemas).bind fun members _ => .pure ⟨?_, ?_⟩
    · simpa using hfull
    · intro kind hkind
      rw [List.mem_singleton.1 hkind]
      exact hmake members

/-- The statements of a schema.  With bases the first one is a class that inherits, and the others
are its alternatives; without bases none inherits. -/
theorem accounted_facets (o : Options) (id : SchemaId) :
    Accounted g (facets visit g o id) fun kinds =>
      (hasBases g id = true → ∃ kind rest, kinds = kind :: rest ∧ kind.inherits = true ∧
        (rest = [] ↔ (g.node id).anyOf = [] ∧ (g.node id).oneOf = []) ∧
        ∀ other ∈ rest, other.inherits = false) ∧
      (hasBases g id = false → ∀ kind ∈ kinds, kind.inherits = false) := by
  simp only [facets]
  refine (accounted_listIf (P := fun bases => bases = [] ↔ hasBases g id = false) ?_ ?_).bind
    fun bases hbases => ?_
  · refine (accounted_mapM_visit hvisit _).mono fun bases hlength hhas => ?_
    rw [hhas, ← List.length_eq_zero_iff, hlength, List.length_eq_zero_iff]
    exact ⟨fun h => absurd h (baseCandidates_ne_nil hhas), fun h => Bool.noConfusion h⟩
  · exact fun hno => ⟨fun _ => hno, fun _ => rfl⟩
  refine (accounted_ownFacet hvisit o _ bases).bind fun own hown => ?_
  have hgroup : ∀ schemas, Accounted g
      (listIf bases.isEmpty (groupFacet visit .intersection schemas)) fun kinds =>
        (bases ≠ [] → kinds = []) ∧ ∀ kind ∈ kinds, kind.inherits = false := by
    intro schemas
    refine accounted_listIf ?_ fun _ => ⟨fun _ => rfl, fun _ h => absurd h List.not_mem_nil⟩
    exact (accounted_groupFacet hvisit (fun _ => rfl) schemas).mono fun kinds hkinds hnil =>
      ⟨fun hne => absurd (List.isEmpty_iff.1 hnil) hne, hkinds.2⟩
  refine (hgroup _).bind fun all hall => ?_
  refine (hgroup _).bind fun extended hextended => ?_
  refine (accounted_groupFacet hvisit (fun _ => rfl) _).bind fun any hany => ?_
  refine (accounted_groupFacet hvisit (fun _ => rfl) _).bind fun one hone => .pure ⟨?_, ?_⟩
  · intro hhas
    have hne : bases ≠ [] := by
      intro hnil
      rw [hbases.1 hnil] at hhas
      cases hhas
    obtain ⟨kind, rfl, hkind⟩ := hown.1 hne (not_isEnumShaped_of_hasBases hhas)
    refine ⟨kind, any ++ one, ?_, hkind, ?_, ?_⟩
    · rw [hall.1 hne, hextended.1 hne]
      simp
    · rw [List.append_eq_nil_iff, hany.1, hone.1]
    · intro other hother
      rcases List.mem_append.1 hother with h | h
      · exact hany.2 other h
      · exact hone.2 other h
  · intro hno kind hkind
    simp only [List.mem_append, Option.mem_toList] at hkind
    rcases hkind with (((h | h) | h) | h) | h
    · exact hown.2 (hbases.2 hno) kind h
    · exact hall.2 kind h
    · exact hextended.2 kind h
    · exact hany.2 kind h
    · exact hone.2 kind h

omit hvisit in
/-- Where bases are split, the class that has them is added first, without a name, and then the
alternatives. -/
theorem after_addUnnamed_split {id : SchemaId} {kind : TypeKind} {others : List TypeKind}
    (hid : t.Has id) (hsplits : SplitsBases g id) (hinherits : kind.inherits = true)
    (hothers : ∀ other ∈ others, other.inherits = false) :
    After ((kind :: others).mapM addUnnamed) t fun _ u => Accounts g t u ∧ u.LosesBases := by
  let added : Growth := { t with nodes := t.nodes.push { kind } }
  have hclass : Accounts g t added := accounts_push t fun _ => ⟨id, hid, hsplits⟩
  have hlost : added.LosesBases :=
    ⟨t.nodes.size, { kind }, Array.getElem?_push_size, hinherits, rfl⟩
  obtain ⟨hrest, -⟩ := Accounted.mapM (g := g) (P := fun _ => True)
    (fun other hother => accounted_addUnnamed (hothers other hother)) added
  rw [List.mapM_cons, after_bind]
  exact ⟨hclass.trans hrest, hlost.mono hrest.nodes⟩

/-- The kind of a schema that is being made.  When its bases are split, the class that has them is
added without a name; otherwise a kind with bases is that of a named schema. -/
theorem after_kindOf (o : Options) {id : SchemaId} {s : Growth} (hid : s.Has id) :
    After (kindOf visit g o id) s fun kind t => Accounts g s t ∧
      (SplitsBases g id → t.LosesBases) ∧
      (kind.inherits = true → (g.node id).standaloneName.isSome) := by
  -- a kind that does not inherit, of a schema whose bases are not split
  have hplain : ∀ {kind : TypeKind} {t : Growth}, Accounts g s t → kind.inherits = false →
      ¬ SplitsBases g id → Accounts g s t ∧ (SplitsBases g id → t.LosesBases) ∧
        (kind.inherits = true → (g.node id).standaloneName.isSome) := by
    intro kind t hst hkind hwhole
    refine ⟨hst, fun hsplits => absurd hsplits hwhole, fun hinherits => ?_⟩
    rw [hkind] at hinherits
    cases hinherits
  simp only [kindOf]
  split
  · next hboolean =>
    refine hplain (.refl s) (inherits_placeholderKind o) fun hsplits => ?_
    rw [hsplits.2.1] at hboolean
    cases hboolean
  · next hboolean =>
    refine hplain (.refl s) rfl fun hsplits => ?_
    rw [hsplits.2.1] at hboolean
    cases hboolean
  · next hcustom =>
    refine hplain (.refl s) rfl fun hsplits => ?_
    rw [hsplits.2.2.1] at hcustom
    cases hcustom
  · next hboolean hcustom =>
    refine after_bind.2 ((accounted_facets hvisit o id s).mono ?_)
    rintro kinds t ⟨hst, hbases, hnone⟩
    cases hhas : hasBases g id with
    | false =>
      have hwhole : ¬ SplitsBases g id := fun hsplits => by
        rw [hsplits.1] at hhas
        cases hhas
      have hkinds := hnone hhas
      split
      · exact hplain hst (inherits_placeholderKind o) hwhole
      · exact hplain hst (hkinds _ (List.mem_singleton_self _)) hwhole
      · refine after_bind.2 ?_
        obtain ⟨htu, -⟩ := Accounted.mapM (g := g) (P := fun _ => True)
          (fun kind hkind => accounted_addUnnamed (hkinds kind hkind)) t
        exact hplain (hst.trans htu) rfl hwhole
    | true =>
      obtain ⟨kind, rest, rfl, hinherits, hrest, hothers⟩ := hbases hhas
      have hnamed : (g.node id).standaloneName.isSome := by
        rw [hasBases] at hhas
        simp only [Bool.and_eq_true] at hhas
        exact hhas.1.1.1.1
      cases rest with
      | nil =>
        have hwhole : ¬ SplitsBases g id := by
          rintro ⟨-, -, -, hany | hone⟩
          · exact hany (hrest.1 rfl).1
          · exact hone (hrest.1 rfl).2
        exact ⟨hst, fun hsplits => absurd hsplits hwhole, fun _ => hnamed⟩
      | cons other others =>
        have hsplits : SplitsBases g id := by
          refine ⟨hhas, hboolean, hcustom, ?_⟩
          by_contra hnot
          rw [not_or, not_ne_iff, not_ne_iff] at hnot
          cases hrest.2 hnot
        change After ((kind :: other :: others).mapM addUnnamed >>= fun members =>
          pure (TypeKind.intersection members)) t fun kind t => Accounts g s t ∧
            (SplitsBases g id → t.LosesBases) ∧
            (kind.inherits = true → (g.node id).standaloneName.isSome = true)
        refine after_bind.2
          ((after_addUnnamed_split (hst.kept id hid) hsplits hinherits hothers).mono ?_)
        rintro members u ⟨htu, hloses⟩
        exact ⟨hst.trans htu, fun _ => hloses, fun h => Bool.noConfusion h⟩

end Visiting

/-! ### Types of schemas -/

theorem Growth.has_reserving {id schema : SchemaId} :
    (s.reserving g id).Has schema ↔ schema = id ∨ s.Has schema := by
  rw [Growth.Has, Growth.reserving, List.map_cons, List.mem_cons]
  rfl

/-- A reserved type has no bases, and it loses none when it is settled, if its schema is named
wherever its kind has bases. -/
theorem losesBases_settling {type : TypeId} {node : TypeNode} {kind : TypeKind}
    (htype : t.nodes[type]? = some node) (hreserved : node.kind.inherits = false)
    (hnamed : kind.inherits = true → node.name.isSome) :
    (t.settling type kind).LosesBases ↔ t.LosesBases := by
  constructor
  · rintro ⟨other, found, hfound, hloses⟩
    by_cases hother : other = type
    · exfalso
      rw [hother, Growth.getElem?_settling_self htype] at hfound
      cases hfound
      have hsome := hnamed hloses.1
      rw [show node.name = none from hloses.2] at hsome
      cases hsome
    · exact ⟨other, found, (t.getElem?_settling kind hother).symm.trans hfound, hloses⟩
  · rintro ⟨other, found, hfound, hloses⟩
    refine ⟨other, found, (t.getElem?_settling kind ?_).trans hfound, hloses⟩
    rintro rfl
    rw [htype] at hfound
    cases hfound
    exact not_losesBases hreserved hloses

/-- **Making the type of a schema accounts for lost bases.** -/
theorem accounts_ofNode (g : SchemaGraph) (o : Options) (levels : Nat) :
    Visit.Accounts (ofNode g o levels) g := by
  refine fun schema s => ofNode_rule (P := fun _ _ _ => True)
    (Q := fun _ _ s _ t => Accounts g s t ∧ True) ?found ?out ?new levels schema s trivial
  case found | out => exact fun _ _ => ⟨.refl _, trivial⟩
  case new =>
    intro levels schema s ih _ _
    have hpush : Accounts g s { s with nodes := s.nodes.push (reservedNode (g.node schema)) } :=
      accounts_push s fun hloses => absurd hloses (not_losesBases rfl)
    have hhas : (s.reserving g schema).Has schema := Growth.has_reserving.2 (Or.inl rfl)
    refine (after_kindOf (fun schema s => ih schema s trivial) o hhas).mono ?_
    rintro kind t ⟨hst, hsplit, hnamed⟩
    have htype : t.nodes[s.nodes.size]? = some (reservedNode (g.node schema)) :=
      hst.nodes _ _ Array.getElem?_push_size
    have hlost := losesBases_settling htype rfl hnamed
    refine ⟨⟨?_, ?_, ?_, ?_⟩, trivial⟩
    · intro other node hnode
      have hlt := (Array.getElem?_eq_some_iff.1 hnode).1
      rw [← hst.nodes other node (hpush.nodes other node hnode)]
      exact t.getElem?_settling kind (Nat.ne_of_lt hlt)
    · exact fun other hother => hst.kept other (Growth.has_reserving.2 (Or.inr hother))
    · intro other hother hsplits
      rcases hst.lost other hother hsplits with hreserved | hloses
      · rcases Growth.has_reserving.1 hreserved with rfl | hearlier
        · exact Or.inr (hlost.2 (hsplit hsplits))
        · exact Or.inl hearlier
      · exact Or.inr (hlost.2 hloses)
    · intro hloses
      rcases hst.reason (hlost.1 hloses) with hreserved | hsplits
      · refine (hpush.reason hreserved).imp_right fun ⟨other, hother, hsplits⟩ => ?_
        exact ⟨other, hst.kept other (Growth.has_reserving.2 (Or.inr hother)), hsplits⟩
      · exact Or.inr hsplits

/-- **Which graphs keep all bases.**  Every class with bases is named exactly when no schema that
gets a type has its bases split by alternatives. -/
theorem bases_named_iff (g : SchemaGraph) (o : Options) :
    (∀ id members bases, (ofSchema g o).kind id = .record members bases → bases ≠ [] →
        ((ofSchema g o).name? id).isSome) ↔
      ∀ schema, HasType g o schema → ¬ SplitsBases g schema := by
  obtain ⟨hall, -⟩ := accounts_ofNode g o g.size g.root {}
  change Accounts g {} (made g o) at hall
  have hnodes : (ofSchema g o).nodes = (made g o).nodes := rfl
  have hlost : (made g o).LosesBases ↔
      ∃ schema, HasType g o schema ∧ SplitsBases g schema := by
    constructor
    · intro hloses
      rcases hall.reason hloses with ⟨id, node, hnode, -⟩ | hsplits
      · cases hnode
      · exact hsplits
    · rintro ⟨schema, hschema, hsplits⟩
      exact (hall.lost schema hschema hsplits).resolve_left fun h => nomatch h
  have hunnamed : (made g o).LosesBases ↔ ∃ id members bases,
      (ofSchema g o).kind id = .record members bases ∧ bases ≠ [] ∧
        (ofSchema g o).name? id = none := by
    constructor
    · rintro ⟨id, node, hnode, hinherits, hname⟩
      have hat : (ofSchema g o).node id = node := by
        rw [TypeGraph.node, hnodes, hnode, Option.getD_some]
      cases hkind : node.kind with
      | record members bases =>
        refine ⟨id, members, bases, by rw [TypeGraph.kind, hat, hkind], ?_, ?_⟩
        · rintro rfl
          rw [hkind] at hinherits
          cases hinherits
        · rw [name?, hat, hname]
      | _ =>
        rw [hkind] at hinherits
        cases hinherits
    · rintro ⟨id, members, bases, hkind, hbases, hname⟩
      cases hnode : (made g o).nodes[id]? with
      | none =>
        rw [TypeGraph.kind, TypeGraph.node, hnodes, hnode] at hkind
        cases hkind
      | some node =>
        have hat : (ofSchema g o).node id = node := by
          rw [TypeGraph.node, hnodes, hnode, Option.getD_some]
        rw [TypeGraph.kind, hat] at hkind
        rw [name?, hat] at hname
        refine ⟨id, node, hnode, ?_, hname⟩
        rw [hkind]
        simpa [TypeKind.inherits] using hbases
  constructor
  · intro hnamed schema hschema hsplits
    obtain ⟨id, members, bases, hkind, hbases, hname⟩ :=
      hunnamed.1 (hlost.2 ⟨schema, hschema, hsplits⟩)
    have hsome := hnamed id members bases hkind hbases
    rw [hname] at hsome
    cases hsome
  · intro hwhole id members bases hkind hbases
    by_contra hno
    obtain ⟨schema, hschema, hsplits⟩ := hlost.1 (hunnamed.2
      ⟨id, members, bases, hkind, hbases, by simpa using hno⟩)
    exact hwhole schema hschema hsplits

end TypeGraph

/-- A class that extends another one by `allOf`, and has two alternatives. -/
def barkingDog : Json :=
  .object [("title", .string "Dog"),
    ("allOf", .array [.object [("$ref", .string "#/definitions/Animal")]]),
    ("oneOf", .array [
      .object [("properties", .object [("bark", .object [("type", .string "string")])])],
      .object [("properties", .object [("growl", .object [("type", .string "string")])])]]),
    ("definitions", .object [("Animal", .object [("properties", .object [
      ("age", .object [("type", .string "number")])])])])]

/-- **A base that is lost**: `Animal` is a base of a class without a name, so that the text does not
say that a dog is an animal. -/
theorem compile_barkingDog_loses_base :
    compile barkingDog "Root" {} .none = .ok ("export type Dog = (\x7b\x7d & (\x7b bark?: string \x7d" ++
        " | \x7b growl?: string \x7d));\n\nexport class Animal \x7b\n  age?: number;\n\x7d\n") ∧
      ∃ g, linkedGraph barkingDog {} .none = .ok g ∧ g.violations "Root" = [] ∧
        ∃ id members bases,
          (TypeGraph.ofSchema (g.normalize "Root" {}) {}).kind id = .record members bases ∧
          bases ≠ [] ∧ (TypeGraph.ofSchema (g.normalize "Root" {}) {}).name? id = none := by
  have hcompile : (compile barkingDog "Root" {} .none).toOption.any (fun text => text =
      "export type Dog = (\x7b\x7d & (\x7b bark?: string \x7d" ++
        " | \x7b growl?: string \x7d));\n\nexport class Animal \x7b\n  age?: number;\n\x7d\n")
      = true := by decide +kernel
  have hrun : (linkedGraph barkingDog {} .none).toOption.any (fun g =>
      (g.violations "Root").isEmpty &&
        (List.range (TypeGraph.ofSchema (g.normalize "Root" {}) {}).size).any fun id =>
          ((TypeGraph.ofSchema (g.normalize "Root" {}) {}).kind id).inherits &&
            ((TypeGraph.ofSchema (g.normalize "Root" {}) {}).name? id).isNone) = true := by
    decide +kernel
  obtain ⟨text, htext, heq⟩ := exists_ok_of_any hcompile
  obtain ⟨g, hg, hchecks⟩ := exists_ok_of_any hrun
  obtain ⟨hviolations, hlost⟩ := Bool.and_eq_true_iff.1 hchecks
  obtain ⟨id, -, hid⟩ := List.any_eq_true.1 hlost
  obtain ⟨hinherits, hname⟩ := Bool.and_eq_true_iff.1 hid
  refine ⟨of_decide_eq_true heq ▸ htext, g, hg, List.isEmpty_iff.1 hviolations, id, ?_⟩
  cases hkind : (TypeGraph.ofSchema (g.normalize "Root" {}) {}).kind id with
  | record members bases =>
    refine ⟨members, bases, rfl, ?_, Option.isNone_iff_eq_none.1 hname⟩
    rintro rfl
    rw [hkind] at hinherits
    cases hinherits
  | _ =>
    rw [hkind] at hinherits
    cases hinherits

end SchemaTypings
