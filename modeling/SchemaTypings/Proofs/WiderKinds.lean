import SchemaTypings.Proofs.ItemlessGraphs
import SchemaTypings.Proofs.SchemaKinds
import SchemaTypings.Proofs.Widening

/-! # Wider kinds of the same schemas

Types are made twice, of graphs that say the same apart from items.  Where the second kinds of
arrays admit more than the first, so do the second kinds of all schemas: kinds have types of the same
schemas as parts, the placeholders, or unnamed types whose kinds widen in turn.
-/
namespace SchemaTypings

/-- What schemas say apart from items is the same where all of that is the same. -/
theorem SchemaNode.eq_of_withoutItems {α : Type} {n m : SchemaNode}
    (h : m.withoutItems = n.withoutItems) {f : SchemaNode → α}
    (hf : ∀ n : SchemaNode, f n.withoutItems = f n) : f m = f n := by
  rw [← hf m, h, hf n]

/-- Lists that are related to the same list one by one. -/
theorem forall₂_join {α β γ : Type} {P : α → β → Prop} {Q : α → γ → Prop} {R : β → γ → Prop}
    (hjoin : ∀ a b c, P a b → Q a c → R b c) {as : List α} {bs : List β} {cs : List γ}
    (hb : List.Forall₂ P as bs) (hc : List.Forall₂ Q as cs) : List.Forall₂ R bs cs := by
  induction hb generalizing cs with
  | nil =>
    cases hc
    exact .nil
  | cons hab _ ih =>
    cases hc with
    | cons hac hc => exact .cons (hjoin _ _ _ hab hac) (ih hc)

namespace TypeGraph

/-! ### Types of two runs -/

/-- **Types of one schema** in two runs, or the placeholders of both. -/
def Paired (s t : Growth) (a b : TypeId) : Prop :=
  (∃ schema, s.Assigns schema a ∧ t.Assigns schema b) ∨
    (s.placeholder = some a ∧ t.placeholder = some b)

/-- Related types, or unnamed types whose kinds widen. -/
def WithParts (s t : Growth) (R : TypeId → TypeId → Prop) (a b : TypeId) : Prop :=
  R a b ∨ ∃ kind wide, s.HasPart kind a ∧ t.HasPart wide b ∧ Widens R kind wide

section Runs

variable {s t : Growth} {R : TypeId → TypeId → Prop}

/-- Parts of kinds that widen are related. -/
theorem Widens.withParts {kind wide : TypeKind} (h : Widens R kind wide) :
    Widens (WithParts s t R) kind wide :=
  h.mono fun _ _ => Or.inl

theorem paired_of_assignsAll {schemas : List SchemaId} {types wide : List TypeId}
    (h : s.AssignsAll schemas types) (h' : t.AssignsAll schemas wide) :
    List.Forall₂ (Paired s t) types wide :=
  forall₂_join (fun schema _ _ ha hb => Or.inl ⟨schema, ha, hb⟩) h h'

/-- Parts of the same values. -/
theorem withParts_of_hasPart {α : Type} {kind wide : α → TypeKind}
    (hkind : ∀ a, Widens R (kind a) (wide a)) {as : List α} {ids ids' : List TypeId}
    (h : List.Forall₂ (fun a id => s.HasPart (kind a) id) as ids)
    (h' : List.Forall₂ (fun a id => t.HasPart (wide a) id) as ids') :
    List.Forall₂ (WithParts s t R) ids ids' :=
  forall₂_join (fun a _ _ ha hb => Or.inr ⟨kind a, wide a, ha, hb, hkind a⟩) h h'

theorem widens_placeholder (o : Options) : Widens R (placeholderKind o) (placeholderKind o) := by
  refine widens_self fun _ _ _ _ => ?_
  unfold placeholderKind
  split <;> rfl

/-! ### Classes -/

/-- Members that are made of the same entries look alike. -/
theorem AreMembers.like {make : String → SchemaId → TypeId → Member}
    (hmake : ∀ key child a b, make key child b = { make key child a with type := b })
    {entries : Dict SchemaId} {members wide : List Member} (h : AreMembers s make entries members)
    (h' : AreMembers t make entries wide) :
    List.Forall₂ (LikeMember (Paired s t)) members wide := by
  have htype : ∀ key child a, (make key child a).type = a :=
    fun key child a => congrArg Member.type (hmake key child a a)
  refine forall₂_join ?_ h h'
  rintro ⟨key, child⟩ _ _ ⟨a, ha, rfl⟩ ⟨b, hb, rfl⟩
  refine ⟨?_, ?_⟩
  · rw [htype]
    exact hmake key child a b
  · rw [htype, htype]
    exact Or.inl ⟨child, ha, hb⟩

/-- The types of the same further entries are paired. -/
theorem IsFurther.paired {rest : Option Additional} {further wide : Option TypeId}
    (h : IsFurther s rest further) (h' : IsFurther t rest wide) :
    Option.Rel (Paired s t) further wide := by
  match rest with
  | some (.allowed true) =>
    obtain ⟨a, ha, rfl⟩ := h
    obtain ⟨b, hb, rfl⟩ := h'
    exact .some (Or.inr ⟨ha, hb⟩)
  | some (.schema child) =>
    obtain ⟨a, ha, rfl⟩ := h
    obtain ⟨b, hb, rfl⟩ := h'
    exact .some (Or.inl ⟨child, ha, hb⟩)
  | some (.allowed false) =>
    cases h
    cases h'
    exact .none
  | none =>
    cases h
    cases h'
    exact .none

/-- Index signatures of paired types look alike. -/
theorem like_indexMember {further wide : Option TypeId} (h : Option.Rel (Paired s t) further wide) :
    List.Forall₂ (LikeMember (Paired s t)) (further.toList.map indexMember)
      (wide.toList.map indexMember) := by
  cases h with
  | none => exact .nil
  | some hab => exact .cons ⟨rfl, hab⟩ .nil

variable {g g' : SchemaGraph} {o : Options} {n m : SchemaNode}

section Said

variable (hsaid : g'.withoutItems = g.withoutItems) (hn : m.withoutItems = n.withoutItems)

include hsaid hn

theorem IsRecordKind.widens {bases wideBases : List TypeId}
    (hbases : List.Forall₂ (Paired s t) bases wideBases) {kind wide : TypeKind}
    (h : IsRecordKind s g o n bases kind) (h' : IsRecordKind t g' o m wideBases wide) :
    Widens (Paired s t) kind wide := by
  have hrequired : ∀ child, (g'.node child).isRequired = (g.node child).isRequired := by
    intro child
    refine SchemaNode.eq_of_withoutItems ?_ SchemaNode.isRequired_withoutItems
    rw [← SchemaGraph.node_withoutItems, hsaid, SchemaGraph.node_withoutItems]
  have hproperty : propertyMember g' m = propertyMember g n := by
    funext key child type
    rw [propertyMember, propertyMember, hrequired,
      SchemaNode.eq_of_withoutItems hn SchemaNode.required_withoutItems]
  have hpatterns : m.patternProperties = n.patternProperties :=
    SchemaNode.eq_of_withoutItems hn fun _ => rfl
  have hadditional : m.additionalProperties = n.additionalProperties :=
    SchemaNode.eq_of_withoutItems hn fun _ => rfl
  have hsingle : isSinglePattern m = isSinglePattern n := by
    rw [isSinglePattern, isSinglePattern, hpatterns, hadditional]
  have hpattern : patternMember m = patternMember n := by
    funext key child type
    rw [patternMember, patternMember, hsingle,
      SchemaNode.eq_of_withoutItems hn SchemaNode.required_withoutItems]
  have hproperties : m.properties = n.properties :=
    SchemaNode.eq_of_withoutItems hn fun _ => rfl
  have hdefinitions : m.definitions = n.definitions :=
    SchemaNode.eq_of_withoutItems hn fun _ => rfl
  obtain ⟨ps, qs, a, us, hps, hqs, ha, hus, rfl⟩ := h
  obtain ⟨ps', qs', a', us', hps', hqs', ha', hus', rfl⟩ := h'
  rw [hproperty, hproperties] at hps'
  rw [hpattern, hpatterns] at hqs'
  rw [hadditional] at ha'
  rw [hdefinitions] at hus'
  refine widens_record (List.rel_append (List.rel_append (List.rel_append ?_ ?_) ?_) ?_) hbases
  · exact hps.like (fun _ _ _ _ => rfl) hps'
  · exact hqs.like (fun _ _ _ _ => rfl) hqs'
  · exact like_indexMember (ha.paired ha')
  · exact hus.like (fun _ _ _ _ => rfl) hus'

theorem IsObjectKind.widens {kind wide : TypeKind} (h : IsObjectKind s g o n kind)
    (h' : IsObjectKind t g' o m wide) : Widens (Paired s t) kind wide := by
  have hshaped : m.isClassShaped = n.isClassShaped :=
    SchemaNode.eq_of_withoutItems hn SchemaNode.isClassShaped_withoutItems
  unfold IsObjectKind at h h'
  rw [hshaped] at h'
  split at h
  · next hclass =>
    rw [if_pos hclass] at h'
    exact IsRecordKind.widens hsaid hn .nil h h'
  · next hplain =>
    rw [if_neg hplain] at h'
    subst h h'
    exact widens_self fun _ _ _ _ => rfl

omit hsaid in
/-- Enumerations are the same. -/
theorem IsEnumKind.widens {kind wide : TypeKind} (h : IsEnumKind s n kind)
    (h' : IsEnumKind t m wide) : Widens (WithParts s t R) kind wide := by
  have hvalues : m.enumValues? = n.enumValues? :=
    SchemaNode.eq_of_withoutItems hn SchemaNode.enumValues?_withoutItems
  have hnames : m.keyword? "tsEnumNames" = n.keyword? "tsEnumNames" :=
    SchemaNode.eq_of_withoutItems (f := fun n => n.keyword? "tsEnumNames") hn
      fun n => n.keyword?_withoutItems (by decide) (by decide)
  have hname : m.standaloneName = n.standaloneName :=
    SchemaNode.eq_of_withoutItems hn fun _ => rfl
  have hentries : m.declaredEntries? = n.declaredEntries? := by
    rw [SchemaNode.declaredEntries?, SchemaNode.declaredEntries?, hvalues, hnames, hname]
  unfold IsEnumKind at h h'
  rw [hentries, hvalues] at h'
  generalize n.declaredEntries? = entries at h h'
  generalize n.enumValues?.getD [] = values at h h'
  have hparts : ∀ {values : List Json}, (∃ literals,
      List.Forall₂ (fun value id => s.HasPart (.literal value) id) values literals ∧
        kind = .union literals) → (∃ literals,
      List.Forall₂ (fun value id => t.HasPart (.literal value) id) values literals ∧
        wide = .union literals) → Widens (WithParts s t R) kind wide := by
    rintro values ⟨literals, hliterals, rfl⟩ ⟨wideLiterals, hwide, rfl⟩
    exact widens_union (withParts_of_hasPart (fun _ => widens_self fun _ _ _ _ => rfl)
      hliterals hwide)
  cases entries with
  | some entries =>
    subst h h'
    exact widens_self fun _ _ _ _ => rfl
  | none =>
    match values with
    | [] => exact hparts h h'
    | [value] =>
      cases h
      cases h'
      exact widens_self fun _ _ _ _ => rfl
    | first :: second :: more => exact hparts h h'

/-- Schemas whose kinds of arrays widen. -/
def ArraysWiden (s t : Growth) (o : Options) (n m : SchemaNode) : Prop :=
  ∀ kind wide, IsArrayKind s o n kind → IsArrayKind t o m wide → Widens (Paired s t) kind wide

variable (harrays : ArraysWiden s t o n m)

include harrays

theorem IsNamedKind.widens {name : String} {kind wide : TypeKind}
    (h : IsNamedKind s g o n name kind) (h' : IsNamedKind t g' o m name wide) :
    Widens (Paired s t) kind wide := by
  unfold IsNamedKind at h h'
  split at h
  case h_6 => exact IsObjectKind.widens hsaid hn h h'
  case h_7 => exact harrays kind wide h h'
  case h_8 =>
    subst h
    have hwide : wide = placeholderKind o := by
      first | exact h' | (split at h' <;> first | contradiction | exact h')
    subst hwide
    exact widens_placeholder o
  all_goals
    subst h
    cases h'
    exact widens_self fun _ _ _ _ => rfl

variable (hshaped : m.isArrayShaped = n.isArrayShaped)

include hshaped

/-- What schemas say of their own widens, if anything. -/
theorem IsOwnFacet.widens {bases wideBases : List TypeId}
    (hbases : List.Forall₂ (Paired s t) bases wideBases) {own wide : Option TypeKind}
    (h : IsOwnFacet s g o n bases own) (h' : IsOwnFacet t g' o m wideBases wide) :
    Option.Rel (Widens (WithParts s t (Paired s t))) own wide := by
  have henum : m.isEnumShaped = n.isEnumShaped :=
    SchemaNode.eq_of_withoutItems hn SchemaNode.isEnumShaped_withoutItems
  have hobject : m.isObjectShaped = n.isObjectShaped :=
    SchemaNode.eq_of_withoutItems hn SchemaNode.isObjectShaped_withoutItems
  have htypes : m.types = n.types :=
    SchemaNode.eq_of_withoutItems hn SchemaNode.types_withoutItems
  have hempty : wideBases.isEmpty = bases.isEmpty := by cases hbases <;> rfl
  unfold IsOwnFacet at h h'
  rw [henum, hempty, htypes, hobject, hshaped] at h'
  by_cases hisEnum : n.isEnumShaped = true
  · rw [if_pos hisEnum] at h h'
    obtain ⟨kind, hkind, rfl⟩ := h
    obtain ⟨wide, hwide, rfl⟩ := h'
    exact .some (IsEnumKind.widens hn hkind hwide)
  rw [if_neg hisEnum] at h h'
  by_cases hhas : (!bases.isEmpty) = true
  · rw [if_pos hhas] at h h'
    obtain ⟨kind, hkind, rfl⟩ := h
    obtain ⟨wide, hwide, rfl⟩ := h'
    exact .some (IsRecordKind.widens hsaid hn hbases hkind hwide).withParts
  rw [if_neg hhas] at h h'
  generalize n.types = names at h h'
  match names with
  | [] =>
    dsimp only at h h'
    by_cases hisObject : n.isObjectShaped = true
    · rw [if_pos hisObject] at h h'
      obtain ⟨kind, hkind, rfl⟩ := h
      obtain ⟨wide, hwide, rfl⟩ := h'
      exact .some (IsObjectKind.widens hsaid hn hkind hwide).withParts
    rw [if_neg hisObject] at h h'
    by_cases hisArray : n.isArrayShaped = true
    · rw [if_pos hisArray] at h h'
      obtain ⟨kind, hkind, rfl⟩ := h
      obtain ⟨wide, hwide, rfl⟩ := h'
      exact .some (harrays kind wide hkind hwide).withParts
    rw [if_neg hisArray] at h h'
    subst h h'
    exact .none
  | [name] =>
    obtain ⟨kind, hkind, rfl⟩ := h
    obtain ⟨wide, hwide, rfl⟩ := h'
    exact .some (IsNamedKind.widens hsaid hn harrays hkind hwide).withParts
  | first :: second :: more =>
    obtain ⟨members, hmembers, rfl⟩ := h
    obtain ⟨wide, hwide, rfl⟩ := h'
    refine .some (widens_union (forall₂_join ?_ hmembers hwide))
    rintro name a b ⟨kind, hkind, hpart⟩ ⟨wide, hwide, hpart'⟩
    exact Or.inr ⟨kind, wide, hpart, hpart', IsNamedKind.widens hsaid hn harrays hkind hwide⟩

end Said

theorem AreGroupFacets.widens {make : List TypeId → TypeKind}
    (hmake : ∀ {members wide}, List.Forall₂ (Paired s t) members wide →
      Widens (Paired s t) (make members) (make wide)) {ids : List SchemaId}
    {kinds wide : List TypeKind} (h : AreGroupFacets s make ids kinds)
    (h' : AreGroupFacets t make ids wide) :
    List.Forall₂ (Widens (WithParts s t (Paired s t))) kinds wide := by
  unfold AreGroupFacets at h h'
  split at h
  · next hempty =>
    rw [if_pos hempty] at h'
    subst h h'
    exact .nil
  · next hfull =>
    rw [if_neg hfull] at h'
    obtain ⟨members, hmembers, rfl⟩ := h
    obtain ⟨wide, hwide, rfl⟩ := h'
    exact .cons (hmake (paired_of_assignsAll hmembers hwide)).withParts .nil

theorem AreFacets.widens {id : SchemaId} (hsaid : g'.withoutItems = g.withoutItems)
    (harrays : ArraysWiden s t o (g.node id) (g'.node id))
    (hshaped : (g'.node id).isArrayShaped = (g.node id).isArrayShaped)
    {kinds wide : List TypeKind} (h : AreFacets s g o id kinds) (h' : AreFacets t g' o id wide) :
    List.Forall₂ (Widens (WithParts s t (Paired s t))) kinds wide := by
  have hnode : ∀ id, (g'.node id).withoutItems = (g.node id).withoutItems := by
    intro id
    rw [← SchemaGraph.node_withoutItems, hsaid, SchemaGraph.node_withoutItems]
  have hcandidates : baseCandidates (g'.node id) = baseCandidates (g.node id) :=
    SchemaNode.eq_of_withoutItems (hnode id) fun _ => rfl
  have hall : (g'.node id).allOf = (g.node id).allOf :=
    SchemaNode.eq_of_withoutItems (hnode id) fun _ => rfl
  have hextended : (g'.node id).bases = (g.node id).bases :=
    SchemaNode.eq_of_withoutItems (hnode id) fun _ => rfl
  have hany : (g'.node id).anyOf = (g.node id).anyOf :=
    SchemaNode.eq_of_withoutItems (hnode id) fun _ => rfl
  have hone : (g'.node id).oneOf = (g.node id).oneOf :=
    SchemaNode.eq_of_withoutItems (hnode id) fun _ => rfl
  have hbases : hasBases g' id = hasBases g id := by
    have hname : ∀ id, (g'.node id).standaloneName = (g.node id).standaloneName :=
      fun id => SchemaNode.eq_of_withoutItems (hnode id) fun _ => rfl
    have hclass : ∀ id, (g'.node id).isClassShaped = (g.node id).isClassShaped :=
      fun id => SchemaNode.eq_of_withoutItems (hnode id) SchemaNode.isClassShaped_withoutItems
    have henum : (g'.node id).isEnumShaped = (g.node id).isEnumShaped :=
      SchemaNode.eq_of_withoutItems (hnode id) SchemaNode.isEnumShaped_withoutItems
    simp only [hasBases, hcandidates, hall, hextended, henum, hname, hclass]
  obtain ⟨bases, own, all, extended, any, one, hb, hown, hs₁, hs₂, hs₃, hs₄, rfl⟩ := h
  obtain ⟨bases', own', all', extended', any', one', hb', hown', hs₁', hs₂', hs₃', hs₄', rfl⟩ := h'
  rw [hbases, hcandidates] at hb'
  have hpaired := paired_of_assignsAll hb hb'
  have hempty : bases'.isEmpty = bases.isEmpty := by cases hpaired <;> rfl
  rw [hempty, hall] at hs₁'
  rw [hempty, hextended] at hs₂'
  rw [hany] at hs₃'
  rw [hone] at hs₄'
  refine List.rel_append (List.rel_append (List.rel_append (List.rel_append ?_ ?_) ?_) ?_) ?_
  · cases IsOwnFacet.widens hsaid (hnode id) harrays hshaped hpaired hown hown' with
    | none => exact .nil
    | some hwidens => exact .cons hwidens .nil
  · exact hs₁.widens widens_intersection hs₁'
  · exact hs₂.widens widens_intersection hs₂'
  · exact hs₃.widens widens_union hs₃'
  · exact hs₄.widens widens_union hs₄'

/-- One kind for statements that widen. -/
theorem IsJoined.widens {kinds wides : List TypeKind}
    (hkinds : List.Forall₂ (Widens R) kinds wides) {kind wide : TypeKind}
    (h : IsJoined s o kinds kind) (h' : IsJoined t o wides wide) :
    Widens (WithParts s t R) kind wide := by
  cases hkinds with
  | nil =>
    subst h h'
    exact widens_placeholder o
  | cons hfirst hrest =>
    cases hrest with
    | nil =>
      cases h
      cases h'
      exact hfirst.withParts
    | cons hsecond hmore =>
      obtain ⟨members, hmembers, rfl⟩ := h
      obtain ⟨wideMembers, hwide, rfl⟩ := h'
      have hparts : List.Forall₂ (fun wide a => ∃ kind, s.HasPart kind a ∧ Widens R kind wide)
          _ members := forall₂_join (fun kind _ _ hkind ha => ⟨kind, ha, hkind⟩)
            (.cons hfirst (.cons hsecond hmore)) hmembers
      refine widens_intersection (forall₂_join ?_ hparts hwide)
      exact fun wide a b ⟨kind, ha, hkind⟩ hb => Or.inr ⟨kind, wide, ha, hb, hkind⟩

/-- **The kind of a schema widens** when its kind of arrays does. -/
theorem IsKind.widens {id : SchemaId} (hsaid : g'.withoutItems = g.withoutItems)
    (harrays : ArraysWiden s t o (g.node id) (g'.node id))
    (hshaped : (g'.node id).isArrayShaped = (g.node id).isArrayShaped) {kind wide : TypeKind}
    (h : IsKind s g o id kind) (h' : IsKind t g' o id wide) :
    Widens (WithParts s t (WithParts s t (Paired s t))) kind wide := by
  have hnode : (g'.node id).withoutItems = (g.node id).withoutItems := by
    rw [← SchemaGraph.node_withoutItems, hsaid, SchemaGraph.node_withoutItems]
  have hboolean : (g'.node id).boolean = (g.node id).boolean :=
    SchemaNode.eq_of_withoutItems hnode fun _ => rfl
  have hcustom : (g'.node id).customType? = (g.node id).customType? :=
    SchemaNode.eq_of_withoutItems hnode SchemaNode.customType?_withoutItems
  unfold IsKind at h h'
  rw [hboolean, hcustom] at h'
  generalize (g.node id).boolean = boolean at h h'
  generalize (g.node id).customType? = custom at h h'
  cases boolean with
  | some value =>
    cases value with
    | true =>
      subst h h'
      exact widens_placeholder o
    | false =>
      cases h
      cases h'
      exact widens_self fun _ _ _ _ => rfl
  | none =>
    cases custom with
    | some text =>
      cases h
      cases h'
      exact widens_self fun _ _ _ _ => rfl
    | none =>
      obtain ⟨kinds, hkinds, hjoined⟩ := h
      obtain ⟨wides, hwides, hjoined'⟩ := h'
      exact IsJoined.widens (AreFacets.widens hsaid harrays hshaped hkinds hwides) hjoined hjoined'

end Runs
end TypeGraph
end SchemaTypings
