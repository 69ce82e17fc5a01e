import SchemaTypings.Proofs.KeptClasses
import SchemaTypings.Proofs.MakingKinds

/-! # Schemas that state a class

A schema states a class by its members, or by bases, beside any other types that it lists.  The
class is all of its type or the first thing in it, and it has a member for every definition of the
schema when unreachable definitions are asked for.
-/
namespace SchemaTypings

/-- The names that stand for kinds under `type`. -/
def SchemaNode.typeNames : List String :=
  ["string", "number", "integer", "boolean", "null", "object", "array"]

namespace SchemaGraph

open TypeGraph (hasBases)

/-- **A schema states a class**: one with bases, or one by its own members, where its types admit
objects. -/
structure StatesClass (g : SchemaGraph) (id : SchemaId) : Prop where
  boolean : (g.node id).boolean = none
  custom : (g.node id).customType? = none
  members : hasBases g id = true ∨ ((g.node id).isEnumShaped = false ∧
    (g.node id).isClassShaped = true ∧ ((g.node id).types = [] ∨
      ("object" ∈ (g.node id).types ∧ ∀ name ∈ (g.node id).types, name ∈ SchemaNode.typeNames)))

instance (g : SchemaGraph) (id : SchemaId) : Decidable (g.StatesClass id) :=
  decidable_of_iff ((g.node id).boolean = none ∧ (g.node id).customType? = none ∧
    (hasBases g id = true ∨ ((g.node id).isEnumShaped = false ∧ (g.node id).isClassShaped = true ∧
      ((g.node id).types = [] ∨ ("object" ∈ (g.node id).types ∧
        ∀ name ∈ (g.node id).types, name ∈ SchemaNode.typeNames)))))
    ⟨fun h => ⟨h.1, h.2.1, h.2.2⟩, fun h => ⟨h.1, h.2, h.3⟩⟩

/-- **A schema is joined with another** that it lists under `allOf` or `extends`, unless it has
these for bases. -/
def Joins (g : SchemaGraph) (id part : SchemaId) : Prop :=
  hasBases g id = false ∧ (part ∈ (g.node id).allOf ∨ part ∈ (g.node id).bases)

end SchemaGraph

namespace TypeGraph

variable {g : SchemaGraph} {o : Options} {n : SchemaNode} {s : Growth} {id : SchemaId}

/-! ### Classes with definitions -/

/-- A class with a member for every definition of a schema. -/
def HoldsDefinitions (s : Growth) (n : SchemaNode) (kind : TypeKind) : Prop :=
  ∃ members bases, kind = .record members bases ∧
    ∀ entry ∈ n.definitions, ∃ m ∈ members, s.Assigns entry.2 m.type

theorem HoldsDefinitions.isRecord {kind : TypeKind} (h : HoldsDefinitions s n kind) :
    kind.isRecord = true := by
  obtain ⟨members, bases, rfl, -⟩ := h
  rfl

/-- A class has the definitions of its schema when they are asked for. -/
theorem IsRecordKind.holdsDefinitions (hasked : o.unreachableDefinitions = true)
    {bases : List TypeId} {kind : TypeKind} (h : IsRecordKind s g o n bases kind) :
    HoldsDefinitions s n kind := by
  obtain ⟨properties, patterns, additional, unreachable, -, -, -, hunreachable, rfl⟩ := h
  rw [if_pos hasked] at hunreachable
  refine ⟨_, _, rfl, fun entry hentry => ?_⟩
  obtain ⟨m, hm, type, htype, rfl⟩ :=
    exists_left_of_forall₂ (List.Forall₂.flip hunreachable) entry hentry
  exact ⟨_, List.mem_append_right _ hm, htype⟩

theorem IsArrayKind.isBasic {kind : TypeKind} (h : IsArrayKind s o n kind) :
    kind.isBasic = true ∧ kind.isRecord = false := by
  unfold IsArrayKind at h
  split at h
  · obtain ⟨elements, spread, -, -, rfl⟩ := h
    split <;> exact ⟨rfl, rfl⟩
  · obtain ⟨element, -, rfl⟩ := h
    exact ⟨rfl, rfl⟩
  · obtain ⟨any, -, rfl⟩ := h
    split <;> exact ⟨rfl, rfl⟩

/-- A known name stands for a basic kind, and `object` alone for a class, if there are members. -/
theorem IsNamedKind.isBasic (hasked : o.unreachableDefinitions = true)
    (hshaped : n.isClassShaped = true) {name : String} (hname : name ∈ SchemaNode.typeNames)
    {kind : TypeKind} (h : IsNamedKind s g o n name kind) :
    kind.isBasic = true ∧ (kind.isRecord = true → HoldsDefinitions s n kind) ∧
      (name = "object" → kind.isRecord = true) := by
  unfold IsNamedKind at h
  split at h
  case h_6 =>
    rw [IsObjectKind, if_pos hshaped] at h
    have hholds := h.holdsDefinitions hasked
    refine ⟨?_, fun _ => hholds, fun _ => hholds.isRecord⟩
    obtain ⟨members, bases, rfl, -⟩ := hholds
    rfl
  case h_7 =>
    obtain ⟨hbasic, hrecord⟩ := h.isBasic
    exact ⟨hbasic, fun hclass => absurd (hrecord.symm.trans hclass) Bool.false_ne_true,
      fun hobject => absurd hobject (by decide)⟩
  case h_8 hstring hnumber hinteger hboolean hnull hobject harray =>
    simp only [SchemaNode.typeNames, List.mem_cons, List.not_mem_nil, or_false] at hname
    rcases hname with h | h | h | h | h | h | h <;> contradiction
  all_goals
    subst h
    exact ⟨rfl, (fun hclass => nomatch hclass), fun hobject => absurd hobject (by decide)⟩

/-! ### What the schema says first -/

theorem name?_of_hasPart {kind : TypeKind} {id : TypeId} (h : (made g o).HasPart kind id) :
    (ofSchema g o).name? id = none := by
  change ((made g o).nodes[id]?.getD { kind := .any }).name = none
  rw [show (made g o).nodes[id]? = some { kind } from h]
  rfl

theorem bases_eq_nil_iff {bases : List TypeId}
    (h : s.AssignsAll (if hasBases g id then baseCandidates (g.node id) else []) bases) :
    bases = [] ↔ hasBases g id = false := by
  cases hhas : hasBases g id with
  | false =>
    rw [if_neg (by simp [hhas]), Growth.AssignsAll, List.forall₂_nil_left_iff] at h
    simp [h]
  | true =>
    rw [if_pos hhas] at h
    rw [← List.length_eq_zero_iff, ← h.length_eq, List.length_eq_zero_iff]
    exact ⟨fun hnil => absurd hnil (baseCandidates_ne_nil hhas), fun h => nomatch h⟩

/-- **A schema that states a class says so first.** -/
theorem exists_own_of_statesClass (hasked : o.unreachableDefinitions = true)
    (hstates : g.StatesClass id) {bases : List TypeId}
    (hbases : bases = [] ↔ hasBases g id = false) {own : Option TypeKind}
    (hown : IsOwnFacet (made g o) g o (g.node id) bases own) : ∃ kind, own = some kind ∧
      (ofSchema g o).ShowsClass (HoldsDefinitions (made g o) (g.node id)) kind := by
  unfold IsOwnFacet at hown
  have henum : (g.node id).isEnumShaped = false :=
    hstates.members.elim not_isEnumShaped_of_hasBases And.left
  rw [if_neg (by simp [henum])] at hown
  split at hown
  · obtain ⟨kind, hkind, rfl⟩ := hown
    exact ⟨kind, rfl, Or.inl (hkind.holdsDefinitions hasked)⟩
  · next hempty =>
    have hnot : ¬ hasBases g id = true := by
      rw [Bool.not_eq_true, ← hbases]
      simpa using hempty
    obtain ⟨-, hshaped, htypes⟩ := hstates.members.resolve_left hnot
    split at hown
    · have hobject : (g.node id).isObjectShaped = true := by
        simp [SchemaNode.isObjectShaped, hshaped]
      rw [if_pos hobject] at hown
      obtain ⟨kind, hkind, rfl⟩ := hown
      rw [IsObjectKind, if_pos hshaped] at hkind
      exact ⟨kind, rfl, Or.inl (hkind.holdsDefinitions hasked)⟩
    · next name heq =>
      rw [heq] at htypes
      obtain ⟨hmem, hnames⟩ := htypes.resolve_left (List.cons_ne_nil _ _)
      obtain ⟨kind, hkind, rfl⟩ := hown
      obtain ⟨-, hholds, hrecord⟩ :=
        hkind.isBasic hasked hshaped (hnames name List.mem_cons_self)
      exact ⟨kind, rfl, Or.inl (hholds (hrecord (List.mem_singleton.1 hmem).symm))⟩
    · next names hnil hsingle =>
      obtain ⟨hmem, hnames⟩ := htypes.resolve_left hnil
      obtain ⟨members, hmembers, rfl⟩ := hown
      have hpart : ∀ m ∈ members, ∃ name ∈ (g.node id).types,
          ∃ kind, IsNamedKind (made g o) g o (g.node id) name kind ∧ (made g o).HasPart kind m :=
        exists_left_of_forall₂ hmembers
      have hkinds : ∀ m ∈ members, (ofSchema g o).name? m = none ∧
          ((ofSchema g o).kind m).isBasic = true ∧
          (((ofSchema g o).kind m).isRecord = true →
            HoldsDefinitions (made g o) (g.node id) ((ofSchema g o).kind m)) := by
        intro m hm
        obtain ⟨name, hname, kind, hkind, hhas⟩ := hpart m hm
        rw [kind_of_hasPart hhas]
        obtain ⟨hbasic, hholds, -⟩ := hkind.isBasic hasked hshaped (hnames name hname)
        exact ⟨name?_of_hasPart hhas, hbasic, hholds⟩
      obtain ⟨m, hm, kind, hkind, hhas⟩ :=
        exists_left_of_forall₂ (List.Forall₂.flip hmembers) "object" hmem
      refine ⟨_, rfl, Or.inr ⟨members, rfl, fun m hm => ⟨(hkinds m hm).1, (hkinds m hm).2.1⟩,
        ⟨m, hm, ?_⟩, fun m hm => (hkinds m hm).2.2⟩⟩
      rw [kind_of_hasPart hhas]
      exact (hkind.isBasic hasked hshaped (hnames _ hmem)).2.2 rfl

/-! ### What a schema is joined with -/

/-- A kind without operands, and only `any` where that stands for what is not said. -/
structure IsSimple (o : Options) (kind : TypeKind) : Prop where
  operands : kind.operands? = none
  known : o.unknownAny = true → kind ≠ .any

theorem isSimple_placeholderKind (o : Options) : IsSimple o (placeholderKind o) := by
  refine ⟨?_, fun hunknown => ?_⟩
  · rw [placeholderKind]
    split <;> rfl
  · rw [placeholderKind, if_pos hunknown]
    exact fun h => nomatch h

theorem isSimple_of_isBasic {kind : TypeKind} (h : kind.isBasic = true) : IsSimple o kind := by
  refine ⟨TypeKind.operands?_of_isBasic h, ?_⟩
  rintro - rfl
  cases h

theorem IsObjectKind.isBasic {kind : TypeKind} (h : IsObjectKind s g o n kind) :
    kind.isBasic = true := by
  unfold IsObjectKind at h
  split at h
  · obtain ⟨_, _, _, _, -, -, -, -, rfl⟩ := h
    rfl
  · rw [h]
    rfl

/-- A kind that a name stands for is simple. -/
theorem IsNamedKind.isSimple {name : String} {kind : TypeKind}
    (h : IsNamedKind s g o n name kind) : IsSimple o kind := by
  unfold IsNamedKind at h
  split at h
  case h_6 => exact isSimple_of_isBasic h.isBasic
  case h_7 => exact isSimple_of_isBasic h.isBasic.1
  case h_8 =>
    rw [h]
    exact isSimple_placeholderKind o
  all_goals
    rw [h]
    exact isSimple_of_isBasic rfl

/-- **A statement of a schema**: a simple one, a choice among simple parts or among schemas, or all
that the schema is joined with. -/
inductive IsStatement (s : Growth) (g : SchemaGraph) (o : Options) (id : SchemaId) :
    TypeKind → Prop where
  | simple {kind : TypeKind} (h : IsSimple o kind) : IsStatement s g o id kind
  | parts {members : List TypeId}
      (h : ∀ m ∈ members, ∃ part, s.HasPart part m ∧ IsSimple o part) :
      IsStatement s g o id (.union members)
  | choice {members : List TypeId} (h : ∀ m ∈ members, ∃ schema, s.Assigns schema m) :
      IsStatement s g o id (.union members)
  | joined {members : List TypeId}
      (h : ∀ m ∈ members, ∃ schema, g.Joins id schema ∧ s.Assigns schema m) :
      IsStatement s g o id (.intersection members)

/-- The values of an enumeration are a statement. -/
theorem IsEnumKind.isStatement {kind : TypeKind} (h : IsEnumKind s n kind) (id : SchemaId) :
    IsStatement s g o id kind := by
  have hliteral : ∀ value, IsSimple o (.literal value) := fun value => ⟨rfl, fun _ h => nomatch h⟩
  unfold IsEnumKind at h
  split at h
  · rw [h]
    exact .simple ⟨rfl, fun _ h => nomatch h⟩
  · rw [h]
    exact .simple (hliteral _)
  · obtain ⟨literals, hliterals, rfl⟩ := h
    refine .parts fun m hm => ?_
    obtain ⟨value, -, hpart⟩ := exists_left_of_forall₂ hliterals m hm
    exact ⟨_, hpart, hliteral value⟩

/-- What a schema says by its values, its members or its types is a statement. -/
theorem IsOwnFacet.isStatement {bases : List TypeId} {own : Option TypeKind}
    (h : IsOwnFacet s g o n bases own) (id : SchemaId) :
    ∀ kind ∈ own, IsStatement s g o id kind := by
  rintro kind ⟨⟩
  cases h.isOwnStatement with
  | values hkind => exact hkind.isStatement id
  | record hkind =>
    obtain ⟨_, _, _, _, -, -, -, -, rfl⟩ := hkind
    exact .simple (isSimple_of_isBasic rfl)
  | object hkind => exact .simple (isSimple_of_isBasic hkind.isBasic)
  | array _ hkind => exact .simple (isSimple_of_isBasic hkind.isBasic.1)
  | named _ hkind => exact .simple hkind.isSimple
  | types hmembers =>
    refine .parts fun m hm => ?_
    obtain ⟨name, -, part, hkind, hpart⟩ := hmembers m hm
    exact ⟨part, hpart, hkind.isSimple⟩

/-- **Everything that a schema says is a statement.** -/
theorem AreFacets.isStatement {kinds : List TypeKind} (h : AreFacets s g o id kinds) :
    ∀ kind ∈ kinds, IsStatement s g o id kind := by
  obtain ⟨bases, own, all, extended, any, one, hbases, hown, hall, hextended, hany, hone, rfl⟩ := h
  have hgroup : ∀ {schemas : List SchemaId} {given : List TypeKind},
      (∀ part ∈ schemas, part ∈ (g.node id).allOf ∨ part ∈ (g.node id).bases) →
      AreGroupFacets s .intersection (if bases.isEmpty then schemas else []) given →
      ∀ kind ∈ given, IsStatement s g o id kind := by
    intro schemas given hschemas hgiven kind hkind
    obtain ⟨types, htypes, rfl⟩ := hgiven.exists_assignsAll kind hkind
    refine .joined fun m hm => ?_
    split at htypes
    · next hempty =>
      obtain ⟨part, hpart, hassigned⟩ := exists_left_of_forall₂ htypes m hm
      exact ⟨part, ⟨(bases_eq_nil_iff hbases).1 (List.isEmpty_iff.1 hempty), hschemas part hpart⟩,
        hassigned⟩
    · rw [List.forall₂_nil_left_iff.1 htypes] at hm
      cases hm
  have hchoice : ∀ {schemas : List SchemaId} {given : List TypeKind},
      AreGroupFacets s .union schemas given → ∀ kind ∈ given, IsStatement s g o id kind := by
    intro schemas given hgiven kind hkind
    obtain ⟨types, htypes, rfl⟩ := hgiven.exists_assignsAll kind hkind
    refine .choice fun m hm => ?_
    obtain ⟨part, -, hassigned⟩ := exists_left_of_forall₂ htypes m hm
    exact ⟨part, hassigned⟩
  intro kind hkind
  simp only [List.mem_append, Option.mem_toList] at hkind
  rcases hkind with (((hkind | hkind) | hkind) | hkind) | hkind
  · exact hown.isStatement id kind hkind
  · exact hgroup (fun _ => Or.inl) hall kind hkind
  · exact hgroup (fun _ => Or.inr) hextended kind hkind
  · exact hchoice hany kind hkind
  · exact hchoice hone kind hkind

/-- **The kind of the type of a schema** is a statement, or joins parts that are statements. -/
theorem IsKind.isStatement_or {kind : TypeKind} (h : IsKind s g o id kind) :
    IsStatement s g o id kind ∨ ∃ members, kind = .intersection members ∧
      ∀ m ∈ members, ∃ part, s.HasPart part m ∧ IsStatement s g o id part := by
  rcases h.placeholder_or_statement with
    rfl | ⟨text, rfl⟩ | ⟨kinds, hkinds, hmem⟩ | ⟨kinds, members, hkinds, hmembers, rfl⟩
  · exact Or.inl (.simple (isSimple_placeholderKind o))
  · exact Or.inl (.simple ⟨rfl, fun _ h => nomatch h⟩)
  · exact Or.inl (hkinds.isStatement kind hmem)
  · refine Or.inr ⟨members, rfl, fun m hm => ?_⟩
    obtain ⟨part, hpart, hhas⟩ := exists_left_of_forall₂ hmembers m hm
    exact ⟨part, hhas, hkinds.isStatement part hpart⟩

namespace IsStatement

variable {kind : TypeKind} (h : IsStatement s g o id kind)

include h

/-- An intersection among the statements has the types of schemas with which the schema is
joined. -/
theorem joins {members : List TypeId} (hmembers : kind.operands? = some (false, members)) :
    ∀ m ∈ members, ∃ schema, g.Joins id schema ∧ s.Assigns schema m := by
  cases h with
  | simple h => cases h.operands.symm.trans hmembers
  | parts h | choice h => cases hmembers
  | joined h =>
    cases hmembers
    exact h

/-- The operands of a statement are types of schemas, or simple parts. -/
theorem assigns_or_hasPart {isUnion : Bool} {members : List TypeId}
    (hmembers : kind.operands? = some (isUnion, members)) {m : TypeId} (hm : m ∈ members) :
    (∃ schema, s.Assigns schema m) ∨ ∃ part, s.HasPart part m ∧ IsSimple o part := by
  cases h with
  | simple h => cases h.operands.symm.trans hmembers
  | parts h =>
    cases hmembers
    exact Or.inr (h m hm)
  | choice h =>
    cases hmembers
    exact Or.inl (h m hm)
  | joined h =>
    cases hmembers
    exact Or.inl ((h m hm).imp fun _ => And.right)

theorem ne_any (hunknown : o.unknownAny = true) : kind ≠ .any := by
  cases h with
  | simple h => exact h.known hunknown
  | parts | choice | joined => exact fun h => nomatch h

end IsStatement

variable (hroot : g.root < g.size) (hg : ∀ id, ∀ part ∈ g.children id, part < g.size)

include hroot hg

/-- **The type of the root shows a class with the definitions of the root.** -/
theorem rootShowsClass (hasked : o.unreachableDefinitions = true) (hstates : g.StatesClass g.root)
    (halone : ∀ first rest, (ofSchema g o).kind (ofSchema g o).root = .intersection (first :: rest) →
      (ofSchema g o).LeavesAlone o first) :
    (ofSchema g o).RootShowsClass o (HoldsDefinitions (made g o) (g.node g.root)) := by
  have hkind := isKind_of_assigns (o := o) hroot hg (adds_made o hroot hg).2
  unfold IsKind at hkind
  rw [hstates.boolean, hstates.custom] at hkind
  obtain ⟨kinds, ⟨bases, own, all, extended, any, one, hbases, hown, -, -, -, -, rfl⟩, hjoined⟩ :=
    hkind
  obtain ⟨kind, rfl, hshows⟩ :=
    exists_own_of_statesClass hasked hstates (bases_eq_nil_iff hbases) hown
  simp only [Option.toList_some, List.cons_append] at hjoined
  generalize [] ++ all ++ extended ++ any ++ one = others at hjoined
  cases others with
  | nil =>
    left
    rw [show (ofSchema g o).kind (ofSchema g o).root = kind from hjoined]
    exact hshows
  | cons second more =>
    obtain ⟨members, hmembers, hjoined⟩ := hjoined
    cases hmembers with
    | @cons _ first _ rest hfirst _ =>
      refine Or.inr ⟨first, rest, hjoined, name?_of_hasPart hfirst, ?_, halone first rest hjoined⟩
      rw [kind_of_hasPart hfirst]
      exact hshows

/-- **A member of the type of a schema** is the type of one with which the schema is joined, or a
part whose members are. -/
theorem joins_of_assigns {schema : SchemaId} {type m : TypeId}
    (hschema : (made g o).Assigns schema type) (hm : (ofSchema g o).Joins type m) :
    (∃ part, g.Joins schema part ∧ (made g o).Assigns part m) ∨
      ∃ kind, (made g o).HasPart kind m ∧ IsStatement (made g o) g o schema kind := by
  obtain ⟨members, hmembers, hm⟩ := hm
  rcases (isKind_of_assigns hroot hg hschema).isStatement_or with hkind | ⟨parts, heq, hparts⟩
  · exact Or.inl (hkind.joins hmembers m hm)
  · rw [heq] at hmembers
    cases hmembers
    exact Or.inr (hparts m hm)

/-- **What the type of the root is joined with has no name**, where this holds of the schemas with
which the root is joined. -/
theorem name?_of_transGen_joins (hunnamed : ∀ part, Relation.TransGen g.Joins g.root part →
      (g.node part).standaloneName = none) {m : TypeId}
    (hm : Relation.TransGen (ofSchema g o).Joins (ofSchema g o).root m) :
    (ofSchema g o).name? m = none := by
  have htraced : (∃ part, Relation.TransGen g.Joins g.root part ∧ (made g o).Assigns part m) ∨
      ∃ schema kind, Relation.ReflTransGen g.Joins g.root schema ∧ (made g o).HasPart kind m ∧
        IsStatement (made g o) g o schema kind := by
    have hstep : ∀ {schema type m}, Relation.ReflTransGen g.Joins g.root schema →
        (made g o).Assigns schema type → (ofSchema g o).Joins type m →
        (∃ part, Relation.TransGen g.Joins g.root part ∧ (made g o).Assigns part m) ∨
          ∃ schema kind, Relation.ReflTransGen g.Joins g.root schema ∧ (made g o).HasPart kind m ∧
            IsStatement (made g o) g o schema kind := by
      intro schema type m hschema htype hm
      rcases joins_of_assigns hroot hg htype hm with ⟨part, hpart, hassigned⟩ | ⟨kind, hrest⟩
      · exact Or.inl ⟨part, .tail' hschema hpart, hassigned⟩
      · exact Or.inr ⟨schema, kind, hschema, hrest⟩
    induction hm with
    | single hm => exact hstep .refl (adds_made o hroot hg).2 hm
    | tail _ hm ih =>
      rcases ih with ⟨part, hpart, hassigned⟩ | ⟨schema, kind, hschema, hpart, hkind⟩
      · exact hstep hpart.to_reflTransGen hassigned hm
      · obtain ⟨members, hmembers, hm⟩ := hm
        rw [kind_of_hasPart hpart] at hmembers
        obtain ⟨part, hjoins, hassigned⟩ := hkind.joins hmembers _ hm
        exact Or.inl ⟨part, .tail' hschema hjoins, hassigned⟩
  rcases htraced with ⟨part, hpart, hassigned⟩ | ⟨schema, kind, -, hpart, -⟩
  · rw [name?_of_assigns hroot hg hassigned, hunnamed part hpart]
  · exact name?_of_hasPart hpart

/-- **Where `unknown` stands for what is not said**, no operand of operands of the root is `any`. -/
theorem kind_ne_any_of_hasOperand (hunknown : o.unknownAny = true) {m : TypeId}
    (hm : Relation.ReflTransGen (ofSchema g o).HasOperand (ofSchema g o).root m) :
    (ofSchema g o).kind m ≠ .any := by
  -- each of them is the type of a schema, or a part that is a statement
  have htraced : (∃ schema, (made g o).Assigns schema m) ∨
      ∃ schema kind, (made g o).HasPart kind m ∧ IsStatement (made g o) g o schema kind := by
    have hstatement : ∀ {schema kind isUnion members m}, IsStatement (made g o) g o schema kind →
        kind.operands? = some (isUnion, members) → m ∈ members →
        (∃ schema, (made g o).Assigns schema m) ∨
          ∃ schema kind, (made g o).HasPart kind m ∧ IsStatement (made g o) g o schema kind := by
      intro schema kind isUnion members m hkind hmembers hm
      exact (hkind.assigns_or_hasPart hmembers hm).imp_right fun ⟨part, hpart, hsimple⟩ =>
        ⟨schema, part, hpart, .simple hsimple⟩
    induction hm with
    | refl => exact Or.inl ⟨_, (adds_made o hroot hg).2⟩
    | tail _ hm ih =>
      obtain ⟨isUnion, members, hmembers, hm⟩ := hm
      rcases ih with ⟨schema, hassigned⟩ | ⟨schema, kind, hpart, hkind⟩
      · rcases (isKind_of_assigns hroot hg hassigned).isStatement_or with hkind | ⟨_, heq, hparts⟩
        · exact hstatement hkind hmembers hm
        · rw [heq] at hmembers
          cases hmembers
          exact Or.inr ⟨schema, hparts _ hm⟩
      · rw [kind_of_hasPart hpart] at hmembers
        exact hstatement hkind hmembers hm
  rcases htraced with ⟨schema, hassigned⟩ | ⟨schema, kind, hpart, hkind⟩
  · rcases (isKind_of_assigns hroot hg hassigned).isStatement_or with hkind | ⟨_, heq, -⟩
    · exact hkind.ne_any hunknown
    · rw [heq]
      exact fun h => nomatch h
  · rw [kind_of_hasPart hpart]
    exact hkind.ne_any hunknown

end TypeGraph
end SchemaTypings
