import SchemaTypings.Proofs.SchemaTypes

/-! # The kinds that schemas ask for

What the kind of the type of a schema is, as a relation on the state in which the types are made:
its parts are the types of the schemas that it names, the shared placeholder, and unnamed types that
were added for it.  None of this changes when more types are made.
-/
namespace SchemaTypings

/-- The entries of an enumeration that is declared. -/
def SchemaNode.declaredEntries? (n : SchemaNode) : Option (List EnumEntry) :=
  if n.standaloneName.isSome then
    TypeGraph.enumEntries? (n.keyword? "tsEnumNames") (n.enumValues?.getD [])
  else none

namespace TypeGraph

/-! ### What parts are kept -/

namespace Growth

/-- A type that was added for a part. -/
def HasPart (s : Growth) (kind : TypeKind) (id : TypeId) : Prop := s.nodes[id]? = some { kind }

/-- **The parts of kinds are kept**: types of schemas, the placeholder and unnamed types. -/
structure Keeps (s t : Growth) : Prop where
  assigned : ∀ schema type, s.Assigns schema type → t.Assigns schema type
  placeholder : ∀ id, s.placeholder = some id → t.placeholder = some id
  part : ∀ kind id, s.HasPart kind id → t.HasPart kind id

variable {s t : Growth}

theorem Keeps.assignsAll (h : s.Keeps t) {schemas : List SchemaId} {types : List TypeId}
    (hall : s.AssignsAll schemas types) : t.AssignsAll schemas types :=
  hall.imp fun schema type => h.assigned schema type

theorem Keeps.parts (h : s.Keeps t) {α : Type} {kind : α → TypeKind} {as : List α}
    {ids : List TypeId} (hall : List.Forall₂ (fun a id => s.HasPart (kind a) id) as ids) :
    List.Forall₂ (fun a id => t.HasPart (kind a) id) as ids :=
  hall.imp fun a id => h.part (kind a) id

end Growth

/-! ### Members and further entries -/

/-- The member of a property. -/
def propertyMember (g : SchemaGraph) (n : SchemaNode) (key : String) (child : SchemaId)
    (type : TypeId) : Member :=
  { key, type, isRequired := n.required.contains key || (g.node child).isRequired }

/-- Whether the patterns of a schema stand as an index signature: there is one, and it admits no
other keys. -/
def isSinglePattern (n : SchemaNode) : Bool :=
  n.patternProperties.length = 1 && n.additionalProperties = some (.allowed false)

/-- The member of a pattern. -/
def patternMember (n : SchemaNode) (key : String) (_ : SchemaId) (type : TypeId) : Member :=
  { key := if isSinglePattern n then Identifier.indexSignature else key
    type
    isRequired := isSinglePattern n || n.required.contains key
    isPattern := !isSinglePattern n
    isIndex := isSinglePattern n }

/-- The member that keeps a definition. -/
def definitionMember (key : String) (_ : SchemaId) (type : TypeId) : Member :=
  { key, type, isRequired := true, isUnreachable := true }

section Kinds

variable (s : Growth) (g : SchemaGraph) (o : Options) (n : SchemaNode)

/-- Members have the types of the schemas of their entries. -/
def AreMembers (make : String → SchemaId → TypeId → Member) (entries : Dict SchemaId)
    (members : List Member) : Prop :=
  List.Forall₂ (fun entry member => ∃ type, s.Assigns entry.2 type ∧
    member = make entry.1 entry.2 type) entries members

/-- The type of further entries, if there may be any. -/
def IsFurther : Option Additional → Option TypeId → Prop
  | some (.allowed true), further => ∃ id, s.placeholder = some id ∧ further = some id
  | some (.schema child), further => ∃ id, s.Assigns child id ∧ further = some id
  | _, further => further = none

/-! ### Kinds by shape -/

/-- A class of a schema. -/
def IsRecordKind (bases : List TypeId) (kind : TypeKind) : Prop :=
  ∃ properties patterns additional unreachable,
    AreMembers s (propertyMember g n) n.properties properties ∧
    AreMembers s (patternMember n) n.patternProperties patterns ∧
    IsFurther s n.additionalProperties additional ∧
    AreMembers s definitionMember (if o.unreachableDefinitions then n.definitions else [])
      unreachable ∧
    kind = .record (properties ++ patterns ++ additional.toList.map indexMember ++ unreachable)
      bases

/-- The kind of a schema of objects. -/
def IsObjectKind (kind : TypeKind) : Prop :=
  if n.isClassShaped then IsRecordKind s g o n [] kind else kind = .object

/-- The kind of a schema of arrays. -/
def IsArrayKind (kind : TypeKind) : Prop :=
  match n.items with
  | some (.tuple ids) => ∃ elements spread, s.AssignsAll ids elements ∧
      IsFurther s n.additionalItems spread ∧
      kind = if o.ignoreItemBounds then .tuple elements elements.length none spread
        else .tuple elements (n.minItems?.getD 0) n.maxItems? spread
  | some (.each id) => ∃ element, s.Assigns id element ∧ kind = .array element
  | none => ∃ any, s.placeholder = some any ∧
      kind = if !o.ignoreItemBounds && (0 < n.minItems?.getD 0 || n.maxItems?.isSome) then
          .tuple (List.replicate (Nat.max (n.maxItems?.getD 0) (n.minItems?.getD 0)) any)
            (n.minItems?.getD 0) n.maxItems? (if n.maxItems?.isNone then some any else none)
        else .array any

/-- The kind of an enumeration. -/
def IsEnumKind (kind : TypeKind) : Prop :=
  match n.declaredEntries?, n.enumValues?.getD [] with
  | some entries, _ => kind = .enumeration entries
  | none, [value] => kind = .literal value
  | none, values => ∃ literals,
      List.Forall₂ (fun value id => s.HasPart (.literal value) id) values literals ∧
        kind = .union literals

/-- The kind that one name under `type` stands for. -/
def IsNamedKind (name : String) (kind : TypeKind) : Prop :=
  match name with
  | "string" => kind = .string
  | "number" | "integer" => kind = .number
  | "boolean" => kind = .boolean
  | "null" => kind = .null
  | "object" => IsObjectKind s g o n kind
  | "array" => IsArrayKind s o n kind
  | _ => kind = placeholderKind o

/-! ### Statements -/

/-- What a schema says by its values, its members or its types. -/
def IsOwnFacet (bases : List TypeId) (own : Option TypeKind) : Prop :=
  if n.isEnumShaped then ∃ kind, IsEnumKind s n kind ∧ own = some kind
  else if !bases.isEmpty then ∃ kind, IsRecordKind s g o n bases kind ∧ own = some kind
  else match n.types with
    | [] =>
      if n.isObjectShaped then ∃ kind, IsObjectKind s g o n kind ∧ own = some kind
      else if n.isArrayShaped then ∃ kind, IsArrayKind s o n kind ∧ own = some kind
      else own = none
    | [name] => ∃ kind, IsNamedKind s g o n name kind ∧ own = some kind
    | names => ∃ members, List.Forall₂ (fun name id => ∃ kind, IsNamedKind s g o n name kind ∧
        s.HasPart kind id) names members ∧ own = some (.union members)

/-- What a schema says by a list of schemas; an empty list says nothing. -/
def AreGroupFacets (make : List TypeId → TypeKind) (ids : List SchemaId) (kinds : List TypeKind) :
    Prop :=
  if ids.isEmpty then kinds = [] else ∃ members, s.AssignsAll ids members ∧ kinds = [make members]

/-- Everything that a schema says, as independent statements. -/
def AreFacets (id : SchemaId) (kinds : List TypeKind) : Prop :=
  ∃ bases own all extended any one,
    s.AssignsAll (if hasBases g id then baseCandidates (g.node id) else []) bases ∧
    IsOwnFacet s g o (g.node id) bases own ∧
    AreGroupFacets s .intersection (if bases.isEmpty then (g.node id).allOf else []) all ∧
    AreGroupFacets s .intersection (if bases.isEmpty then (g.node id).bases else []) extended ∧
    AreGroupFacets s .union (g.node id).anyOf any ∧
    AreGroupFacets s .union (g.node id).oneOf one ∧
    kinds = own.toList ++ all ++ extended ++ any ++ one

/-- One kind for all statements. -/
def IsJoined (kinds : List TypeKind) (kind : TypeKind) : Prop :=
  match kinds with
  | [] => kind = placeholderKind o
  | [single] => kind = single
  | kinds => ∃ members, List.Forall₂ s.HasPart kinds members ∧ kind = .intersection members

/-- **The kind of the type of a schema.** -/
def IsKind (id : SchemaId) (kind : TypeKind) : Prop :=
  match (g.node id).boolean, (g.node id).customType? with
  | some true, _ => kind = placeholderKind o
  | some false, _ => kind = .custom "never"
  | none, some text => kind = .custom text
  | none, none => ∃ kinds, AreFacets s g o id kinds ∧ IsJoined s o kinds kind

end Kinds

/-! ### What a statement is -/

section Statements

variable {s : Growth} {g : SchemaGraph} {o : Options} {n : SchemaNode} {kind : TypeKind}

/-- **What a schema says by its values, its members or its types**, one case for each way to say
it. -/
inductive IsOwnStatement (s : Growth) (g : SchemaGraph) (o : Options) (n : SchemaNode)
    (bases : List TypeId) : TypeKind → Prop where
  | values {kind : TypeKind} (h : IsEnumKind s n kind) : IsOwnStatement s g o n bases kind
  | record {kind : TypeKind} (h : IsRecordKind s g o n bases kind) :
      IsOwnStatement s g o n bases kind
  | object {kind : TypeKind} (h : IsObjectKind s g o n kind) : IsOwnStatement s g o n bases kind
  | array {kind : TypeKind} (hshaped : n.isArrayShaped = true) (h : IsArrayKind s o n kind) :
      IsOwnStatement s g o n bases kind
  | named {name : String} {kind : TypeKind} (hname : name ∈ n.types)
      (h : IsNamedKind s g o n name kind) : IsOwnStatement s g o n bases kind
  | types {members : List TypeId}
      (h : ∀ m ∈ members, ∃ name ∈ n.types, ∃ kind, IsNamedKind s g o n name kind ∧
        s.HasPart kind m) : IsOwnStatement s g o n bases (.union members)

theorem IsOwnFacet.isOwnStatement {bases : List TypeId}
    (h : IsOwnFacet s g o n bases (some kind)) : IsOwnStatement s g o n bases kind := by
  have hone : ∀ {P : TypeKind → Prop}, (∃ other, P other ∧ some kind = some other) → P kind := by
    rintro P ⟨other, hother, heq⟩
    exact Option.some.inj heq ▸ hother
  unfold IsOwnFacet at h
  split at h
  · exact .values (hone h)
  split at h
  · exact .record (hone h)
  split at h
  · split at h
    · exact .object (hone h)
    split at h
    · next hshaped => exact .array hshaped (hone h)
    · cases h
  · next name htypes => exact .named (htypes ▸ List.mem_singleton_self _) (hone h)
  · obtain ⟨members, hmembers, heq⟩ := h
    cases heq
    exact .types (exists_left_of_forall₂ hmembers)

/-- What a schema says by a list of schemas is made of their types. -/
theorem AreGroupFacets.exists_assignsAll {make : List TypeId → TypeKind} {schemas : List SchemaId}
    {kinds : List TypeKind} (h : AreGroupFacets s make schemas kinds) :
    ∀ kind ∈ kinds, ∃ members, s.AssignsAll schemas members ∧ kind = make members := by
  intro kind hkind
  unfold AreGroupFacets at h
  split at h
  · rw [h] at hkind
    cases hkind
  · obtain ⟨members, hmembers, rfl⟩ := h
    exact ⟨members, hmembers, List.mem_singleton.1 hkind⟩

/-- A statement of a schema is its own, or a union or an intersection of the types of schemas. -/
theorem AreFacets.own_or_group {id : SchemaId} {kinds : List TypeKind}
    (h : AreFacets s g o id kinds) (hkind : kind ∈ kinds) :
    (∃ bases, s.AssignsAll (if hasBases g id then baseCandidates (g.node id) else []) bases ∧
      IsOwnStatement s g o (g.node id) bases kind) ∨
    ∃ schemas members, s.AssignsAll schemas members ∧
      (kind = .union members ∨ kind = .intersection members) := by
  obtain ⟨bases, own, all, extended, any, one, hbases, hown, hall, hextended, hany, hone, rfl⟩ := h
  simp only [List.mem_append, Option.mem_toList] at hkind
  rcases hkind with (((hkind | hkind) | hkind) | hkind) | hkind
  · cases hkind
    exact .inl ⟨bases, hbases, hown.isOwnStatement⟩
  · obtain ⟨members, hmembers, rfl⟩ := hall.exists_assignsAll _ hkind
    exact .inr ⟨_, members, hmembers, .inr rfl⟩
  · obtain ⟨members, hmembers, rfl⟩ := hextended.exists_assignsAll _ hkind
    exact .inr ⟨_, members, hmembers, .inr rfl⟩
  · obtain ⟨members, hmembers, rfl⟩ := hany.exists_assignsAll _ hkind
    exact .inr ⟨_, members, hmembers, .inl rfl⟩
  · obtain ⟨members, hmembers, rfl⟩ := hone.exists_assignsAll _ hkind
    exact .inr ⟨_, members, hmembers, .inl rfl⟩

/-- The kind of a schema is that of parts which say nothing, a text that is given for it, its only
statement, or all its statements joined. -/
theorem IsKind.placeholder_or_statement {id : SchemaId} (h : IsKind s g o id kind) :
    kind = placeholderKind o ∨ (∃ text, kind = .custom text) ∨
    (∃ kinds, AreFacets s g o id kinds ∧ kind ∈ kinds) ∨
    ∃ kinds members, AreFacets s g o id kinds ∧ List.Forall₂ s.HasPart kinds members ∧
      kind = .intersection members := by
  unfold IsKind at h
  split at h
  · exact .inl h
  · exact .inr (.inl ⟨_, h⟩)
  · exact .inr (.inl ⟨_, h⟩)
  · obtain ⟨kinds, hkinds, hjoined⟩ := h
    match kinds with
    | [] => exact .inl hjoined
    | [single] => exact .inr (.inr (.inl ⟨_, hkinds, List.mem_singleton.2 hjoined⟩))
    | first :: second :: more =>
      obtain ⟨members, hmembers, rfl⟩ := hjoined
      exact .inr (.inr (.inr ⟨_, members, hkinds, hmembers, rfl⟩))

end Statements

/-! ### Kinds are kept -/

section Kept

variable {s t : Growth} {g : SchemaGraph} {o : Options} {n : SchemaNode} (h : s.Keeps t)

include h

theorem AreMembers.kept {make : String → SchemaId → TypeId → Member} {entries : Dict SchemaId}
    {members : List Member} (hmembers : AreMembers s make entries members) :
    AreMembers t make entries members :=
  hmembers.imp fun _ _ ⟨type, htype, hmember⟩ => ⟨type, h.assigned _ _ htype, hmember⟩

theorem IsFurther.kept {rest : Option Additional} {further : Option TypeId}
    (hfurther : IsFurther s rest further) : IsFurther t rest further := by
  unfold IsFurther at hfurther ⊢
  split at hfurther
  · exact hfurther.imp fun id => And.imp_left (h.placeholder id)
  · exact hfurther.imp fun id => And.imp_left (h.assigned _ id)
  · exact hfurther

theorem IsRecordKind.kept {bases : List TypeId} {kind : TypeKind}
    (hkind : IsRecordKind s g o n bases kind) : IsRecordKind t g o n bases kind := by
  obtain ⟨properties, patterns, additional, unreachable, hproperties, hpatterns, hadditional,
    hunreachable, rfl⟩ := hkind
  exact ⟨properties, patterns, additional, unreachable, hproperties.kept h, hpatterns.kept h,
    hadditional.kept h, hunreachable.kept h, rfl⟩

theorem IsObjectKind.kept {kind : TypeKind} (hkind : IsObjectKind s g o n kind) :
    IsObjectKind t g o n kind := by
  unfold IsObjectKind at hkind ⊢
  split
  · next hshaped => exact IsRecordKind.kept h (by rwa [if_pos hshaped] at hkind)
  · next hplain => rwa [if_neg hplain] at hkind

theorem IsArrayKind.kept {kind : TypeKind} (hkind : IsArrayKind s o n kind) :
    IsArrayKind t o n kind := by
  unfold IsArrayKind at hkind ⊢
  cases hitems : n.items with
  | none =>
    rw [hitems] at hkind
    obtain ⟨any, hany, hkind⟩ := hkind
    exact ⟨any, h.placeholder any hany, hkind⟩
  | some items =>
    rw [hitems] at hkind
    cases items with
    | tuple ids =>
      obtain ⟨elements, spread, helements, hspread, hkind⟩ := hkind
      exact ⟨elements, spread, h.assignsAll helements, hspread.kept h, hkind⟩
    | each id =>
      obtain ⟨element, helement, hkind⟩ := hkind
      exact ⟨element, h.assigned id element helement, hkind⟩

theorem IsEnumKind.kept {kind : TypeKind} (hkind : IsEnumKind s n kind) : IsEnumKind t n kind := by
  unfold IsEnumKind at hkind ⊢
  generalize n.declaredEntries? = entries at hkind ⊢
  generalize n.enumValues?.getD [] = values at hkind ⊢
  split at hkind
  · exact hkind
  · exact hkind
  · obtain ⟨literals, hliterals, hkind⟩ := hkind
    exact ⟨literals, h.parts hliterals, hkind⟩

theorem IsNamedKind.kept {name : String} {kind : TypeKind}
    (hkind : IsNamedKind s g o n name kind) : IsNamedKind t g o n name kind := by
  unfold IsNamedKind at hkind ⊢
  split at hkind
  case h_6 => exact IsObjectKind.kept h hkind
  case h_7 => exact IsArrayKind.kept h hkind
  all_goals exact hkind

theorem IsOwnFacet.kept {bases : List TypeId} {own : Option TypeKind}
    (hown : IsOwnFacet s g o n bases own) : IsOwnFacet t g o n bases own := by
  unfold IsOwnFacet at hown ⊢
  split at hown
  · next henum =>
    rw [if_pos henum]
    exact hown.imp fun kind => And.imp_left (IsEnumKind.kept h)
  · next henum =>
    rw [if_neg henum]
    split at hown
    · next hbases =>
      rw [if_pos hbases]
      exact hown.imp fun kind => And.imp_left (IsRecordKind.kept h)
    · next hbases =>
      rw [if_neg hbases]
      generalize n.types = names at hown ⊢
      match names with
      | [] =>
        dsimp only at hown ⊢
        split at hown
        · next hobject =>
          rw [if_pos hobject]
          exact hown.imp fun kind => And.imp_left (IsObjectKind.kept h)
        · next hobject =>
          rw [if_neg hobject]
          split at hown
          · next harray =>
            rw [if_pos harray]
            exact hown.imp fun kind => And.imp_left (IsArrayKind.kept h)
          · next harray =>
            rw [if_neg harray]
            exact hown
      | [name] => exact hown.imp fun kind => And.imp_left (IsNamedKind.kept h)
      | first :: second :: more =>
        obtain ⟨members, hmembers, hown⟩ := hown
        refine ⟨members, hmembers.imp fun name id => ?_, hown⟩
        exact fun ⟨kind, hkind, hpart⟩ => ⟨kind, hkind.kept h, h.part kind id hpart⟩

theorem AreGroupFacets.kept {make : List TypeId → TypeKind} {ids : List SchemaId}
    {kinds : List TypeKind} (hkinds : AreGroupFacets s make ids kinds) :
    AreGroupFacets t make ids kinds := by
  unfold AreGroupFacets at hkinds ⊢
  split
  · next hempty => rwa [if_pos hempty] at hkinds
  · next hfull =>
    rw [if_neg hfull] at hkinds
    exact hkinds.imp fun members => And.imp_left h.assignsAll

theorem AreFacets.kept {id : SchemaId} {kinds : List TypeKind} (hkinds : AreFacets s g o id kinds) :
    AreFacets t g o id kinds := by
  obtain ⟨bases, own, all, extended, any, one, hbases, hown, hall, hextended, hany, hone, hkinds⟩ :=
    hkinds
  exact ⟨bases, own, all, extended, any, one, h.assignsAll hbases, hown.kept h, hall.kept h,
    hextended.kept h, hany.kept h, hone.kept h, hkinds⟩

theorem IsJoined.kept {kinds : List TypeKind} {kind : TypeKind} (hkind : IsJoined s o kinds kind) :
    IsJoined t o kinds kind := by
  match kinds with
  | [] => exact hkind
  | [single] => exact hkind
  | first :: second :: more =>
    obtain ⟨members, hmembers, hkind⟩ := hkind
    exact ⟨members, hmembers.imp fun kind id => h.part kind id, hkind⟩

theorem IsKind.kept {id : SchemaId} {kind : TypeKind} (hkind : IsKind s g o id kind) :
    IsKind t g o id kind := by
  unfold IsKind at hkind ⊢
  split at hkind
  · exact hkind
  · exact hkind
  · exact hkind
  · obtain ⟨kinds, hkinds, hjoined⟩ := hkind
    exact ⟨kinds, hkinds.kept h, hjoined.kept h⟩

end Kept

end TypeGraph
end SchemaTypings
