import SchemaTypings.Proofs.DistinctKeys
import SchemaTypings.Proofs.Identity
import SchemaTypings.Proofs.Readability
import SchemaTypings.Proofs.TypeRanges

/-! # Members that are told apart

The visible members of a class are the properties of one schema and at most one index signature:
that of its only pattern, or that of its further properties.  No two of them are written with the
same key, since a key that looks like an index signature is quoted.  The entries of an enumeration
have distinct labels, and their values are those that one schema lists.
-/
namespace SchemaTypings

/-! ### Fields -/

namespace Field

/-- The key of a field as it is written. -/
def writtenKey (f : Field) : String :=
  match f.key with
  | some key => Identifier.keyText key
  | none => Identifier.indexSignature

/-- No quoted key and no identifier is an index signature. -/
theorem keyText_ne_indexSignature (key : String) :
    Identifier.keyText key ≠ Identifier.indexSignature := by
  intro heq
  obtain ⟨c, cs, hc, hne⟩ := Phrase.exists_chars_word (Phrase.isWord_keyText key)
  rw [Phrase.chars, Phrase.text, heq] at hc
  exact hne '[' (by decide) (List.cons.inj hc).1.symm

/-- **Fields that are written alike have the same key.** -/
theorem key_eq_of_writtenKey {f f' : Field} (h : f.writtenKey = f'.writtenKey) : f.key = f'.key := by
  unfold writtenKey at h
  cases hkey : f.key with
  | some key =>
    cases hkey' : f'.key with
    | some key' =>
      rw [hkey, hkey'] at h
      rw [Phrase.keyText_injective h]
    | none =>
      rw [hkey, hkey'] at h
      exact absurd h (keyText_ne_indexSignature key)
  | none =>
    cases hkey' : f'.key with
    | some key' =>
      rw [hkey, hkey'] at h
      exact absurd h.symm (keyText_ne_indexSignature key')
    | none => rfl

/-- **Fields that are told apart**: no two are written with the same key, and at most one of them is
an index signature. -/
structure Apart (fields : List Field) : Prop where
  keys : (fields.map writtenKey).Nodup
  index : (fields.filter fun f => f.key.isNone).length ≤ 1

theorem apart_of_nodup {fields : List Field} (h : (fields.map key).Nodup) : Apart fields where
  keys := by
    rw [List.nodup_map_iff_inj_on h.of_map]
    intro f hf f' hf' heq
    exact List.inj_on_of_nodup_map h hf hf' (key_eq_of_writtenKey heq)
  index := by
    have hsame : ((fields.filter fun f => f.key.isNone).map key) =
        List.replicate (fields.filter fun f => f.key.isNone).length none := by
      refine List.eq_replicate_iff.2 ⟨List.length_map _, fun key hkey => ?_⟩
      obtain ⟨f, hf, rfl⟩ := List.mem_map.1 hkey
      exact Option.isNone_iff_eq_none.1 (List.mem_filter.1 hf).2
    have hnodup := h.sublist ((List.filter_sublist (p := fun f : Field => f.key.isNone)).map key)
    rw [hsame, List.nodup_replicate] at hnodup
    exact hnodup

end Field

/-- **The fields that a class shows.** -/
def shownFields (members : List Member) : List Field :=
  (members.filter Member.isVisible).map Member.field

theorem shownFields_append (as bs : List Member) :
    shownFields (as ++ bs) = shownFields as ++ shownFields bs := by
  rw [shownFields, List.filter_append, List.map_append]
  rfl

/-! ### Enumerations -/

/-- As many results as there are elements. -/
theorem length_of_mapM_eq_some {α β : Type} {f : α → Option β} {as : List α} {bs : List β}
    (h : as.mapM f = some bs) : bs.length = as.length := by
  induction as generalizing bs with
  | nil =>
    cases h
    rfl
  | cons a as ih =>
    rw [List.mapM_cons] at h
    obtain ⟨b, -, h⟩ := Option.bind_eq_some_iff.1 h
    obtain ⟨rest, hrest, h⟩ := Option.bind_eq_some_iff.1 h
    cases h
    exact congrArg (· + 1) (ih hrest)

namespace SchemaNode

/-- **The values that a schema lists**: its constant, or those of its enumeration. -/
def listedValues (n : SchemaNode) : List Json :=
  match n.keyword? "const" with
  | some value => [value]
  | none => n.enumValues?.getD []

/-- **A normal schema lists the same values**, all of them as an enumeration. -/
theorem enumValues?_normalize (o : Options) (isRoot : Bool) (n : SchemaNode) :
    (n.normalize o isRoot).enumValues?.getD [] = n.listedValues := by
  have hnormal : (n.normalize o isRoot).keyword? "enum" =
      (n.prepared o isRoot).keyword? "enum" := by
    rw [normalize_eq]
    split
    · exact keyword?_normalizeBounds _ (by decide) (by decide) (by decide) _ o
    · rfl
  have hsame : ∀ keyword ∈ ["const", "enum"],
      (((n.withDescriptions (keepsDescription o.descriptions isRoot)).escapeDescription
        ).dropNullType).keyword? keyword = n.keyword? keyword := by
    intro keyword hkeyword
    simp only [List.mem_cons, List.not_mem_nil, or_false] at hkeyword
    rcases hkeyword with rfl | rfl <;>
      rw [keyword?_dropNullType _ (by decide), keyword?_escapeDescription _ (by decide),
        keyword?_withDescriptions _ (by decide)]
  rw [enumValues?, hnormal, prepared, keyword?_defaultAdditionalProperties,
    keyword?_canonicalizeKeys _ (by decide), constantAsEnum, hsame "const" (by decide),
    listedValues]
  cases n.keyword? "const" with
  | some value => simp [keyword?, setKeyword, Json.array?]
  | none =>
    dsimp only
    rw [hsame "enum" (by decide), enumValues?]

end SchemaNode

namespace TypeGraph

/-- As many labels as there are values. -/
theorem length_customLabels? {names : Option Json} {count : Nat} {labels : List String}
    (h : customLabels? names count = some labels) : labels.length = count := by
  obtain ⟨values, -, h⟩ := Option.bind_eq_some_iff.1 h
  split at h
  · next hcount => exact (length_of_mapM_eq_some h).trans hcount
  · cases h

/-- **The entries of an enumeration** have distinct labels, and are those of the values. -/
theorem enumEntries?_spec {names : Option Json} {values : List Json} {entries : List EnumEntry}
    (h : enumEntries? names values = some entries) :
    (entries.map EnumEntry.label).Nodup ∧ entries.map EnumEntry.value = values := by
  unfold enumEntries? at h
  split at h
  · cases h
  · obtain ⟨labels, hlength, h⟩ : ∃ labels : List String, labels.length = values.length ∧
        (if labels.Nodup then some (List.zipWith EnumEntry.mk labels values) else none) =
          some entries := by
      dsimp only at h
      split at h
      · next labels hcustom => exact ⟨labels, length_customLabels? hcustom, h⟩
      · obtain ⟨labels, hlabels, h⟩ := Option.bind_eq_some_iff.1 h
        exact ⟨labels, length_of_mapM_eq_some hlabels, h⟩
    split at h
    · next hnodup =>
      cases h
      rw [← List.map_uncurry_zip_eq_zipWith, List.map_map, List.map_map]
      exact ⟨(List.map_fst_zip hlength.le).symm ▸ hnodup, List.map_snd_zip hlength.ge⟩
    · cases h

theorem declaredEntries?_spec {n : SchemaNode} {entries : List EnumEntry}
    (h : n.declaredEntries? = some entries) : n.standaloneName.isSome = true ∧
      (entries.map EnumEntry.label).Nodup ∧
      entries.map EnumEntry.value = n.enumValues?.getD [] := by
  unfold SchemaNode.declaredEntries? at h
  split at h
  · next hname => exact ⟨hname, enumEntries?_spec h⟩
  · cases h

/-! ### Kinds -/

/-- **A kind that tells its members apart.**  An enumeration is the one that the schema declares. -/
def KindApart (n : SchemaNode) : TypeKind → Prop
  | .record members _ => Field.Apart (shownFields members)
  | .enumeration entries => n.declaredEntries? = some entries
  | _ => True

section Kinds

variable {s : Growth} {g : SchemaGraph} {o : Options} {n : SchemaNode} {kind : TypeKind}

/-- Members that are made to be seen. -/
theorem AreMembers.keys_shownFields {make : String → SchemaId → TypeId → Member}
    {entries : Dict SchemaId} {members : List Member} (h : AreMembers s make entries members)
    {field : String → Option String}
    (hmake : ∀ key schema type, (make key schema type).isVisible = true ∧
      (make key schema type).field.key = field key) :
    (shownFields members).map Field.key = entries.keys.map field := by
  induction h with
  | nil => rfl
  | @cons entry m entries members hm _ ih =>
    obtain ⟨type, -, rfl⟩ := hm
    obtain ⟨hvisible, hkey⟩ := hmake entry.1 entry.2 type
    rw [shownFields, List.filter_cons_of_pos hvisible]
    exact congrArg₂ List.cons hkey ih

/-- Members that are made to be hidden. -/
theorem AreMembers.shownFields_eq_nil {make : String → SchemaId → TypeId → Member}
    {entries : Dict SchemaId} {members : List Member} (h : AreMembers s make entries members)
    (hmake : ∀ key schema type, (make key schema type).isVisible = false) :
    shownFields members = [] := by
  have hnone : ∀ m ∈ members, ¬ m.isVisible = true := by
    intro m hm
    obtain ⟨entry, -, type, -, rfl⟩ := exists_left_of_forall₂ h m hm
    rw [hmake]
    exact Bool.false_ne_true
  rw [shownFields, List.filter_eq_nil_iff.2 hnone, List.map_nil]

/-- **Behind its properties a class shows one index signature at most**: that of the only pattern,
which admits no other keys, or that of further properties. -/
theorem exists_keys_eq_replicate {patterns : List Member} {additional : Option TypeId}
    (hpatterns : AreMembers s (patternMember n) n.patternProperties patterns)
    (hadditional : IsFurther s n.additionalProperties additional) :
    ∃ count ≤ 1, (shownFields (patterns ++ additional.toList.map indexMember)).map Field.key =
      List.replicate count none := by
  have hindex : (shownFields (additional.toList.map indexMember)).map Field.key =
      List.replicate additional.toList.length none := by
    cases additional <;> rfl
  rw [shownFields_append, List.map_append, hindex]
  by_cases hsingle : isSinglePattern n = true
  · obtain ⟨hlength, hclosed⟩ : n.patternProperties.length = 1 ∧
        n.additionalProperties = some (.allowed false) := by
      simpa [isSinglePattern] using hsingle
    rw [hclosed] at hadditional
    have hnone : additional = none := hadditional
    have hpattern : (shownFields patterns).map Field.key =
        n.patternProperties.keys.map fun _ => none :=
      hpatterns.keys_shownFields fun key schema type => by
        simp [patternMember, Member.isVisible, Member.field, hsingle]
    refine ⟨1, Nat.le_refl 1, ?_⟩
    rw [hpattern, hnone, List.map_const', Dict.keys, List.length_map, hlength]
    rfl
  · have hpattern := hpatterns.shownFields_eq_nil fun key schema type => by
      simp [patternMember, Member.isVisible, hsingle]
    rw [hpattern]
    exact ⟨_, by cases additional <;> simp, rfl⟩

/-- **A class tells its members apart**, if the properties of its schema are distinct. -/
theorem IsRecordKind.apart (hn : n.DistinctProperties) {bases : List TypeId}
    (h : IsRecordKind s g o n bases kind) : KindApart n kind := by
  obtain ⟨properties, patterns, additional, unreachable, hproperties, hpatterns, hadditional,
    hunreachable, rfl⟩ := h
  refine Field.apart_of_nodup ?_
  have hshown : (shownFields properties).map Field.key = n.properties.keys.map some :=
    hproperties.keys_shownFields fun _ _ _ => ⟨rfl, rfl⟩
  have hhidden := hunreachable.shownFields_eq_nil fun _ _ _ => rfl
  obtain ⟨count, hcount, hrest⟩ := exists_keys_eq_replicate hpatterns hadditional
  rw [List.append_assoc properties, shownFields_append, shownFields_append, hhidden,
    List.append_nil, List.map_append, hshown, hrest, List.nodup_append]
  refine ⟨hn.map (Option.some_injective _), List.nodup_replicate.2 hcount, ?_⟩
  -- a property has a key, and an index signature has none
  intro key hkey other hother heq
  obtain ⟨name, -, rfl⟩ := List.mem_map.1 hkey
  cases heq.trans (List.eq_of_mem_replicate hother)

theorem IsArrayKind.apart (h : IsArrayKind s o n kind) : KindApart n kind := by
  unfold IsArrayKind at h
  split at h
  · obtain ⟨_, _, -, -, rfl⟩ := h
    split <;> trivial
  · obtain ⟨_, -, rfl⟩ := h
    trivial
  · obtain ⟨_, -, rfl⟩ := h
    split <;> trivial

theorem IsEnumKind.apart (h : IsEnumKind s n kind) : KindApart n kind := by
  unfold IsEnumKind at h
  split at h
  · next hentries =>
    subst h
    exact hentries
  · subst h
    trivial
  · obtain ⟨_, -, rfl⟩ := h
    trivial

/-- **Every shape tells its members apart**, and an enumeration is the one that the schema
declares. -/
theorem Shape.apart (hn : n.DistinctProperties) (h : Shape s g o n kind) : KindApart n kind := by
  cases h with
  | atom hatom => cases kind <;> trivial
  | record _ hkind => exact hkind.apart hn
  | array _ hkind => exact hkind.apart
  | values hkind => exact hkind.apart
  | operation hkind => cases kind <;> trivial

/-- **Every kind that is found among types tells its members apart.** -/
theorem Founded.apart (hg : ∀ schema, (g.node schema).DistinctProperties)
    (h : Founded s g o kind) : ∃ n, KindApart n kind := by
  obtain ⟨schema, hshape, -⟩ := h.exists_shape
  exact ⟨g.node schema, hshape.apart (hg schema)⟩

end Kinds

/-! ### Types of a graph -/

/-- **A graph whose types tell their members apart**: the fields that a class shows are told apart,
and so are the labels of an enumeration; if it is declared, then its values are those that its schema
lists. -/
structure TellsMembers (graph : SchemaGraph) (g : TypeGraph) : Prop where
  fields : ∀ id members bases, g.kind id = .record members bases →
    Field.Apart (shownFields members)
  labels : ∀ id entries, g.kind id = .enumeration entries →
    (entries.map EnumEntry.label).Nodup
  values : ∀ id name entries, g.name? id = some name → g.kind id = .enumeration entries →
    ∃ schema < graph.size, (g.node id).origin = some (graph.node schema).pointer ∧
      entries.map EnumEntry.value = (graph.node schema).listedValues

/-- **An enumeration with a name is what its schema lists.** -/
theorem exists_schema_of_enumeration {g : SchemaGraph} {o : Options} (hg : g.InRange)
    (hkeys : ∀ schema, (g.node schema).DistinctProperties) {id : TypeId} {name : String}
    {entries : List EnumEntry} (hname : (ofSchema g o).name? id = some name)
    (hkind : (ofSchema g o).kind id = .enumeration entries) :
    ∃ schema < g.size, ((ofSchema g o).node id).origin = some (g.node schema).pointer ∧
      entries.map EnumEntry.value = (g.node schema).enumValues?.getD [] := by
  -- what has a name is the type of a schema
  obtain ⟨schema, hassigns⟩ : ∃ schema, (made g o).Assigns schema id := by
    refine (part_or_assigned o hg.root hg.children id).resolve_left ?_
    rintro ⟨kind, hnode⟩
    rw [name?, hnode] at hname
    cases hname
  have hapart := (isKind_of_assigns hg.root hg.children hassigns).shape.apart (hkeys schema)
  rw [hkind] at hapart
  obtain ⟨hnamed, -, hvalues⟩ := declaredEntries?_spec hapart
  refine ⟨schema, Nat.not_le.1 fun hle => ?_, ?_, hvalues⟩
  · rw [SchemaGraph.node, Array.getElem?_eq_none hle] at hnamed
    cases hnamed
  · rw [node_of_assigns hg.root hg.children hassigns]
    rfl

section Graphs

variable {graph : SchemaGraph} {name : String} {o : Options}

/-- **The types of a normal graph tell their members apart.** -/
theorem tellsMembers_ofSchema (hgraph : graph.InRange)
    (hkeys : ∀ id, ((graph.normalize name o).node id).DistinctProperties) :
    TellsMembers graph (ofSchema (graph.normalize name o) o) := by
  have hnormal := hgraph.normalize name o
  have hfounded := fun id => (founded_kind o hnormal.root hnormal.children id).apart hkeys
  refine ⟨fun id members bases hkind => ?_, fun id entries hkind => ?_,
    fun id other entries hname hkind => ?_⟩
  · obtain ⟨n, hn⟩ := hfounded id
    rw [hkind] at hn
    exact hn
  · obtain ⟨n, hn⟩ := hfounded id
    rw [hkind] at hn
    exact (declaredEntries?_spec hn).2.1
  · obtain ⟨schema, hlt, horigin, hvalues⟩ := exists_schema_of_enumeration hnormal hkeys hname hkind
    rw [SchemaGraph.size_normalize] at hlt
    have hsame := SchemaGraph.node_normalize name o hlt
    have hpointer : ((graph.normalize name o).node schema).pointer =
        (graph.node schema).pointer := by
      rw [hsame]
      exact congrArg Prod.fst
        (SchemaNode.fixed_normalize o (schema = graph.root) (graph.node schema))
    have hnamed : ∀ (n : SchemaNode) (name : Option String),
        ({ n with standaloneName := name }).enumValues? = n.enumValues? := fun _ _ => rfl
    refine ⟨schema, hlt, horigin.trans (congrArg some hpointer), hvalues.trans ?_⟩
    rw [hsame, hnamed, SchemaNode.enumValues?_normalize]

/-- **Optimizing keeps members apart**: it makes no classes and no enumerations, and takes names away
where it makes references. -/
theorem TellsMembers.optimize {g h : TypeGraph} (hg : TellsMembers graph g)
    (hok : g.optimize o = .ok h) : TellsMembers graph h := by
  have horigin : ∀ id, (h.node id).origin = (g.node id).origin := fun id => by
    rw [(passed_optimize hok).node id]
  obtain ⟨-, rfl⟩ := (optimize_eq_ok_iff g h o).1 hok
  generalize hrs : (g.simplify o).replacements o = rs at horigin
  -- a kind that is not an operation and not a reference has been there before
  have hkind : ∀ id kind, (rs.foldl replace (g.simplify o)).kind id = kind →
      ¬ TypeKind.Simplified kind → (∀ target, kind ≠ .reference target) → g.kind id = kind := by
    rintro id kind rfl hsimple hreference
    by_cases hreplaced : IsReplaced rs id
    · rcases Nat.lt_or_ge id (g.simplify o).size with hlt | hge
      · obtain ⟨r, -, -, hr⟩ := kind_foldl_replace_of_replaced hlt hreplaced
        exact absurd hr (hreference r.target)
      · refine absurd ?_ hsimple
        rw [← size_foldl_replace _ rs] at hge
        rw [TypeGraph.kind, TypeGraph.node, Array.getElem?_eq_none hge]
        exact .any
    · rw [kind_foldl_replace_of_not hreplaced] at hsimple ⊢
      rcases kind_simplify g o id with hsame | ⟨-, hmade⟩
      · exact hsame.symm
      · exact absurd hmade hsimple
  have hname : ∀ id name, (rs.foldl replace (g.simplify o)).name? id = some name →
      g.name? id = some name := by
    intro id name hname
    rw [← name?_simplify g o id]
    exact (name?_foldl_replace_eq_some.1 hname).2
  exact {
    fields := fun id members bases hrecord =>
      hg.fields id members bases (hkind id _ hrecord (fun h => by cases h) fun _ h => by cases h)
    labels := fun id entries henum =>
      hg.labels id entries (hkind id _ henum (fun h => by cases h) fun _ h => by cases h)
    values := fun id other entries hnamed henum => by
      rw [horigin]
      exact hg.values id other entries (hname id other hnamed)
        (hkind id _ henum (fun h => by cases h) fun _ h => by cases h) }

end Graphs

end TypeGraph

/-- **The types of a compilation tell their members apart**, where no document has an object with a
key twice. -/
theorem tellsMembers_typesOf {schema : Json} {name : String} {o : Options} {source : DocumentSource}
    (hschema : schema.hasDistinctKeys = true)
    (hsource : ∀ uri value, source.fetch uri = .ok value → value.hasDistinctKeys = true)
    {graph : SchemaGraph} (hgraph : linkedGraph schema o source = .ok graph) {types : TypeGraph}
    (htypes : typesOf graph name o = .ok types) : types.TellsMembers graph := by
  obtain ⟨b, hb⟩ := SchemaGraph.exists_bundle hgraph
  have hkeys := SchemaGraph.distinctProperties_normalize hschema hsource hgraph name
  exact (TypeGraph.tellsMembers_ofSchema (SchemaGraph.inRange_of_ofBundle hb) hkeys).optimize htypes

end SchemaTypings
