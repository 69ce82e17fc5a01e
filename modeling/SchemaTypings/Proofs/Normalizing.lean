import SchemaTypings.Proofs.Linking
import SchemaTypings.SchemaGraph.Naming

/-! # What normalization leaves alone

The rules of normalization rewrite keywords and rearrange parts.  None of them gives a schema a part
that it did not have, and none touches the keywords that names are taken from.
-/
namespace SchemaTypings

namespace SchemaNode

/-! ### Parts -/

@[simp] theorem children_setKeyword (n : SchemaNode) (keyword : String) (value : Json) :
    (n.setKeyword keyword value).children = n.children := rfl

@[simp] theorem children_dropKeyword (n : SchemaNode) (keyword : String) :
    (n.dropKeyword keyword).children = n.children := rfl

@[simp] theorem children_withDescriptions (kept : Bool) (n : SchemaNode) :
    (n.withDescriptions kept).children = n.children := by
  unfold withDescriptions
  split <;> rfl

@[simp] theorem children_escapeDescription (n : SchemaNode) :
    n.escapeDescription.children = n.children := by
  unfold escapeDescription
  split <;> rfl

@[simp] theorem children_dropNullType (n : SchemaNode) :
    n.dropNullType.children = n.children := by
  unfold dropNullType
  split <;> rfl

@[simp] theorem children_constantAsEnum (n : SchemaNode) :
    n.constantAsEnum.children = n.children := by
  unfold constantAsEnum
  split <;> rfl

@[simp] theorem children_tagBounds (n : SchemaNode) : n.tagBounds.children = n.children := by
  unfold tagBounds
  split <;> rfl

@[simp] theorem children_withBounds (written kept : Bounds) (n : SchemaNode) :
    (n.withBounds written kept).children = n.children := by
  unfold withBounds
  split <;> rfl

/-- Rewriting keys at most drops properties. -/
theorem mem_values_canonicalProperties {rules : List KeyRule} {properties : Dict SchemaId}
    {part : SchemaId} (h : part ∈ (canonicalProperties rules properties).values) :
    part ∈ properties.values := by
  have hfold : ∀ (entries done : Dict SchemaId), part ∈ (entries.foldl (fun done entry =>
      let canonical := canonicalKey rules entry.1
      if Dict.contains done canonical then done else Dict.insert done canonical entry.2)
        done).values → part ∈ done.values ∨ part ∈ entries.values := by
    intro entries
    induction entries with
    | nil => exact fun done h => Or.inl h
    | cons entry rest ih =>
      intro done h
      rcases ih _ h with h | h
      · simp only at h
        split at h
        · exact Or.inl h
        · rcases Dict.mem_values_insert h with h | h
          · exact Or.inl h
          · exact Or.inr (h ▸ List.mem_cons_self ..)
      · exact Or.inr (List.mem_cons_of_mem _ h)
  exact (hfold properties [] h).resolve_left (by simp [Dict.values])

theorem mem_children_canonicalizeKeys {rules : List KeyRule} {n : SchemaNode} {part : SchemaId}
    (h : part ∈ (n.canonicalizeKeys rules).children) : part ∈ n.children := by
  unfold canonicalizeKeys at h
  split at h
  · exact h
  · have hkeys : (canonicalKeyName rules (canonicalRequired rules
        { n with properties := canonicalProperties rules n.properties })).children =
        { n with properties := canonicalProperties rules n.properties }.children := by
      unfold canonicalKeyName canonicalRequired
      split <;> split <;> rfl
    rw [hkeys] at h
    simp only [children, List.mem_append] at h ⊢
    grind [mem_values_canonicalProperties]

@[simp] theorem children_defaultAdditionalProperties (value : Bool) (n : SchemaNode) :
    (n.defaultAdditionalProperties value).children = n.children := by
  unfold defaultAdditionalProperties
  split
  · next h =>
    simp only [Bool.and_eq_true, Option.isNone_iff_eq_none] at h
    simp only [children, h.1.1, Additional.ids]
  · rfl

theorem mem_children_expandItems {b : Bounds} {n : SchemaNode} {part : SchemaId}
    (h : part ∈ (n.expandItems b).children) : part ∈ n.children := by
  unfold expandItems at h
  split at h
  · next item hitem =>
    split at h
    · have hreplicate : ∀ count, part ∈ List.replicate count item → part = item :=
        fun _ hpart => List.eq_of_mem_replicate hpart
      have hspread : part ∈ Additional.ids (if b.max.isNone then some (.schema item)
          else n.additionalItems) → part = item ∨ part ∈ Additional.ids n.additionalItems := by
        split
        · exact fun hpart => Or.inl (List.mem_singleton.1 hpart)
        · exact Or.inr
      simp only [children, List.mem_append, Items.ids, hitem] at h ⊢
      grind
    · exact h
  · exact h

theorem mem_children_truncateItems {b : Bounds} {n : SchemaNode} {part : SchemaId}
    (h : part ∈ (n.truncateItems b).children) : part ∈ n.children := by
  unfold truncateItems at h
  split at h
  · next ids max hids _ =>
    have htake : part ∈ ids.take max → part ∈ ids := List.mem_of_mem_take
    simp only [children, List.mem_append, Items.ids, hids] at h ⊢
    grind
  · exact h

theorem mem_children_normalizeBounds {kept : Bool} {o : Options} {n : SchemaNode}
    {part : SchemaId} (h : part ∈ (n.normalizeBounds kept o).children) : part ∈ n.children := by
  simp only [normalizeBounds] at h
  have htag : (if kept then n.tagBounds else n).children = n.children := by
    split
    · exact children_tagBounds n
    · rfl
  rw [← htag]
  generalize (if kept then n.tagBounds else n) = m at h ⊢
  split at h
  · exact h
  · have h := mem_children_expandItems (mem_children_truncateItems h)
    rwa [children_withBounds] at h

/-- **Normalization gives a schema no part that it did not have.** -/
theorem mem_children_normalize {o : Options} {isRoot : Bool} {n : SchemaNode} {part : SchemaId}
    (h : part ∈ (n.normalize o isRoot).children) : part ∈ n.children := by
  unfold normalize at h
  have hfirst : ∀ rules, part ∈ ((((n.withDescriptions
      (keepsDescription o.descriptions isRoot)).escapeDescription.dropNullType.constantAsEnum
        ).canonicalizeKeys rules).defaultAdditionalProperties
          o.additionalPropertiesDefault).children → part ∈ n.children := by
    intro rules h
    rw [children_defaultAdditionalProperties] at h
    simpa using mem_children_canonicalizeKeys h
  simp only at h
  split at h
  · exact hfirst _ (mem_children_normalizeBounds h)
  · exact hfirst _ h

/-! ### Keywords -/

/-- The node before its array bounds are turned into tuples. -/
def prepared (o : Options) (isRoot : Bool) (n : SchemaNode) : SchemaNode :=
  ((n.withDescriptions (keepsDescription o.descriptions isRoot)
    ).escapeDescription.dropNullType.constantAsEnum.canonicalizeKeys o.keyRules
    ).defaultAdditionalProperties o.additionalPropertiesDefault

/-- Array bounds come last. -/
theorem normalize_eq (o : Options) (isRoot : Bool) (n : SchemaNode) :
    n.normalize o isRoot = if (n.prepared o isRoot).isArrayShaped then
      (n.prepared o isRoot).normalizeBounds (keepsDescription o.descriptions isRoot) o
    else n.prepared o isRoot := rfl

/-- The keywords that are written or dropped before array bounds. -/
def preparedKeywords : List String := ["description", "type", "const", "enum", "required"]

/-- The keywords that normalization writes or drops. -/
def rewrittenKeywords : List String :=
  ["description", "type", "const", "enum", "required", "minItems", "maxItems"]

theorem keyword?_setKeyword (n : SchemaNode) {keyword key : String} (value : Json)
    (h : keyword ≠ key) : (n.setKeyword keyword value).keyword? key = n.keyword? key :=
  Dict.get?_insert_of_ne n.keywords value h

theorem keyword?_dropKeyword (n : SchemaNode) {keyword key : String} (h : keyword ≠ key) :
    (n.dropKeyword keyword).keyword? key = n.keyword? key :=
  Dict.get?_erase_of_ne n.keywords h

section Keywords

variable {key : String} (n : SchemaNode)

theorem keyword?_withDescriptions (h : "description" ≠ key) (kept : Bool) :
    (n.withDescriptions kept).keyword? key = n.keyword? key := by
  unfold withDescriptions
  split
  · rfl
  · exact keyword?_dropKeyword n h

theorem keyword?_escapeDescription (h : "description" ≠ key) :
    n.escapeDescription.keyword? key = n.keyword? key := by
  unfold escapeDescription
  split
  · exact keyword?_setKeyword n _ h
  · rfl

theorem keyword?_dropNullType (h : "type" ≠ key) :
    n.dropNullType.keyword? key = n.keyword? key := by
  unfold dropNullType
  split
  · exact keyword?_dropKeyword n h
  · rfl

theorem keyword?_constantAsEnum (hconst : "const" ≠ key) (henum : "enum" ≠ key) :
    n.constantAsEnum.keyword? key = n.keyword? key := by
  unfold constantAsEnum
  split
  · rw [keyword?_setKeyword _ _ henum, keyword?_dropKeyword n hconst]
  · rfl

theorem keyword?_canonicalizeKeys (h : "required" ≠ key) (rules : List KeyRule) :
    (n.canonicalizeKeys rules).keyword? key = n.keyword? key := by
  have hname : ∀ m : SchemaNode, (m.canonicalKeyName rules).keyword? key = m.keyword? key := by
    intro m
    unfold canonicalKeyName
    split <;> rfl
  unfold canonicalizeKeys
  split
  · rfl
  · rw [hname]
    unfold canonicalRequired
    split
    · rw [keyword?_setKeyword _ _ h]
      rfl
    · rfl

theorem keyword?_defaultAdditionalProperties (value : Bool) :
    (n.defaultAdditionalProperties value).keyword? key = n.keyword? key := by
  unfold defaultAdditionalProperties
  split <;> rfl

theorem keyword?_tagBounds (h : "description" ≠ key) : n.tagBounds.keyword? key = n.keyword? key := by
  unfold tagBounds
  split
  · rfl
  · exact keyword?_setKeyword n _ h

theorem keyword?_prepared (hkey : key ∉ preparedKeywords) (o : Options) (isRoot : Bool) :
    (n.prepared o isRoot).keyword? key = n.keyword? key := by
  have hne : ∀ keyword ∈ preparedKeywords, keyword ≠ key := fun _ h heq => hkey (heq ▸ h)
  rw [prepared, keyword?_defaultAdditionalProperties,
    keyword?_canonicalizeKeys _ (hne _ (by decide)),
    keyword?_constantAsEnum _ (hne _ (by decide)) (hne _ (by decide)),
    keyword?_dropNullType _ (hne _ (by decide)), keyword?_escapeDescription _ (hne _ (by decide)),
    keyword?_withDescriptions _ (hne _ (by decide))]

/-- **Bounds change three keywords**: the two of the bounds, and the description. -/
theorem keyword?_normalizeBounds (hdescription : "description" ≠ key) (hmin : "minItems" ≠ key)
    (hmax : "maxItems" ≠ key) (kept : Bool) (o : Options) :
    (n.normalizeBounds kept o).keyword? key = n.keyword? key := by
  have hexpand : ∀ (b : Bounds) (m : SchemaNode),
      (truncateItems b (expandItems b m)).keyword? key = m.keyword? key := by
    intro b m
    unfold truncateItems expandItems
    repeat' split
    all_goals rfl
  have hbounds : ∀ (written kept : Bounds) (m : SchemaNode),
      (m.withBounds written kept).keyword? key = m.keyword? key := by
    intro written kept m
    unfold withBounds
    split
    · exact keyword?_setKeyword m _ hmin
    · rw [keyword?_dropKeyword _ hmax, keyword?_setKeyword m _ hmin]
  have htag : (if kept then n.tagBounds else n).keyword? key = n.keyword? key := by
    split
    · exact keyword?_tagBounds n hdescription
    · rfl
  simp only [normalizeBounds]
  rw [← htag]
  generalize (if kept then n.tagBounds else n) = m
  split
  · rw [keyword?_dropKeyword _ hmax, keyword?_dropKeyword _ hmin]
  · rw [hexpand, hbounds]

/-- **Normalization leaves all other keywords alone.** -/
theorem keyword?_normalize (hkey : key ∉ rewrittenKeywords) (o : Options) (isRoot : Bool) :
    (n.normalize o isRoot).keyword? key = n.keyword? key := by
  have hne : ∀ keyword ∈ rewrittenKeywords, keyword ≠ key := fun _ h heq => hkey (heq ▸ h)
  have hsub : ∀ keyword ∈ preparedKeywords, keyword ∈ rewrittenKeywords := by decide
  have hprepared := keyword?_prepared n (fun h => hkey (hsub key h)) o isRoot
  rw [normalize_eq]
  split
  · rw [keyword?_normalizeBounds _ (hne _ (by decide)) (hne _ (by decide)) (hne _ (by decide)),
      hprepared]
  · exact hprepared

end Keywords

/-! ### Fields that stay -/

/-- **What normalization writes**: the key and the hint, the keywords, the properties and what is
said of further ones, and the items.  All else stays. -/
def Rewrites (n m : SchemaNode) : Prop :=
  m = { n with
    keyName := m.keyName
    nameHint := m.nameHint
    keywords := m.keywords
    properties := m.properties
    additionalProperties := m.additionalProperties
    items := m.items
    additionalItems := m.additionalItems }

theorem Rewrites.trans {n m k : SchemaNode} (hnm : Rewrites n m) (hmk : Rewrites m k) :
    Rewrites n k := by
  unfold Rewrites at *
  rw [hmk, hnm]

theorem rewrites_canonicalizeKeys (rules : List KeyRule) (n : SchemaNode) :
    Rewrites n (n.canonicalizeKeys rules) := by
  unfold canonicalizeKeys canonicalKeyName canonicalRequired
  repeat' split
  all_goals rfl

theorem rewrites_normalizeBounds (kept : Bool) (o : Options) (n : SchemaNode) :
    Rewrites n (n.normalizeBounds kept o) := by
  have htag : Rewrites n (if kept then n.tagBounds else n) := by
    unfold tagBounds
    repeat' split
    all_goals rfl
  refine htag.trans ?_
  simp only [normalizeBounds]
  generalize (if kept then n.tagBounds else n) = m
  split
  · rfl
  · generalize (⟨m.minItems?.getD 0, m.maxItems?⟩ : Bounds) = written
    generalize written.capped o.maxItems = b
    have hbounds : Rewrites m (m.withBounds written b) := by
      unfold withBounds
      split <;> rfl
    refine hbounds.trans ?_
    unfold truncateItems expandItems
    repeat' split
    all_goals rfl

theorem rewrites_normalize (o : Options) (isRoot : Bool) (n : SchemaNode) :
    Rewrites n (n.normalize o isRoot) := by
  have htexts : Rewrites n (n.withDescriptions (keepsDescription o.descriptions isRoot)
      ).escapeDescription.dropNullType.constantAsEnum := by
    unfold constantAsEnum dropNullType escapeDescription withDescriptions
    repeat' split
    all_goals rfl
  have hdefault : ∀ m : SchemaNode,
      Rewrites m (m.defaultAdditionalProperties o.additionalPropertiesDefault) := by
    intro m
    unfold defaultAdditionalProperties
    split <;> rfl
  have hprepared : Rewrites n (n.prepared o isRoot) :=
    (htexts.trans (rewrites_canonicalizeKeys _ _)).trans (hdefault _)
  rw [normalize_eq]
  split
  · exact hprepared.trans (rewrites_normalizeBounds _ o _)
  · exact hprepared

/-- **What normalization never changes**: the place of a node, its key among definitions, its own
definitions, and its name. -/
def fixed (n : SchemaNode) : String × Option String × Dict SchemaId × Option String :=
  (n.pointer, n.definitionName, n.definitions, n.standaloneName)

theorem fixed_normalize (o : Options) (isRoot : Bool) (n : SchemaNode) :
    (n.normalize o isRoot).fixed = n.fixed :=
  (congrArg fixed (rewrites_normalize o isRoot n)).trans rfl

theorem parent_normalize (o : Options) (isRoot : Bool) (n : SchemaNode) :
    (n.normalize o isRoot).parent = n.parent :=
  (congrArg parent (rewrites_normalize o isRoot n)).trans rfl

end SchemaNode

namespace SchemaGraph

/-! ### Graphs -/

@[simp] theorem size_normalizeNodes (o : Options) (g : SchemaGraph) :
    (g.normalizeNodes o).size = g.size := by
  simp [size, normalizeNodes]

@[simp] theorem root_normalizeNodes (o : Options) (g : SchemaGraph) :
    (g.normalizeNodes o).root = g.root := rfl

@[simp] theorem cycles_normalizeNodes (o : Options) (g : SchemaGraph) :
    (g.normalizeNodes o).cycles = g.cycles := rfl

theorem node_normalizeNodes (o : Options) (g : SchemaGraph) {id : SchemaId} (hid : id < g.size) :
    (g.normalizeNodes o).node id = (g.node id).normalize o (id = g.root) := by
  have hid' : id < g.nodes.size := hid
  simp [node, normalizeNodes, hid']

theorem lt_size_of_mem_children {g : SchemaGraph} {id part : SchemaId}
    (h : part ∈ g.children id) : id < g.size := by
  refine Nat.not_le.1 fun hle => ?_
  rw [children, node, Array.getElem?_eq_none hle] at h
  cases h

theorem mem_children_normalizeNodes {o : Options} {g : SchemaGraph} {id part : SchemaId}
    (h : part ∈ (g.normalizeNodes o).children id) : part ∈ g.children id := by
  have hid : id < g.size := size_normalizeNodes o g ▸ lt_size_of_mem_children h
  rw [children, node_normalizeNodes o g hid] at h
  exact SchemaNode.mem_children_normalize h

theorem fixed_normalizeNodes (o : Options) (g : SchemaGraph) (id : SchemaId) :
    ((g.normalizeNodes o).node id).fixed = (g.node id).fixed := by
  rcases Nat.lt_or_ge id g.size with hid | hid
  · rw [node_normalizeNodes o g hid, SchemaNode.fixed_normalize]
  · have hnone : (g.normalizeNodes o).nodes[id]? = none :=
      Array.getElem?_eq_none (Nat.le_trans (Nat.le_of_eq (size_normalizeNodes o g)) hid)
    rw [node, node, hnone, Array.getElem?_eq_none hid]

theorem standaloneName_normalizeNodes {g : SchemaGraph}
    (hg : ∀ id, (g.node id).standaloneName = none) (o : Options) (id : SchemaId) :
    ((g.normalizeNodes o).node id).standaloneName = none :=
  (congrArg (·.2.2.2) (fixed_normalizeNodes o g id)).trans (hg id)

/-- The texts from which names are made are left alone. -/
theorem keywordText?_normalizeNodes (o : Options) (g : SchemaGraph) {id : SchemaId}
    (hid : id < g.size) (key : String) (hkey : key ∉ SchemaNode.rewrittenKeywords) :
    ((g.normalizeNodes o).node id).keywordText? key = (g.node id).keywordText? key := by
  rw [node_normalizeNodes o g hid, SchemaNode.keywordText?, SchemaNode.keywordText?,
    SchemaNode.keyword?_normalize _ hkey]

/-- The name that a schema gives itself is left alone. -/
theorem explicitName?_normalizeNodes (o : Options) (g : SchemaGraph) {id : SchemaId}
    (hid : id < g.size) : (g.normalizeNodes o).explicitName? id = g.explicitName? id := by
  have hfixed := fixed_normalizeNodes o g id
  have hpointer : ((g.normalizeNodes o).node id).pointer = (g.node id).pointer :=
    congrArg (·.1) hfixed
  have hkey : ((g.normalizeNodes o).node id).definitionName = (g.node id).definitionName :=
    congrArg (·.2.1) hfixed
  have hreference : (g.normalizeNodes o).referenceName? id = g.referenceName? id := by
    rw [referenceName?, referenceName?, hpointer]
    rfl
  simp only [explicitName?, SchemaNode.title?, hkey, hreference,
    keywordText?_normalizeNodes o g hid "title" (by decide),
    keywordText?_normalizeNodes o g hid "$id" (by decide)]

/-- The name of the root is derived from keywords that normalization leaves alone. -/
theorem derivableName?_root_normalizeNodes (o : Options) (g : SchemaGraph) (rootName : String)
    (hroot : g.root < g.size) :
    (g.normalizeNodes o).derivableName? g.root rootName = g.derivableName? g.root rootName := by
  have htext := keywordText?_normalizeNodes o g hroot
  simp only [derivableName?, root_normalizeNodes, if_true, SchemaNode.title?,
    htext "title" (by decide), htext "$id" (by decide), htext "name" (by decide)]

end SchemaGraph
end SchemaTypings
