import SchemaTypings.Proofs.ItemBounds
import SchemaTypings.Proofs.NodeMaps
import SchemaTypings.TypeGraph.OfSchema

/-! # Graphs without descriptions

A description is a keyword like others: it is dropped or escaped, and bounds of arrays are written
into it.  Nothing else in a schema is changed with it, no name is taken from it, and no kind of type
is made from it.  So the normal forms of a graph under two choices of descriptions are one graph but
for descriptions, and the kinds of their types are made alike.
-/
namespace SchemaTypings

namespace SchemaNode

/-- What a schema says apart from its description. -/
def undescribed (n : SchemaNode) : SchemaNode := n.dropKeyword "description"

/-! ### What is said apart from descriptions -/

section Said

variable (n : SchemaNode)

theorem keyword?_undescribed {key : String} (h : "description" ≠ key) :
    n.undescribed.keyword? key = n.keyword? key := keyword?_dropKeyword n h

theorem keywordText?_undescribed {key : String} (h : "description" ≠ key) :
    n.undescribed.keywordText? key = n.keywordText? key := by
  rw [keywordText?, keyword?_undescribed n h, keywordText?]

@[simp] theorem types_undescribed : n.undescribed.types = n.types := by
  simp only [types, n.keyword?_undescribed (show "description" ≠ "type" by decide)]

@[simp] theorem enumValues?_undescribed : n.undescribed.enumValues? = n.enumValues? := by
  simp only [enumValues?, n.keyword?_undescribed (show "description" ≠ "enum" by decide)]

@[simp] theorem required_undescribed : n.undescribed.required = n.required := by
  simp only [required, n.keyword?_undescribed (show "description" ≠ "required" by decide)]

@[simp] theorem isRequired_undescribed : n.undescribed.isRequired = n.isRequired := by
  simp only [isRequired, n.keyword?_undescribed (show "description" ≠ "required" by decide)]

@[simp] theorem minItems?_undescribed : n.undescribed.minItems? = n.minItems? := by
  simp only [minItems?, n.keyword?_undescribed (show "description" ≠ "minItems" by decide)]

@[simp] theorem maxItems?_undescribed : n.undescribed.maxItems? = n.maxItems? := by
  simp only [maxItems?, n.keyword?_undescribed (show "description" ≠ "maxItems" by decide)]

@[simp] theorem customType?_undescribed : n.undescribed.customType? = n.customType? :=
  n.keywordText?_undescribed (by decide)

@[simp] theorem isClassShaped_undescribed : n.undescribed.isClassShaped = n.isClassShaped := rfl

@[simp] theorem isEnumShaped_undescribed : n.undescribed.isEnumShaped = n.isEnumShaped := by
  simp only [isEnumShaped, enumValues?_undescribed]

@[simp] theorem isObjectShaped_undescribed :
    n.undescribed.isObjectShaped = n.isObjectShaped := by
  simp only [isObjectShaped, hasType, types_undescribed, isClassShaped_undescribed]
  rfl

@[simp] theorem isArrayShaped_undescribed : n.undescribed.isArrayShaped = n.isArrayShaped := by
  simp only [isArrayShaped, hasType, types_undescribed]
  rfl

end Said

theorem keepsNames_undescribed : KeepsNames undescribed where
  empty := rfl
  pointer := fun _ => rfl
  definitionName := fun _ => rfl
  nameHint := fun _ => rfl
  parent := fun _ => rfl
  standaloneName := fun _ => rfl
  title := fun n => n.keywordText?_undescribed (by decide)
  identity := fun n => n.keywordText?_undescribed (by decide)
  ownName := fun n => n.keywordText?_undescribed (by decide)
  isClassShaped := isClassShaped_undescribed
  isEnumShaped := isEnumShaped_undescribed
  assign := fun _ _ => rfl

/-! ### Normal forms -/

section Normal

variable (n : SchemaNode)

theorem undescribed_setKeyword {key : String} (h : key ≠ "description") (value : Json) :
    (n.setKeyword key value).undescribed = n.undescribed.setKeyword key value := by
  simp only [undescribed, setKeyword, dropKeyword, Dict.erase_insert_of_ne _ h]

theorem undescribed_dropKeyword (key : String) :
    (n.dropKeyword key).undescribed = n.undescribed.dropKeyword key := by
  simp only [undescribed, dropKeyword, Dict.erase_comm _ key]

/-- What is written into the description is no other keyword. -/
theorem undescribed_setKeyword_description (value : Json) :
    (n.setKeyword "description" value).undescribed = n.undescribed := by
  simp only [undescribed, setKeyword, dropKeyword, Dict.erase_insert]

theorem undescribed_withDescriptions (kept : Bool) :
    (n.withDescriptions kept).undescribed = n.undescribed := by
  unfold withDescriptions
  split
  · rfl
  · simp only [undescribed, dropKeyword, Dict.erase_erase_self]

theorem undescribed_escapeDescription : n.escapeDescription.undescribed = n.undescribed := by
  unfold escapeDescription
  split
  · exact undescribed_setKeyword_description ..
  · rfl

theorem undescribed_tagBounds : n.tagBounds.undescribed = n.undescribed := by
  unfold tagBounds
  split
  · rfl
  · exact undescribed_setKeyword_description ..

theorem undescribed_dropNullType : n.dropNullType.undescribed = n.undescribed.dropNullType := by
  have hnull : n.undescribed.listsOnlyNull = n.listsOnlyNull := by
    rw [listsOnlyNull, enumValues?_undescribed, listsOnlyNull]
  rw [dropNullType, dropNullType, hnull, types_undescribed]
  split
  · exact undescribed_dropKeyword ..
  · rfl

theorem undescribed_constantAsEnum :
    n.constantAsEnum.undescribed = n.undescribed.constantAsEnum := by
  simp only [constantAsEnum, n.keyword?_undescribed (show "description" ≠ "const" by decide)]
  split
  · rw [undescribed_setKeyword _ (by decide), undescribed_dropKeyword]
  · rfl

theorem undescribed_canonicalizeKeys (rules : List KeyRule) :
    (n.canonicalizeKeys rules).undescribed = n.undescribed.canonicalizeKeys rules := by
  have hkeys : ∀ m : SchemaNode,
      (m.canonicalRequired rules).undescribed = m.undescribed.canonicalRequired rules := by
    intro m
    have hne : "description" ≠ "required" := by decide
    simp only [canonicalRequired, m.keyword?_undescribed hne]
    split
    · exact undescribed_setKeyword _ (by decide) _
    · rfl
  have hname : ∀ m : SchemaNode,
      (m.canonicalKeyName rules).undescribed = m.undescribed.canonicalKeyName rules := by
    intro m
    unfold canonicalKeyName
    cases hkey : m.keyName with
    | none =>
      rw [show m.undescribed.keyName = none from hkey]
    | some key =>
      rw [show m.undescribed.keyName = some key from hkey]
      rfl
  unfold canonicalizeKeys
  split
  · rfl
  · rw [hname, hkeys]
    rfl

theorem undescribed_defaultAdditionalProperties (value : Bool) :
    (n.defaultAdditionalProperties value).undescribed =
      n.undescribed.defaultAdditionalProperties value := by
  simp only [defaultAdditionalProperties, isObjectShaped_undescribed]
  rw [show n.undescribed.additionalProperties = n.additionalProperties from rfl,
    show n.undescribed.patternProperties = n.patternProperties from rfl]
  split <;> rfl

theorem undescribed_prepared (o : Options) (isRoot : Bool) :
    (n.prepared o isRoot).undescribed = (n.undescribed.dropNullType.constantAsEnum.canonicalizeKeys
      o.keyRules).defaultAdditionalProperties o.additionalPropertiesDefault := by
  rw [prepared, undescribed_defaultAdditionalProperties, undescribed_canonicalizeKeys,
    undescribed_constantAsEnum, undescribed_dropNullType, undescribed_escapeDescription,
    undescribed_withDescriptions]

theorem undescribed_withBounds (written kept : Bounds) :
    (n.withBounds written kept).undescribed = n.undescribed.withBounds written kept := by
  unfold withBounds
  dsimp only
  split
  · exact undescribed_setKeyword _ (by decide) _
  · rw [undescribed_dropKeyword, undescribed_setKeyword _ (by decide)]

theorem undescribed_expandItems (b : Bounds) :
    (n.expandItems b).undescribed = n.undescribed.expandItems b := by
  unfold expandItems
  rw [show n.undescribed.items = n.items from rfl]
  repeat' split
  all_goals rfl

theorem undescribed_truncateItems (b : Bounds) :
    (n.truncateItems b).undescribed = n.undescribed.truncateItems b := by
  unfold truncateItems
  rw [show n.undescribed.items = n.items from rfl]
  split <;> rfl

/-- Bounds are described apart from the description as if they were not written into it. -/
theorem undescribed_normalizeBounds (kept : Bool) (o : Options) :
    (n.normalizeBounds kept o).undescribed = n.undescribed.normalizeBounds false o := by
  have hsame : (if kept then n.tagBounds else n).undescribed = n.undescribed := by
    split
    · exact n.undescribed_tagBounds
    · rfl
  simp only [normalizeBounds, Bool.false_eq_true, if_false]
  rw [← hsame]
  generalize (if kept then n.tagBounds else n) = m
  split
  · rw [undescribed_dropKeyword, undescribed_dropKeyword]
  · rw [undescribed_truncateItems, undescribed_expandItems, undescribed_withBounds,
      minItems?_undescribed, maxItems?_undescribed]

/-- **Apart from descriptions it makes no difference which of them are kept.** -/
theorem undescribed_normalize (o : Options) (d : Descriptions) (isRoot : Bool) :
    (n.normalize { o with descriptions := d } isRoot).undescribed =
      (n.normalize o isRoot).undescribed := by
  rw [normalize_eq, normalize_eq, isArrayShaped_prepared, isArrayShaped_prepared]
  split
  · rw [undescribed_normalizeBounds, undescribed_normalizeBounds, undescribed_prepared,
      undescribed_prepared]
    rfl
  · rw [undescribed_prepared, undescribed_prepared]

end Normal

end SchemaNode

namespace SchemaGraph

/-- What the schemas of a graph say apart from descriptions. -/
def undescribed (g : SchemaGraph) : SchemaGraph := g.mapNodes SchemaNode.undescribed

@[simp] theorem node_undescribed (g : SchemaGraph) (id : SchemaId) :
    g.undescribed.node id = (g.node id).undescribed := node_mapNodes rfl g id

@[simp] theorem size_undescribed (g : SchemaGraph) : g.undescribed.size = g.size :=
  size_mapNodes _ g

@[simp] theorem root_undescribed (g : SchemaGraph) : g.undescribed.root = g.root := rfl

/-- **Under two choices of descriptions a graph has normal forms that differ in them alone.** -/
theorem undescribed_normalize (g : SchemaGraph) (rootName : String) (o : Options)
    (d : Descriptions) :
    (g.normalize rootName { o with descriptions := d }).undescribed =
      (g.normalize rootName o).undescribed :=
  mapNodes_normalize SchemaNode.keepsNames_undescribed
    (fun n isRoot => n.undescribed_normalize o d isRoot) rootName g

end SchemaGraph

/-! ### Kinds -/

namespace TypeGraph

variable (visit : Visit) (g : SchemaGraph) (o : Options)

theorem recordKind_undescribed (n : SchemaNode) (bases : List TypeId) :
    recordKind visit g.undescribed o n.undescribed bases = recordKind visit g o n bases := by
  simp only [recordKind, SchemaGraph.node_undescribed, SchemaNode.isRequired_undescribed,
    SchemaNode.required_undescribed]
  rfl

theorem objectKind_undescribed (n : SchemaNode) :
    objectKind visit g.undescribed o n.undescribed = objectKind visit g o n := by
  simp only [objectKind, recordKind_undescribed, SchemaNode.isClassShaped_undescribed]

theorem arrayKind_undescribed (n : SchemaNode) :
    arrayKind visit o n.undescribed = arrayKind visit o n := by
  simp only [arrayKind, SchemaNode.minItems?_undescribed, SchemaNode.maxItems?_undescribed]
  rfl

theorem namedKind_undescribed (n : SchemaNode) (name : String) :
    namedKind visit g.undescribed o n.undescribed name = namedKind visit g o n name := by
  simp only [namedKind, objectKind_undescribed, arrayKind_undescribed]

theorem ownFacet_undescribed (n : SchemaNode) (bases : List TypeId) :
    ownFacet visit g.undescribed o n.undescribed bases = ownFacet visit g o n bases := by
  have henum : enumKind n.undescribed = enumKind n := by
    simp only [enumKind, SchemaNode.enumValues?_undescribed,
      n.keyword?_undescribed (show "description" ≠ "tsEnumNames" by decide)]
    rfl
  simp only [ownFacet, henum, recordKind_undescribed, objectKind_undescribed,
    arrayKind_undescribed, namedKind_undescribed, SchemaNode.types_undescribed,
    SchemaNode.isEnumShaped_undescribed, SchemaNode.isObjectShaped_undescribed,
    SchemaNode.isArrayShaped_undescribed]

theorem hasBases_undescribed (id : SchemaId) : hasBases g.undescribed id = hasBases g id := by
  simp only [hasBases, SchemaGraph.node_undescribed, SchemaNode.isEnumShaped_undescribed,
    SchemaNode.isClassShaped_undescribed]
  rfl

/-- **No kind is made from a description.** -/
theorem kindOf_undescribed (id : SchemaId) :
    kindOf visit g.undescribed o id = kindOf visit g o id := by
  have hfacets : facets visit g.undescribed o id = facets visit g o id := by
    simp only [facets, hasBases_undescribed, SchemaGraph.node_undescribed, ownFacet_undescribed]
    rfl
  simp only [kindOf, hfacets, SchemaGraph.node_undescribed, SchemaNode.customType?_undescribed]
  rfl

end TypeGraph
end SchemaTypings
