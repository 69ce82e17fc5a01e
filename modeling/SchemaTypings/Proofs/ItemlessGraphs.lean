import SchemaTypings.Proofs.ItemBounds
import SchemaTypings.Proofs.NodeMaps

/-! # Names do not depend on items

Names are given by what schemas say apart from items: two graphs that differ in items alone get the
same names.  So the normal forms of a graph under two caps differ in items alone.
-/
namespace SchemaTypings

namespace SchemaNode

/-! ### What is said apart from items -/

section Said

variable (n : SchemaNode)

theorem keywordText?_withoutItems {key : String} (hmin : "minItems" ≠ key)
    (hmax : "maxItems" ≠ key) : n.withoutItems.keywordText? key = n.keywordText? key := by
  rw [keywordText?, keyword?_withoutItems n hmin hmax, keywordText?]

@[simp] theorem types_withoutItems : n.withoutItems.types = n.types := by
  simp only [types, n.keyword?_withoutItems (show "minItems" ≠ "type" by decide)
    (show "maxItems" ≠ "type" by decide)]

@[simp] theorem enumValues?_withoutItems : n.withoutItems.enumValues? = n.enumValues? := by
  simp only [enumValues?, n.keyword?_withoutItems (show "minItems" ≠ "enum" by decide)
    (show "maxItems" ≠ "enum" by decide)]

@[simp] theorem required_withoutItems : n.withoutItems.required = n.required := by
  simp only [required, n.keyword?_withoutItems (show "minItems" ≠ "required" by decide)
    (show "maxItems" ≠ "required" by decide)]

@[simp] theorem isRequired_withoutItems : n.withoutItems.isRequired = n.isRequired := by
  simp only [isRequired, n.keyword?_withoutItems (show "minItems" ≠ "required" by decide)
    (show "maxItems" ≠ "required" by decide)]

@[simp] theorem title?_withoutItems : n.withoutItems.title? = n.title? :=
  n.keywordText?_withoutItems (by decide) (by decide)

@[simp] theorem customType?_withoutItems : n.withoutItems.customType? = n.customType? :=
  n.keywordText?_withoutItems (by decide) (by decide)

@[simp] theorem isClassShaped_withoutItems : n.withoutItems.isClassShaped = n.isClassShaped := rfl

@[simp] theorem isEnumShaped_withoutItems : n.withoutItems.isEnumShaped = n.isEnumShaped := by
  simp only [isEnumShaped, enumValues?_withoutItems]

@[simp] theorem isObjectShaped_withoutItems :
    n.withoutItems.isObjectShaped = n.isObjectShaped := by
  simp only [isObjectShaped, hasType, types_withoutItems, isClassShaped_withoutItems]
  rfl

end Said

theorem keepsNames_withoutItems : KeepsNames withoutItems where
  empty := rfl
  pointer := fun _ => rfl
  definitionName := fun _ => rfl
  nameHint := fun _ => rfl
  parent := fun _ => rfl
  standaloneName := fun _ => rfl
  title := title?_withoutItems
  identity := fun n => n.keywordText?_withoutItems (by decide) (by decide)
  ownName := fun n => n.keywordText?_withoutItems (by decide) (by decide)
  isClassShaped := isClassShaped_withoutItems
  isEnumShaped := isEnumShaped_withoutItems
  assign := fun _ _ => rfl

end SchemaNode

namespace SchemaGraph

/-- What the schemas of a graph say apart from items. -/
def withoutItems (g : SchemaGraph) : SchemaGraph :=
  { g with nodes := g.nodes.map SchemaNode.withoutItems }

@[simp] theorem node_withoutItems (g : SchemaGraph) (id : SchemaId) :
    g.withoutItems.node id = (g.node id).withoutItems := node_mapNodes rfl g id

/-- **Under two caps a graph has normal forms that differ in items alone.** -/
theorem withoutItems_normalize (g : SchemaGraph) (rootName : String) (o : Options) (cap : Int) :
    (g.normalize rootName (o.withCap cap)).withoutItems =
      (g.normalize rootName o).withoutItems :=
  mapNodes_normalize SchemaNode.keepsNames_withoutItems
    (fun n isRoot => n.withoutItems_normalize o isRoot cap) rootName g

end SchemaGraph
end SchemaTypings
