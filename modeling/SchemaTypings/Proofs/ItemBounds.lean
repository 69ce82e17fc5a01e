import SchemaTypings.Proofs.Naming
import SchemaTypings.Proofs.Normalizing

/-! # Array bounds in normal schemas

Normalization keeps the bounds of an array or drops them, and describes as many items as the bounds
that it keeps ask for.  Everything else that a schema says stays as it is, whatever the cap.
-/
namespace SchemaTypings

@[simp] theorem Json.nat?_ofNat (n : Nat) : (Json.ofNat n).nat? = some n := by
  simp [Json.ofNat, Json.nat?]

/-- The options with another cap. -/
def Options.withCap (o : Options) (cap : Int) : Options := { o with maxItems := cap }

namespace SchemaNode

/-! ### The bounds that are kept -/

namespace Bounds

/-- Bounds that are changed have no largest number. -/
theorem capped_eq_or (b : Bounds) (cap : Int) : b.capped cap = b ∨ (b.capped cap).max = none := by
  unfold capped
  dsimp only
  split <;> split <;> split <;> simp

/-- A largest number is only kept with the least one. -/
theorem capped_of_max {b : Bounds} {cap : Int} {max : Nat} (h : (b.capped cap).max = some max) :
    b.capped cap = b := by
  rcases b.capped_eq_or cap with heq | hnone
  · exact heq
  · rw [hnone] at h
    cases h

/-- The least number is kept or dropped. -/
theorem capped_min (b : Bounds) (cap : Int) :
    (b.capped cap).min = b.min ∨ b.capped cap = ⟨0, none⟩ := by
  unfold capped
  dsimp only
  split <;> split <;> split <;> simp

/-- Without a cap, bounds are kept unless they are too long to spell out. -/
theorem capped_uncapped (b : Bounds) :
    b.capped (-1) = if tupleLimit < b.max.getD b.min then ⟨0, none⟩ else b := by
  have hcap : ∀ n, beyondCap (-1) n = false := fun _ => rfl
  cases hmax : b.max <;> simp [capped, hcap, hmax]

/-- Bounds that say nothing. -/
theorem eq_of_unbounded {b : Bounds} (h : ¬ (b.max.isSome = true ∨ 0 < b.min)) : b = ⟨0, none⟩ := by
  obtain ⟨min, max⟩ := b
  simp only [not_or, Bool.not_eq_true, Option.isSome_eq_false_iff, Option.isNone_iff_eq_none,
    Nat.not_lt, Nat.le_zero] at h
  obtain ⟨rfl, rfl⟩ := h
  rfl

/-- The items that bounds ask for. -/
def items (b : Bounds) : Option Items → Option Items
  | some (.each item) =>
    if b.max.isSome ∨ 0 < b.min then some (.tuple (List.replicate (b.max.getD b.min) item))
    else some (.each item)
  | some (.tuple ids) => some (.tuple (b.max.elim ids ids.take))
  | none => none

@[simp] theorem isSome_items (b : Bounds) (items : Option Items) :
    (b.items items).isSome = items.isSome := by
  unfold Bounds.items
  split
  · split <;> rfl
  · rfl
  · rfl

/-- The further items that bounds leave. -/
def further (b : Bounds) (items : Option Items) (rest : Option Additional) : Option Additional :=
  match items with
  | some (.each item) => if b.max.isNone ∧ 0 < b.min then some (.schema item) else rest
  | _ => rest

end Bounds

/-- The bounds that a schema writes. -/
def bounds (n : SchemaNode) : Bounds := ⟨n.minItems?.getD 0, n.maxItems?⟩

/-- The bounds that are kept of those that a schema writes. -/
def keptBounds (o : Options) (n : SchemaNode) : Bounds := n.bounds.capped o.maxItems

/-- The bounds of a schema from its keywords. -/
theorem bounds_congr {n m : SchemaNode} (hmin : n.keyword? "minItems" = m.keyword? "minItems")
    (hmax : n.keyword? "maxItems" = m.keyword? "maxItems") : n.bounds = m.bounds := by
  simp only [bounds, minItems?, maxItems?, hmin, hmax]

/-! ### What a schema says apart from items -/

/-- What a schema says apart from the items of arrays. -/
def withoutItems (n : SchemaNode) : SchemaNode :=
  { (n.dropKeyword "minItems").dropKeyword "maxItems" with items := none, additionalItems := none }

/-- All keywords but bounds are said apart from items. -/
theorem keyword?_withoutItems (n : SchemaNode) {key : String} (hmin : "minItems" ≠ key)
    (hmax : "maxItems" ≠ key) : n.withoutItems.keyword? key = n.keyword? key :=
  (keyword?_dropKeyword _ hmax).trans (keyword?_dropKeyword n hmin)

@[simp] theorem withoutItems_setKeyword_minItems (n : SchemaNode) (value : Json) :
    (n.setKeyword "minItems" value).withoutItems = n.withoutItems := by
  simp [withoutItems, setKeyword, dropKeyword]

@[simp] theorem withoutItems_dropKeyword_minItems (n : SchemaNode) :
    (n.dropKeyword "minItems").withoutItems = n.withoutItems := by
  simp [withoutItems, dropKeyword]

@[simp] theorem withoutItems_dropKeyword_maxItems (n : SchemaNode) :
    (n.dropKeyword "maxItems").withoutItems = n.withoutItems := by
  simp [withoutItems, dropKeyword, Dict.erase_comm _ "maxItems" "minItems"]

@[simp] theorem withoutItems_withBounds (written kept : Bounds) (n : SchemaNode) :
    (n.withBounds written kept).withoutItems = n.withoutItems := by
  unfold withBounds
  dsimp only
  split <;> simp

@[simp] theorem withoutItems_expandItems (b : Bounds) (n : SchemaNode) :
    (n.expandItems b).withoutItems = n.withoutItems := by
  unfold expandItems
  repeat' split
  all_goals rfl

@[simp] theorem withoutItems_truncateItems (b : Bounds) (n : SchemaNode) :
    (n.truncateItems b).withoutItems = n.withoutItems := by
  unfold truncateItems
  split <;> rfl

/-- **Bounds change nothing but items.** -/
theorem withoutItems_normalizeBounds (kept : Bool) (o : Options) (n : SchemaNode) :
    (n.normalizeBounds kept o).withoutItems = (if kept then n.tagBounds else n).withoutItems := by
  simp only [normalizeBounds]
  split <;> simp

/-! ### Items in normal schemas -/

section Tags

variable (kept : Bool) (n : SchemaNode)

@[simp] theorem items_tag : (if kept then n.tagBounds else n).items = n.items := by
  unfold tagBounds
  repeat' split
  all_goals rfl

@[simp] theorem additionalItems_tag :
    (if kept then n.tagBounds else n).additionalItems = n.additionalItems := by
  unfold tagBounds
  repeat' split
  all_goals rfl

@[simp] theorem bounds_tag : (if kept then n.tagBounds else n).bounds = n.bounds := by
  split
  · exact bounds_congr (keyword?_tagBounds n (by decide)) (keyword?_tagBounds n (by decide))
  · rfl

end Tags

/-- The bounds in the keywords are those that are kept. -/
theorem bounds_withBounds {n : SchemaNode} {kept : Bounds}
    (h : kept = n.bounds ∨ kept.max = none) : (n.withBounds n.bounds kept).bounds = kept := by
  have hset : ((n.setKeyword "minItems" (.ofNat kept.min)).keyword? "minItems") =
      some (.ofNat kept.min) := Dict.get?_insert_self ..
  unfold withBounds
  dsimp only
  split
  · next heq =>
    have hmax : (n.setKeyword "minItems" (.ofNat kept.min)).maxItems? = n.maxItems? := by
      rw [maxItems?, keyword?_setKeyword n _ (by decide), maxItems?]
    simp only [bounds, minItems?, hset, hmax, Option.bind_some, Json.nat?_ofNat, Option.getD_some]
    rw [heq]
    rfl
  · next hne =>
    have hmin : ((n.setKeyword "minItems" (.ofNat kept.min)).dropKeyword "maxItems").keyword?
        "minItems" = some (.ofNat kept.min) := by
      rw [keyword?_dropKeyword _ (by decide), hset]
    have hmax : ((n.setKeyword "minItems" (.ofNat kept.min)).dropKeyword "maxItems").keyword?
        "maxItems" = none := Dict.get?_erase_self ..
    simp only [bounds, minItems?, maxItems?, hmin, hmax, Option.bind_some, Json.nat?_ofNat,
      Option.getD_some, Option.bind_none]
    rw [← h.resolve_left hne]

/-- The items of a node that is cut to bounds. -/
theorem items_truncate_expand (b : Bounds) (n : SchemaNode) :
    (truncateItems b (expandItems b n)).items = b.items n.items := by
  unfold expandItems
  cases hitems : n.items with
  | none => simp only [truncateItems, hitems, Bounds.items]
  | some items =>
    cases items with
    | tuple ids => cases hmax : b.max <;> simp [truncateItems, hitems, hmax, Bounds.items]
    | each item =>
      dsimp only
      rw [Bounds.items]
      split
      · cases hmax : b.max <;> simp [truncateItems, hmax]
      · simp only [truncateItems, hitems]

/-- The further items of a node that is cut to bounds. -/
theorem additionalItems_truncate_expand (b : Bounds) (n : SchemaNode) :
    (truncateItems b (expandItems b n)).additionalItems =
      b.further n.items n.additionalItems := by
  have htruncate : ∀ m : SchemaNode, (truncateItems b m).additionalItems = m.additionalItems := by
    intro m
    unfold truncateItems
    split <;> rfl
  rw [htruncate]
  unfold expandItems Bounds.further
  cases hitems : n.items with
  | none => rfl
  | some items =>
    cases items with
    | tuple ids => rfl
    | each item =>
      cases hmax : b.max <;> simp
      split <;> rfl

theorem bounds_truncate_expand (b : Bounds) (n : SchemaNode) :
    (truncateItems b (expandItems b n)).bounds = n.bounds := by
  unfold truncateItems expandItems
  repeat' split
  all_goals rfl

section Bounded

variable {o : Options} (kept : Bool) (n : SchemaNode)

/-- **Bounds that are ignored are dropped**, and items stay as they are. -/
theorem normalizeBounds_of_ignored (h : o.ignoreItemBounds = true) :
    (n.normalizeBounds kept o).items = n.items ∧
      (n.normalizeBounds kept o).additionalItems = n.additionalItems ∧
      (n.normalizeBounds kept o).bounds = ⟨0, none⟩ := by
  simp only [normalizeBounds, h, if_true]
  refine ⟨items_tag kept n, additionalItems_tag kept n, ?_⟩
  generalize (if kept then n.tagBounds else n) = m
  have hmin : ((m.dropKeyword "minItems").dropKeyword "maxItems").keyword? "minItems" = none := by
    rw [keyword?_dropKeyword _ (by decide)]
    exact Dict.get?_erase_self ..
  have hmax : ((m.dropKeyword "minItems").dropKeyword "maxItems").keyword? "maxItems" = none :=
    Dict.get?_erase_self ..
  simp [bounds, minItems?, maxItems?, hmin, hmax]

/-- **Items are described as the bounds that are kept ask for.** -/
theorem normalizeBounds_of_kept (h : o.ignoreItemBounds = false) :
    (n.normalizeBounds kept o).items = (n.keptBounds o).items n.items ∧
      (n.normalizeBounds kept o).additionalItems =
        (n.keptBounds o).further n.items n.additionalItems ∧
      (n.normalizeBounds kept o).bounds = n.keptBounds o := by
  have hwritten : ∀ b : Bounds, ((if kept then n.tagBounds else n).withBounds n.bounds b).items =
      n.items ∧ ((if kept then n.tagBounds else n).withBounds n.bounds b).additionalItems =
        n.additionalItems := by
    intro b
    unfold withBounds
    dsimp only
    split <;> exact ⟨items_tag kept n, additionalItems_tag kept n⟩
  simp only [normalizeBounds, h, Bool.false_eq_true, if_false]
  rw [← bounds, bounds_tag, items_truncate_expand, additionalItems_truncate_expand,
    bounds_truncate_expand, (hwritten _).1, (hwritten _).2]
  have hchanged : n.keptBounds o = (if kept then n.tagBounds else n).bounds ∨
      (n.keptBounds o).max = none := by
    rw [bounds_tag]
    exact n.bounds.capped_eq_or o.maxItems
  have hkept := bounds_withBounds hchanged
  rw [bounds_tag] at hkept
  exact ⟨rfl, rfl, hkept⟩

end Bounded

/-! ### Nodes before their bounds -/

section Prepared

variable (o : Options) (isRoot : Bool) (n : SchemaNode)

/-- What comes before array bounds leaves items alone. -/
theorem items_prepared : (n.prepared o isRoot).items = n.items ∧
    (n.prepared o isRoot).additionalItems = n.additionalItems := by
  have hkeys : ∀ m : SchemaNode, (m.canonicalizeKeys o.keyRules).items = m.items ∧
      (m.canonicalizeKeys o.keyRules).additionalItems = m.additionalItems := by
    intro m
    unfold canonicalizeKeys canonicalKeyName canonicalRequired
    repeat' split
    all_goals exact ⟨rfl, rfl⟩
  have hconst : ∀ m : SchemaNode, m.constantAsEnum.items = m.items ∧
      m.constantAsEnum.additionalItems = m.additionalItems := by
    intro m
    unfold constantAsEnum
    split <;> exact ⟨rfl, rfl⟩
  have hnull : ∀ m : SchemaNode, m.dropNullType.items = m.items ∧
      m.dropNullType.additionalItems = m.additionalItems := by
    intro m
    unfold dropNullType
    split <;> exact ⟨rfl, rfl⟩
  have htexts : ∀ kept, (n.withDescriptions kept).escapeDescription.items = n.items ∧
      (n.withDescriptions kept).escapeDescription.additionalItems = n.additionalItems := by
    intro kept
    unfold escapeDescription withDescriptions
    repeat' split
    all_goals exact ⟨rfl, rfl⟩
  have hdefault : ∀ m : SchemaNode,
      (m.defaultAdditionalProperties o.additionalPropertiesDefault).items = m.items ∧
      (m.defaultAdditionalProperties o.additionalPropertiesDefault).additionalItems =
        m.additionalItems := by
    intro m
    unfold defaultAdditionalProperties
    split <;> exact ⟨rfl, rfl⟩
  rw [prepared, (hdefault _).1, (hdefault _).2, (hkeys _).1, (hkeys _).2, (hconst _).1,
    (hconst _).2, (hnull _).1, (hnull _).2]
  exact htexts _

/-- What comes before array bounds drops no type but `null`. -/
theorem hasType_array_prepared : (n.prepared o isRoot).hasType "array" = n.hasType "array" := by
  have hsame : ∀ {m m' : SchemaNode}, m'.keyword? "type" = m.keyword? "type" →
      m'.hasType "array" = m.hasType "array" := by
    intro m m' h
    simp only [hasType, types, h]
  have hdescription : ∀ kept, (n.withDescriptions kept).escapeDescription.hasType "array" =
      n.hasType "array" := by
    refine fun kept => hsame ?_
    unfold escapeDescription withDescriptions
    repeat' split
    all_goals simp [keyword?_setKeyword, keyword?_dropKeyword]
  have hnull : ∀ m : SchemaNode, m.dropNullType.hasType "array" = m.hasType "array" := by
    intro m
    unfold dropNullType
    split
    · next h =>
      have hnone : (m.dropKeyword "type").keyword? "type" = none := Dict.get?_erase_self ..
      rw [hasType, hasType, h.2, types, hnone]
      rfl
    · rfl
  have hconstant : ∀ m : SchemaNode, m.constantAsEnum.hasType "array" = m.hasType "array" := by
    refine fun m => hsame ?_
    unfold constantAsEnum
    split <;> simp [keyword?_setKeyword, keyword?_dropKeyword]
  have hkeys : ∀ m : SchemaNode,
      (m.canonicalizeKeys o.keyRules).hasType "array" = m.hasType "array" := by
    refine fun m => hsame ?_
    unfold canonicalizeKeys canonicalKeyName canonicalRequired
    repeat' split
    all_goals first | rfl | exact keyword?_setKeyword _ _ (by decide)
  have hdefault : ∀ m : SchemaNode,
      (m.defaultAdditionalProperties o.additionalPropertiesDefault).hasType "array" =
        m.hasType "array" := by
    refine fun m => hsame ?_
    unfold defaultAdditionalProperties
    split <;> rfl
  rw [prepared, hdefault, hkeys, hconstant, hnull, hdescription]

theorem isArrayShaped_prepared : (n.prepared o isRoot).isArrayShaped = n.isArrayShaped := by
  rw [isArrayShaped, isArrayShaped, hasType_array_prepared, (items_prepared o isRoot n).1]

theorem bounds_prepared : (n.prepared o isRoot).bounds = n.bounds :=
  bounds_congr (keyword?_prepared n (by decide) o isRoot) (keyword?_prepared n (by decide) o isRoot)

end Prepared

/-! ### Normal nodes -/

section Normal

variable (o : Options) (isRoot : Bool) (n : SchemaNode)

/-- **Apart from items the cap changes nothing.** -/
theorem withoutItems_normalize (cap : Int) :
    (n.normalize (o.withCap cap) isRoot).withoutItems =
      (n.normalize o isRoot).withoutItems := by
  rw [normalize_eq, normalize_eq]
  change (if (n.prepared o isRoot).isArrayShaped then _ else n.prepared o isRoot).withoutItems = _
  split
  · rw [withoutItems_normalizeBounds, withoutItems_normalizeBounds]
    rfl
  · rfl

variable {n} (hn : n.isArrayShaped = true)

include hn

theorem normalize_of_isArrayShaped : n.normalize o isRoot =
    (n.prepared o isRoot).normalizeBounds (keepsDescription o.descriptions isRoot) o := by
  rw [normalize_eq, if_pos ((isArrayShaped_prepared o isRoot n).trans hn)]

variable {o}

/-- **Where bounds are ignored** there are none in the normal form. -/
theorem normalize_of_ignored (h : o.ignoreItemBounds = true) :
    (n.normalize o isRoot).items = n.items ∧
      (n.normalize o isRoot).additionalItems = n.additionalItems ∧
      (n.normalize o isRoot).bounds = ⟨0, none⟩ := by
  rw [normalize_of_isArrayShaped o isRoot hn, ← (items_prepared o isRoot n).1,
    ← (items_prepared o isRoot n).2]
  exact normalizeBounds_of_ignored _ _ h

/-- **The normal form describes the items that the kept bounds ask for.** -/
theorem normalize_of_kept (h : o.ignoreItemBounds = false) :
    (n.normalize o isRoot).items = (n.keptBounds o).items n.items ∧
      (n.normalize o isRoot).additionalItems =
        (n.keptBounds o).further n.items n.additionalItems ∧
      (n.normalize o isRoot).bounds = n.keptBounds o := by
  have hkept : (n.prepared o isRoot).keptBounds o = n.keptBounds o := by
    rw [keptBounds, bounds_prepared, keptBounds]
  rw [normalize_of_isArrayShaped o isRoot hn, ← (items_prepared o isRoot n).1,
    ← (items_prepared o isRoot n).2, ← hkept]
  exact normalizeBounds_of_kept _ _ h

omit hn in
/-- Bounds leave arrays arrays. -/
theorem isArrayShaped_normalize : (n.normalize o isRoot).isArrayShaped = n.isArrayShaped := by
  rw [← isArrayShaped_prepared o isRoot n, normalize_eq]
  split
  · next hshaped =>
    generalize n.prepared o isRoot = m at hshaped ⊢
    generalize keepsDescription o.descriptions isRoot = kept
    have htypes : (m.normalizeBounds kept o).types = m.types := by
      have hkeyword := congrArg (fun node : SchemaNode => node.keyword? "type")
        (withoutItems_normalizeBounds kept o m)
      simp only [keyword?_withoutItems _ (show "minItems" ≠ "type" by decide)
        (show "maxItems" ≠ "type" by decide)] at hkeyword
      have htag : (if kept then m.tagBounds else m).keyword? "type" = m.keyword? "type" := by
        unfold tagBounds appendToDescription
        repeat' split
        all_goals first | rfl | exact keyword?_setKeyword _ _ (by decide)
      simp only [types, hkeyword.trans htag]
    have hitems : (m.normalizeBounds kept o).items.isSome = m.items.isSome := by
      cases hignore : o.ignoreItemBounds with
      | true => rw [(normalizeBounds_of_ignored kept m hignore).1]
      | false => rw [(normalizeBounds_of_kept kept m hignore).1, Bounds.isSome_items]
    rw [isArrayShaped, isArrayShaped, hasType, hasType, htypes, hitems]
  · rfl

end Normal

/-! ### The bounds that are left -/

/-- A schema that describes the items of another as bounds ask for. -/
structure DescribesItems (b : Bounds) (n m : SchemaNode) : Prop where
  items : m.items = b.items n.items
  further : m.additionalItems = b.further n.items n.additionalItems
  bounds : m.bounds = b

section Described

variable {b : Bounds} {n m : SchemaNode} (h : DescribesItems b n m)

include h

theorem DescribesItems.min_eq : m.minItems?.getD 0 = b.min := congrArg Bounds.min h.bounds

theorem DescribesItems.max_eq : m.maxItems? = b.max := congrArg Bounds.max h.bounds

end Described

/-- The bounds that normalization leaves: they are left to schemas that are no arrays, dropped where
they are ignored, and capped otherwise. -/
def leftBounds (o : Options) (n : SchemaNode) : Bounds :=
  if n.isArrayShaped then if o.ignoreItemBounds then ⟨0, none⟩ else n.keptBounds o else n.bounds

theorem leftBounds_of_kept {o : Options} {n : SchemaNode} (hn : n.isArrayShaped = true)
    (ho : o.ignoreItemBounds = false) : n.leftBounds o = n.keptBounds o := by
  rw [leftBounds, if_pos hn, ho]
  rfl

/-- **The normal form describes the items that the bounds ask for** that are left. -/
theorem describesItems_normalize (o : Options) (isRoot : Bool) (n : SchemaNode) :
    DescribesItems (n.leftBounds o) n (n.normalize o isRoot) := by
  cases hn : n.isArrayShaped with
  | false =>
    have hitems : n.items = none := by
      rw [isArrayShaped, Bool.or_eq_false_iff] at hn
      exact Option.isSome_eq_false_iff.1 hn.2 |> Option.isNone_iff_eq_none.1
    have hleft : n.leftBounds o = n.bounds := by simp [leftBounds, hn]
    rw [hleft, normalize_eq, if_neg (by rw [isArrayShaped_prepared, hn]; decide)]
    refine ⟨?_, ?_, bounds_prepared o isRoot n⟩
    · rw [(items_prepared o isRoot n).1, hitems]
      rfl
    · rw [(items_prepared o isRoot n).2, hitems]
      rfl
  | true =>
    cases hignore : o.ignoreItemBounds with
    | true =>
      obtain ⟨hitems, hfurther, hbounds⟩ := normalize_of_ignored isRoot hn hignore
      have hleft : n.leftBounds o = ⟨0, none⟩ := by simp [leftBounds, hn, hignore]
      rw [hleft]
      refine ⟨hitems.trans ?_, hfurther.trans ?_, hbounds⟩
      · unfold Bounds.items
        split <;> simp [*]
      · unfold Bounds.further
        split <;> simp
    | false =>
      rw [leftBounds_of_kept hn hignore]
      obtain ⟨hitems, hfurther, hbounds⟩ := normalize_of_kept isRoot hn hignore
      exact ⟨hitems, hfurther, hbounds⟩

end SchemaNode

namespace SchemaGraph

@[simp] theorem size_normalize (g : SchemaGraph) (rootName : String) (o : Options) :
    (g.normalize rootName o).size = g.size := by
  have hrenames : Renames (g.normalizeNodes o) (g.normalize rootName o) :=
    renames_assignNames rootName (g.normalizeNodes o)
  rw [hrenames.size, size_normalizeNodes]

/-- A schema of a normal graph is in normal form up to its name. -/
theorem node_normalize {g : SchemaGraph} (rootName : String) (o : Options) {id : SchemaId}
    (hid : id < g.size) : (g.normalize rootName o).node id =
      { (g.node id).normalize o (id = g.root) with
        standaloneName := ((g.normalize rootName o).node id).standaloneName } := by
  rw [normalize, (renames_assignNames rootName (g.normalizeNodes o)).node id,
    node_normalizeNodes o g hid]

/-- What holds of a node that is empty and of normal forms, and has nothing to do with names, holds
of the schemas of a normal graph. -/
theorem node_normalize_induction {g : SchemaGraph} {o : Options} {P : SchemaNode → Prop}
    (hempty : P { pointer := "" }) (hnormal : ∀ id, P ((g.node id).normalize o (id = g.root)))
    (hnamed : ∀ n name, P n → P { n with standaloneName := name }) (rootName : String)
    (id : SchemaId) : P ((g.normalize rootName o).node id) := by
  by_cases hid : id < g.size
  · rw [node_normalize rootName o hid]
    exact hnamed _ _ (hnormal id)
  · have hnone : (g.normalize rootName o).nodes[id]? = none := by
      refine Array.getElem?_eq_none (Nat.not_lt.1 ?_)
      rw [← SchemaGraph.size, size_normalize]
      exact hid
    rw [node, hnone]
    exact hempty

end SchemaGraph
end SchemaTypings
