import SchemaTypings.Proofs.BoundedArrays
import SchemaTypings.Proofs.SchemaRanges
import SchemaTypings.Proofs.TypeSources

/-! # The bounds of tuples are in order and small

However large the numbers of a schema are, a tuple that is made of its normal form has bounds that
are in order, and spells out no more elements than the longest tuple that is spelled out, or than
the schema lists.  The bounds of a schema are brought below the limits before anything is made of
them, and a tuple takes its bounds and its elements from the normal form of one schema.
-/
namespace SchemaTypings
namespace SchemaNode

/-! ### Bounds that are kept -/

namespace Bounds

/-- **Kept bounds are short enough to spell out.** -/
theorem capped_le_tupleLimit (b : Bounds) (cap : Int) :
    (b.capped cap).max.getD (b.capped cap).min ≤ tupleLimit := by
  unfold capped
  dsimp only
  generalize (if beyondCap cap b.min then ⟨0, none⟩ else b : Bounds) = b
  generalize (if b.max.any fun max => beyondCap cap (max - b.min) then ⟨b.min, none⟩ else b :
    Bounds) = b
  split
  · exact Nat.zero_le _
  · next hshort => exact Nat.not_lt.1 hshort

@[simp] theorem beyondCap_zero (cap : Int) : beyondCap cap 0 = false := by
  simp only [beyondCap, Bool.and_eq_false_iff, decide_eq_false_iff_not]
  omega

/-- A number that is not beyond a cap is at most the cap. -/
theorem le_of_not_beyondCap {cap : Int} (hcap : 0 ≤ cap) {n : Nat} (h : beyondCap cap n = false) :
    (n : Int) ≤ cap := by
  simp only [beyondCap, Bool.and_eq_false_iff, decide_eq_false_iff_not] at h
  omega

/-- A least number beyond the cap drops both bounds. -/
theorem capped_of_min_beyond {b : Bounds} {cap : Int} (h : beyondCap cap b.min = true) :
    b.capped cap = ⟨0, none⟩ := by
  simp [capped, h]

/-- A spread beyond the cap drops the largest number. -/
theorem capped_of_spread_beyond {b : Bounds} {cap : Int} {max : Nat} (hmax : b.max = some max)
    (h : beyondCap cap (max - b.min) = true) : (b.capped cap).max = none := by
  cases hmin : beyondCap cap b.min with
  | true => rw [capped_of_min_beyond hmin]
  | false =>
    simp only [capped, hmin, Bool.false_eq_true, if_false, hmax, Option.any_some, h, if_true]
    split <;> rfl

/-- **Kept bounds are within the cap**, and so is the spread between them. -/
theorem capped_within (b : Bounds) {cap : Int} (hcap : 0 ≤ cap) :
    ((b.capped cap).min : Int) ≤ cap ∧
      ∀ max ∈ (b.capped cap).max, ((max - (b.capped cap).min : Nat) : Int) ≤ cap := by
  constructor
  · rcases b.capped_min cap with hmin | hnone
    · refine le_of_not_beyondCap hcap (Bool.eq_false_iff.2 fun hbeyond => ?_)
      rw [hmin] at hbeyond
      rw [capped_of_min_beyond hbeyond] at hmin
      rw [← hmin, beyondCap_zero] at hbeyond
      cases hbeyond
    · rw [hnone]
      exact hcap
  · intro max hmax
    have hkept := capped_of_max hmax
    refine le_of_not_beyondCap hcap (Bool.eq_false_iff.2 fun hbeyond => ?_)
    rw [capped_of_spread_beyond (hkept ▸ hmax) (hkept ▸ hbeyond)] at hmax
    cases hmax

/-- The items that short bounds ask for are short, unless the schema lists more. -/
theorem length_items_le {b : Bounds} {limit : Nat} (hb : b.max.getD b.min ≤ limit)
    {items : Option Items} {ids : List SchemaId} (h : b.items items = some (.tuple ids)) :
    ids.length ≤ Nat.max limit (Items.ids items).length := by
  unfold Bounds.items at h
  split at h
  · split at h
    · cases h
      rw [List.length_replicate]
      exact Nat.le_trans hb (Nat.le_max_left ..)
    · cases h
  · next listed =>
    cases h
    refine Nat.le_trans ?_ (Nat.le_max_right ..)
    cases b.max with
    | none => exact Nat.le_refl _
    | some max => exact List.length_take_le' ..
  · cases h

end Bounds

/-! ### Normal forms -/

/-- **Bounds within the limits of the options**: short enough to spell out and within the cap,
unless they are ignored. -/
structure BoundsWithin (o : Options) (n : SchemaNode) : Prop where
  short : o.ignoreItemBounds = false → n.bounds.max.getD n.bounds.min ≤ tupleLimit
  capped : o.ignoreItemBounds = false → 0 ≤ o.maxItems → (n.bounds.min : Int) ≤ o.maxItems ∧
    ∀ max ∈ n.bounds.max, ((max - n.bounds.min : Nat) : Int) ≤ o.maxItems

/-- A name changes no bounds. -/
theorem BoundsWithin.named {o : Options} {n : SchemaNode} (h : n.BoundsWithin o)
    (name : Option String) : BoundsWithin o { n with standaloneName := name } :=
  ⟨h.short, h.capped⟩

section Short

variable {o : Options} {n : SchemaNode} (h : n.BoundsWithin o) (hkept : o.ignoreItemBounds = false)

include h hkept

theorem BoundsWithin.max_le : ∀ max ∈ n.maxItems?, max ≤ tupleLimit := by
  intro max hmax
  have hshort := h.short hkept
  rwa [show n.bounds.max = some max from hmax] at hshort

theorem BoundsWithin.max_getD_le : n.maxItems?.getD 0 ≤ tupleLimit := by
  cases hmax : n.maxItems? with
  | none => exact Nat.zero_le _
  | some max => exact h.max_le hkept max hmax

theorem BoundsWithin.min_le (hle : ∀ max ∈ n.maxItems?, n.bounds.min ≤ max) :
    n.bounds.min ≤ tupleLimit := by
  cases hmax : n.maxItems? with
  | none =>
    have hshort := h.short hkept
    rwa [show n.bounds.max = none from hmax] at hshort
  | some max => exact Nat.le_trans (hle max hmax) (h.max_le hkept max hmax)

end Short

/-- **Normalization brings bounds within the limits.** -/
theorem boundsWithin_normalize (o : Options) (isRoot : Bool) {n : SchemaNode}
    (hn : n.isArrayShaped = true) : BoundsWithin o (n.normalize o isRoot) where
  short := by
    intro hkept
    rw [(normalize_of_kept isRoot hn hkept).2.2]
    exact n.bounds.capped_le_tupleLimit o.maxItems
  capped := by
    intro hkept hcap
    rw [(normalize_of_kept isRoot hn hkept).2.2]
    exact n.bounds.capped_within hcap

/-- A normal form lists no more items than can be spelled out, or than the schema lists. -/
theorem length_items_normalize_le (o : Options) (isRoot : Bool) {n : SchemaNode}
    (hn : n.isArrayShaped = true) {ids : List SchemaId}
    (h : (n.normalize o isRoot).items = some (.tuple ids)) :
    ids.length ≤ Nat.max tupleLimit (Items.ids n.items).length := by
  cases hignore : o.ignoreItemBounds with
  | true =>
    rw [(normalize_of_ignored isRoot hn hignore).1] at h
    rw [h]
    exact Nat.le_max_right ..
  | false =>
    rw [(normalize_of_kept isRoot hn hignore).1] at h
    exact Bounds.length_items_le (n.bounds.capped_le_tupleLimit o.maxItems) h

end SchemaNode

/-- Whether a kind is a tuple. -/
def TypeKind.isTuple : TypeKind → Bool
  | .tuple .. => true
  | _ => false

theorem TypeKind.exists_of_isTuple {kind : TypeKind} (h : kind.isTuple = true) :
    ∃ elements min max spread, kind = .tuple elements min max spread := by
  unfold isTuple at h
  split at h
  · exact ⟨_, _, _, _, rfl⟩
  · cases h

namespace TypeGraph

/-! ### Where tuples come from -/

section Sources

variable {s : Growth} {g : SchemaGraph} {o : Options} {n : SchemaNode} {kind : TypeKind}
  (htuple : kind.isTuple = true)

include htuple

/-- Of all shapes the array alone is a tuple. -/
theorem Shape.of_isTuple (h : Shape s g o n kind) :
    n.isArrayShaped = true ∧ IsArrayKind s o n kind := by
  obtain ⟨elements, min, max, spread, rfl⟩ := TypeKind.exists_of_isTuple htuple
  cases h with
  | atom hatom => cases hatom
  | record _ hkind =>
    obtain ⟨_, _, _, _, -, -, -, -, heq⟩ := hkind
    cases heq
  | array hshaped hkind => exact ⟨hshaped, hkind⟩
  | values hkind =>
    unfold IsEnumKind at hkind
    split at hkind
    · cases hkind
    · cases hkind
    · obtain ⟨_, -, heq⟩ := hkind
      cases heq
  | operation hkind => cases hkind

/-- **A tuple expresses the array that one schema describes.** -/
theorem Founded.of_isTuple (h : Founded s g o kind) : ∃ schema < g.size,
    (g.node schema).isArrayShaped = true ∧ IsArrayKind s o (g.node schema) kind := by
  obtain ⟨schema, hshape, hlt⟩ := h.exists_shape
  refine ⟨schema, hlt ?_, hshape.of_isTuple htuple⟩
  obtain ⟨elements, min, max, spread, rfl⟩ := TypeKind.exists_of_isTuple htuple
  rfl

end Sources

/-! ### What is spelled out -/

/-- No alternative has more elements than are described or the largest number asks for. -/
theorem length_le_of_mem_tupleShapes {α : Type} {placeholder : α} {elements : List α} {min : Nat}
    {max : Option Nat} {spread : Option α} {shape : List α × Option α}
    (h : shape ∈ tupleShapes placeholder elements min max spread) :
    shape.1.length ≤ Nat.max elements.length (max.getD 0) := by
  have hall : (tupleElements placeholder elements max spread).length ≤
      Nat.max elements.length (max.getD 0) := by
    unfold tupleElements
    split
    · next limit =>
      rw [List.length_append, List.length_replicate, Option.getD_some]
      change elements.length + (limit - elements.length) ≤ max elements.length limit
      omega
    · exact Nat.le_max_left ..
  rcases List.mem_append.1 h with h | h
  · obtain ⟨i, -, rfl⟩ := List.mem_map.1 h
    exact Nat.le_trans (List.length_take_le' ..) hall
  · rw [List.mem_singleton.1 h]
    exact hall

/-- **A tuple within the limits**: its bounds are in order, and unless they are ignored they are
short enough to spell out and within the cap.  It has no more elements to spell out than the limit
says, or than are `listed`. -/
structure TupleWithin (o : Options) (listed : Nat) (elements : List TypeId) (min : Nat)
    (max : Option Nat) : Prop where
  ordered : ∀ limit ∈ max, min ≤ limit ∧ elements.length ≤ limit
  short : o.ignoreItemBounds = false →
    min ≤ SchemaNode.tupleLimit ∧ ∀ limit ∈ max, limit ≤ SchemaNode.tupleLimit
  capped : o.ignoreItemBounds = false → 0 ≤ o.maxItems →
    (min : Int) ≤ o.maxItems ∧ ∀ limit ∈ max, ((limit - min : Nat) : Int) ≤ o.maxItems
  slots : Nat.max elements.length (max.getD 0) ≤ Nat.max SchemaNode.tupleLimit listed

section Limits

variable {s : Growth} {o : Options} {n : SchemaNode} {listed : Nat} {elements : List TypeId}
  {min : Nat} {max : Option Nat} {spread : Option TypeId}

/-- Bounds that are ignored leave a tuple of as many elements as are listed. -/
theorem tupleWithin_of_ignored (hignore : o.ignoreItemBounds = true)
    (hlength : elements.length ≤ Nat.max SchemaNode.tupleLimit listed) :
    TupleWithin o listed elements min none where
  ordered := by rintro _ ⟨⟩
  short := fun h => by rw [hignore] at h; cases h
  capped := fun h => by rw [hignore] at h; cases h
  slots := Nat.max_le.2 ⟨hlength, Nat.zero_le _⟩

/-- A tuple takes over the bounds of a schema that are within the limits. -/
theorem tupleWithin_of_kept (hkept : o.ignoreItemBounds = false) (hfits : n.FitsBounds o)
    (hwithin : n.BoundsWithin o) (hcut : ∀ limit ∈ n.maxItems?, elements.length ≤ limit)
    (hlength : elements.length ≤ Nat.max SchemaNode.tupleLimit listed) :
    TupleWithin o listed elements (n.minItems?.getD 0) n.maxItems? := by
  exact ⟨fun limit hmax => ⟨hfits.le limit hmax, hcut limit hmax⟩,
    fun _ => ⟨hwithin.min_le hkept hfits.le, hwithin.max_le hkept⟩, hwithin.capped,
    Nat.max_le.2 ⟨hlength, Nat.le_trans (hwithin.max_getD_le hkept) (Nat.le_max_left ..)⟩⟩

/-- **The tuple of a schema with items in accord with bounds is within the limits**, where the bounds
are. -/
theorem IsArrayKind.tupleWithin (hfits : n.FitsBounds o) (hwithin : n.BoundsWithin o)
    (hlisted : ∀ ids, n.items = some (.tuple ids) →
      ids.length ≤ Nat.max SchemaNode.tupleLimit listed)
    (h : IsArrayKind s o n (.tuple elements min max spread)) :
    TupleWithin o listed elements min max := by
  unfold IsArrayKind at h
  split at h
  · next ids hitems =>
    obtain ⟨types, further, htypes, -, heq⟩ := h
    have hlength := htypes.length_eq
    split at heq
    · next hignore =>
      cases heq
      exact tupleWithin_of_ignored hignore (hlength ▸ hlisted ids hitems)
    · next hkept =>
      cases heq
      exact tupleWithin_of_kept (Bool.eq_false_iff.2 hkept) hfits hwithin
        (hlength ▸ hfits.cut ids hitems) (hlength ▸ hlisted ids hitems)
  · obtain ⟨_, -, heq⟩ := h
    cases heq
  · obtain ⟨any, -, heq⟩ := h
    split at heq
    · next hbounded =>
      cases heq
      have hkept : o.ignoreItemBounds = false := by
        simp only [Bool.and_eq_true, Bool.not_eq_true'] at hbounded
        exact hbounded.1
      refine tupleWithin_of_kept hkept hfits hwithin ?_ ?_ <;> rw [List.length_replicate]
      · intro limit hmax
        rw [show n.maxItems? = some limit from hmax]
        exact Nat.max_le.2 ⟨Nat.le_refl _, hfits.le limit hmax⟩
      · exact Nat.le_trans (Nat.max_le.2 ⟨hwithin.max_getD_le hkept,
          hwithin.min_le hkept hfits.le⟩) (Nat.le_max_left ..)
    · cases heq

/-- Every alternative of a tuple within the limits is. -/
theorem TupleWithin.length_le (h : TupleWithin o listed elements min max) {α : Type}
    {placeholder : α} {texts : List α} {further : Option α} (htexts : texts.length = elements.length)
    {shape : List α × Option α} (hshape : shape ∈ tupleShapes placeholder texts min max further) :
    shape.1.length ≤ Nat.max SchemaNode.tupleLimit listed := by
  have hlength := length_le_of_mem_tupleShapes hshape
  rw [htexts] at hlength
  exact Nat.le_trans hlength h.slots

/-- A schema whose arrays have tuples within the limits. -/
structure NodeWithin (o : Options) (listed : Nat) (n : SchemaNode) : Prop where
  fits : n.FitsBounds o
  within : n.BoundsWithin o
  listed : ∀ ids, n.items = some (.tuple ids) →
    ids.length ≤ Nat.max SchemaNode.tupleLimit listed

/-- **A tuple comes from one schema**, and is within its limits, as is all that is spelled out of
it. -/
theorem Founded.exists_tupleWithin {g : SchemaGraph} (listed : SchemaId → Nat)
    (hg : ∀ schema < g.size, (g.node schema).isArrayShaped = true →
      NodeWithin o (listed schema) (g.node schema))
    (h : Founded s g o (.tuple elements min max spread)) :
    ∃ schema < g.size, IsArrayKind s o (g.node schema) (.tuple elements min max spread) ∧
      TupleWithin o (listed schema) elements min max ∧
      ∀ texts further, texts.length = elements.length →
        ∀ shape ∈ tupleShapes o.placeholder texts min max further,
          shape.1.length ≤ Nat.max SchemaNode.tupleLimit (listed schema) := by
  obtain ⟨schema, hlt, hshaped, harray⟩ := h.of_isTuple rfl
  obtain ⟨hfits, hwithin, hlisted⟩ := hg schema hlt hshaped
  have htuple := harray.tupleWithin hfits hwithin hlisted
  exact ⟨schema, hlt, harray, htuple, fun _ _ htexts _ => htuple.length_le htexts⟩

end Limits

end TypeGraph

namespace SchemaGraph

variable {g : SchemaGraph} (rootName : String) (o : Options)

/-- **The schemas of a normal graph keep the limits**: no more is listed than the graph lists. -/
theorem nodeWithin_normalize (hviolations : g.violations rootName = []) {id : SchemaId}
    (hid : id < (g.normalize rootName o).size)
    (hn : ((g.normalize rootName o).node id).isArrayShaped = true) :
    TypeGraph.NodeWithin o (Items.ids (g.node id).items).length
      ((g.normalize rootName o).node id) := by
  rw [size_normalize] at hid
  have hfits := fitsBounds_node_normalize hviolations hn
  rw [node_normalize rootName o hid] at hn hfits ⊢
  rw [SchemaNode.isArrayShaped_named, SchemaNode.isArrayShaped_normalize] at hn
  exact ⟨hfits, (SchemaNode.boundsWithin_normalize o (id = g.root) hn).named _,
    fun _ => SchemaNode.length_items_normalize_le o (id = g.root) hn⟩

end SchemaGraph

/-- **The bounds of tuples are in order and small.**  A tuple that is made of the normal form of a
graph without violations expresses the array that a schema of the graph describes.  Its bounds are in
order, and unless they are ignored they are short enough to spell out and within the cap.  And it
spells out no more elements than the longest tuple that is spelled out, or than its schema lists. -/
theorem tuple_within_limits {g : SchemaGraph} (hg : g.InRange) {name : String}
    (hviolations : g.violations name = []) (o : Options) {id : TypeId} {elements : List TypeId}
    {min : Nat} {max : Option Nat} {spread : Option TypeId}
    (hkind : (TypeGraph.ofSchema (g.normalize name o) o).kind id =
      .tuple elements min max spread) :
    ∃ schema < g.size,
      TypeGraph.IsArrayKind (TypeGraph.made (g.normalize name o) o) o
        ((g.normalize name o).node schema) (.tuple elements min max spread) ∧
      TypeGraph.TupleWithin o (Items.ids (g.node schema).items).length elements min max ∧
      ∀ texts further, texts.length = elements.length →
        ∀ shape ∈ TypeGraph.tupleShapes o.placeholder texts min max further,
          shape.1.length ≤
            Nat.max SchemaNode.tupleLimit (Items.ids (g.node schema).items).length := by
  have hin := hg.normalize name o
  have hfounded := TypeGraph.founded_kind o hin.root hin.children id
  rw [hkind] at hfounded
  have htuple := hfounded.exists_tupleWithin
    (fun schema => (Items.ids (g.node schema).items).length)
    fun _ => SchemaGraph.nodeWithin_normalize name o hviolations
  rwa [SchemaGraph.size_normalize] at htuple

/-- A list of two texts that is to have billions of items. -/
def hugeList : Json :=
  .object [("type", .string "array"),
    ("items", .array [.object [("type", .string "string")], .object [("type", .string "string")]]),
    ("minItems", .ofNat 3000000000), ("maxItems", .ofNat 18446744073709551615)]

/-- Without a cap its root is still a tuple within the limits. -/
theorem tuple_within_limits_hugeList :
    ∃ g, linkedGraph hugeList { maxItems := -1 } .none = .ok g ∧ g.InRange ∧
      g.violations "Root" = [] ∧ ∃ elements min max spread,
        (TypeGraph.ofSchema (g.normalize "Root" { maxItems := -1 }) { maxItems := -1 }).kind
          (TypeGraph.ofSchema (g.normalize "Root" { maxItems := -1 }) { maxItems := -1 }).root =
            .tuple elements min max spread ∧
        ∃ schema < g.size,
          TypeGraph.TupleWithin { maxItems := -1 } (Items.ids (g.node schema).items).length
            elements min max := by
  have hrun : (linkedGraph hugeList { maxItems := -1 } .none).toOption.any (fun g =>
      (g.violations "Root").isEmpty &&
        ((TypeGraph.ofSchema (g.normalize "Root" { maxItems := -1 }) { maxItems := -1 }).kind
          (TypeGraph.ofSchema (g.normalize "Root" { maxItems := -1 })
            { maxItems := -1 }).root).isTuple) = true := by
    decide +kernel
  obtain ⟨g, hg, hchecks⟩ := exists_ok_of_any hrun
  obtain ⟨hviolations, htuple⟩ := Bool.and_eq_true_iff.1 hchecks
  obtain ⟨elements, min, max, spread, hkind⟩ := TypeKind.exists_of_isTuple htuple
  obtain ⟨b, hb⟩ := SchemaGraph.exists_bundle hg
  have hin := SchemaGraph.inRange_of_ofBundle hb
  have hviolations := List.isEmpty_iff.1 hviolations
  obtain ⟨schema, hlt, -, hwithin, -⟩ := tuple_within_limits hin hviolations _ hkind
  exact ⟨g, hg, hin, hviolations, elements, min, max, spread, hkind, schema, hlt, hwithin⟩

end SchemaTypings
