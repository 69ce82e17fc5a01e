import SchemaTypings.Proofs.Pointers
import SchemaTypings.SchemaGraph.Link

/-! # What a node holds of a schema

A keyword with subschemas has a field of its own in a node, which holds the nodes of the places
where the subschemas stand; both keywords for definitions share one.  `Represents` says that a node
holds all that a schema says.  It is built up keyword by keyword: `Takes` says what one keyword
changes, and nothing that a malformed value holds differs from what a missing one would.
-/
namespace SchemaTypings
namespace SchemaGraph

/-! ### Fields -/

/-- **A field of a node that holds subschemas**; definitions have one of another kind. -/
inductive Field where
  | properties
  | patternProperties
  | additionalProperties
  | items
  | additionalItems
  | allOf
  | anyOf
  | oneOf
  | bases
  deriving DecidableEq

namespace Field

/-- The keyword of a field. -/
def keyword : Field → String
  | properties => "properties"
  | patternProperties => "patternProperties"
  | additionalProperties => "additionalProperties"
  | items => "items"
  | additionalItems => "additionalItems"
  | allOf => "allOf"
  | anyOf => "anyOf"
  | oneOf => "oneOf"
  | bases => "extends"

/-- What a field holds. -/
def Held : Field → Type
  | properties | patternProperties => Dict SchemaId
  | additionalProperties | additionalItems => Option Additional
  | items => Option Items
  | allOf => List SchemaId × Bool
  | anyOf | oneOf | bases => List SchemaId

/-- What a field of a node holds. -/
def get (n : SchemaNode) : (field : Field) → field.Held
  | properties => n.properties
  | patternProperties => n.patternProperties
  | additionalProperties => n.additionalProperties
  | items => n.items
  | additionalItems => n.additionalItems
  | allOf => (n.allOf, n.allOfByRef)
  | anyOf => n.anyOf
  | oneOf => n.oneOf
  | bases => n.bases

/-- The node with another value in a field. -/
def set (n : SchemaNode) : (field : Field) → field.Held → SchemaNode
  | properties, held => { n with properties := held }
  | patternProperties, held => { n with patternProperties := held }
  | additionalProperties, held => { n with additionalProperties := held }
  | items, held => { n with items := held }
  | additionalItems, held => { n with additionalItems := held }
  | allOf, held => { n with allOf := held.1, allOfByRef := held.2 }
  | anyOf, held => { n with anyOf := held }
  | oneOf, held => { n with oneOf := held }
  | bases, held => { n with bases := held }

theorem get_set (n : SchemaNode) (field : Field) (held : field.Held) :
    field.get (field.set n held) = held := by
  cases field <;> rfl

theorem get_set_of_ne (n : SchemaNode) {field other : Field} (h : other ≠ field)
    (held : field.Held) : other.get (field.set n held) = other.get n := by
  cases field <;> cases other <;> first | rfl | exact absurd rfl h

theorem keyword_injective {field other : Field} (h : field.keyword = other.keyword) :
    field = other := by
  revert h
  cases field <;> cases other <;> decide

theorem isStructural_keyword (field : Field) : Keyword.isStructural field.keyword = true := by
  cases field <;> decide

end Field

/-- Whether a keyword is one of the two for definitions. -/
def isDefinitions (keyword : String) : Bool := keyword = "definitions" || keyword = "$defs"

theorem Field.not_isDefinitions_keyword (field : Field) :
    isDefinitions field.keyword = false := by
  cases field <;> decide

/-! ### Shapes -/

/-- What is held for the value of a keyword of the object at a pointer. -/
abbrev Shape (α : Type) := String → String → Json → α → Prop

section Shapes

variable (stands : String → SchemaId → Prop)

/-- The schemas of an object, each under its key and in order. -/
def HoldsNamed : Shape (Dict SchemaId)
  | base, keyword, .object entries, held => List.Forall₂ (fun entry part =>
      part.1 = entry.1 ∧ stands (Pointer.build base [keyword, entry.1]) part.2) entries held
  | _, _, _, held => held = []

/-- The schemas of a list, in order. -/
def HoldsListed : Shape (List SchemaId)
  | base, keyword, .array items, held => List.Forall₂ (fun item id =>
      stands (Pointer.build base [keyword, toString item.2]) id) items.zipIdx held
  | _, _, _, held => held = []

/-- The schemas of a list, and whether it has some and all of them are bare references. -/
def HoldsJoined : Shape (List SchemaId × Bool)
  | base, keyword, .array items, held => HoldsListed stands base keyword (.array items) held.1 ∧
      held.2 = (!items.isEmpty && items.all fun item => (Bundle.bareRef? item).isSome)
  | _, _, _, held => held = ([], false)

/-- A switch, or a schema for the rest. -/
def HoldsRest : Shape (Option Additional)
  | _, _, .bool value, held => held = some (.allowed value)
  | base, keyword, .object _, held =>
    ∃ id, stands (Pointer.build base [keyword]) id ∧ held = some (.schema id)
  | _, _, _, held => held = none

/-- One schema for every item, or one per position. -/
def HoldsItems : Shape (Option Items)
  | base, keyword, .array items, held =>
    ∃ ids, HoldsListed stands base keyword (.array items) ids ∧ held = some (.tuple ids)
  | base, keyword, .object _, held | base, keyword, .bool _, held =>
    ∃ id, stands (Pointer.build base [keyword]) id ∧ held = some (.each id)
  | _, _, _, held => held = none

/-- One schema that is extended, or a list of them. -/
def HoldsBases : Shape (List SchemaId)
  | base, keyword, .object _, held =>
    ∃ id, stands (Pointer.build base [keyword]) id ∧ held = [id]
  | base, keyword, value, held => HoldsListed stands base keyword value held

/-- What each field holds. -/
def Field.shape : (field : Field) → Shape field.Held
  | properties | patternProperties => HoldsNamed stands
  | additionalProperties | additionalItems => HoldsRest stands
  | items => HoldsItems stands
  | allOf => HoldsJoined stands
  | anyOf | oneOf => HoldsListed stands
  | bases => HoldsBases stands

end Shapes

theorem HoldsJoined.listed {stands : String → SchemaId → Prop} {base keyword : String}
    {value : Json} {held : List SchemaId × Bool}
    (h : HoldsJoined stands base keyword value held) :
    HoldsListed stands base keyword value held.1 := by
  cases value with
  | array items => exact h.1
  | _ => exact congrArg Prod.fst h

/-- What is held for a keyword of what a schema says; a missing keyword is like one that is
`null`. -/
def Entries.Holds {α : Type} (entries : Entries) (shape : Shape α) (keyword : String) (held : α) :
    Prop :=
  let found := (Dict.get? entries keyword).getD (.null, "")
  shape found.2 keyword found.1 held

/-- **A node represents what a schema says**: each field holds the nodes of the places where the
subschemas of its keyword stand, definitions are written one over the other in order, and the other
keywords are held as they are. -/
structure Represents (stands : String → SchemaId → Prop) (entries : Entries) (n : SchemaNode) :
    Prop where
  fields : ∀ field : Field, entries.Holds (field.shape stands) field.keyword (field.get n)
  definitions : ∃ parts, List.Forall₂ (fun entry part =>
      HoldsNamed stands entry.2.2 entry.1 entry.2.1 part)
        (entries.filter fun entry => isDefinitions entry.1) parts ∧
      n.definitions = parts.foldl Dict.extend []
  keywords : n.keywords = (entries.filter fun entry => !Keyword.isStructural entry.1).map
    fun entry => (entry.1, entry.2.1)

/-- A node that holds nothing represents a schema that says nothing. -/
theorem represents_nil (stands : String → SchemaId → Prop) {node : SchemaNode}
    (hfields : ∀ field : Field, field.get node = field.get { pointer := "" })
    (hdefinitions : node.definitions = []) (hkeywords : node.keywords = []) :
    Represents stands [] node where
  fields := by
    intro field
    rw [hfields field]
    cases field <;> rfl
  definitions := ⟨[], .nil, hdefinitions⟩
  keywords := hkeywords

/-! ### More nodes -/

section Mono

variable {stands more : String → SchemaId → Prop} (hmore : ∀ pointer id,
  stands pointer id → more pointer id)

include hmore

theorem HoldsNamed.mono {base keyword : String} {value : Json} {held : Dict SchemaId}
    (h : HoldsNamed stands base keyword value held) : HoldsNamed more base keyword value held := by
  cases value with
  | object entries => exact h.imp fun entry part => And.imp_right (hmore _ _)
  | _ => exact h

theorem HoldsListed.mono {base keyword : String} {value : Json} {held : List SchemaId}
    (h : HoldsListed stands base keyword value held) :
    HoldsListed more base keyword value held := by
  cases value with
  | array items => exact h.imp fun item id => hmore _ _
  | _ => exact h

/-- What a field holds is not lost when there are more nodes. -/
theorem Field.shape_mono (field : Field) {base keyword : String} {value : Json}
    {held : field.Held} (h : field.shape stands base keyword value held) :
    field.shape more base keyword value held := by
  have hone : ∀ {P : SchemaId → Prop}, (∃ id, stands (Pointer.build base [keyword]) id ∧ P id) →
      ∃ id, more (Pointer.build base [keyword]) id ∧ P id := fun ⟨id, hid, hp⟩ =>
    ⟨id, hmore _ _ hid, hp⟩
  cases field with
  | properties | patternProperties => exact HoldsNamed.mono hmore h
  | anyOf | oneOf => exact HoldsListed.mono hmore h
  | additionalProperties | additionalItems =>
    cases value with
    | object entries => exact hone h
    | _ => exact h
  | items =>
    cases value with
    | object entries => exact hone h
    | bool value => exact hone h
    | array items =>
      obtain ⟨ids, hids, heq⟩ := h
      exact ⟨ids, HoldsListed.mono hmore hids, heq⟩
    | _ => exact h
  | allOf =>
    cases value with
    | array items => exact ⟨HoldsListed.mono hmore h.1, h.2⟩
    | _ => exact h
  | bases =>
    cases value with
    | object entries => exact hone h
    | array items =>
      exact HoldsListed.mono hmore (show HoldsListed stands base keyword (.array items) held from h)
    | _ => exact h

theorem Represents.mono {entries : Entries} {n : SchemaNode} (h : Represents stands entries n) :
    Represents more entries n where
  fields := fun field => field.shape_mono hmore (h.fields field)
  definitions := by
    obtain ⟨parts, hparts, heq⟩ := h.definitions
    exact ⟨parts, hparts.imp fun entry part => HoldsNamed.mono hmore, heq⟩
  keywords := h.keywords

end Mono

/-! ### One keyword more -/

/-- What a field holds after one keyword more: what the keyword asks for, unless it is the keyword
of another field, or holds no more than a missing one would. -/
def Shape.Takes {α : Type} (shape : Shape α) (keyword : String) (entry : String × Json × String)
    (old new : α) : Prop :=
  if entry.1 = keyword then
    shape entry.2.2 keyword entry.2.1 new ∨
      (new = old ∧ ∀ held, shape "" keyword .null held → shape entry.2.2 keyword entry.2.1 held)
  else new = old

/-- **What a node takes on from one keyword.** -/
structure Takes (stands : String → SchemaId → Prop) (entry : String × Json × String)
    (n m : SchemaNode) : Prop where
  fields : ∀ field : Field,
    (field.shape stands).Takes field.keyword entry (field.get n) (field.get m)
  definitions : if isDefinitions entry.1 then
      ∃ part, HoldsNamed stands entry.2.2 entry.1 entry.2.1 part ∧
        m.definitions = n.definitions.extend part
    else m.definitions = n.definitions
  keywords : m.keywords = if Keyword.isStructural entry.1 then n.keywords
    else n.keywords.insert entry.1 entry.2.1

/-- A field whose keyword is another one is left alone. -/
theorem Shape.takes_of_ne {α : Type} {shape : Shape α} {keyword : String}
    {entry : String × Json × String} {old new : α} (hne : entry.1 ≠ keyword) (h : new = old) :
    shape.Takes keyword entry old new := by
  rw [Shape.Takes, if_neg hne]
  exact h

/-- What a field holds after one keyword more. -/
theorem Entries.Holds.snoc {α : Type} {shape : Shape α} {keyword : String} {entries : Entries}
    {entry : String × Json × String} {old new : α} (h : entries.Holds shape keyword old)
    (hkey : entry.1 ∉ entries.keys) (htakes : shape.Takes keyword entry old new) :
    Entries.Holds (entries ++ [entry]) shape keyword new := by
  rw [Shape.Takes] at htakes
  rw [Entries.Holds, Dict.get?_snoc]
  split at htakes
  · next heq =>
    rw [if_pos heq]
    have hnone : Dict.get? entries keyword = none :=
      Dict.get?_eq_none_of_not_mem (heq ▸ hkey)
    rw [Entries.Holds, hnone] at h
    rw [hnone]
    rcases htakes with hnew | ⟨rfl, hmalformed⟩
    · exact hnew
    · exact hmalformed new h
  · next hne =>
    rw [if_neg hne, Option.or_none, htakes]
    exact h

/-- **One keyword more is represented** by a node that takes it on. -/
theorem Represents.snoc {stands : String → SchemaId → Prop} {entries : Entries}
    {entry : String × Json × String} {n m : SchemaNode} (h : Represents stands entries n)
    (hkey : entry.1 ∉ entries.keys) (htakes : Takes stands entry n m) :
    Represents stands (entries ++ [entry]) m where
  fields := fun field => (h.fields field).snoc hkey (htakes.fields field)
  definitions := by
    obtain ⟨parts, hparts, heq⟩ := h.definitions
    have htakes := htakes.definitions
    rw [List.filter_append]
    split at htakes
    · next hdefinitions =>
      obtain ⟨part, hpart, hm⟩ := htakes
      refine ⟨parts ++ [part], ?_, ?_⟩
      · rw [List.filter_cons, if_pos hdefinitions]
        exact List.rel_append hparts (.cons hpart .nil)
      · rw [List.foldl_append, ← heq]
        exact hm
    · next hnot =>
      refine ⟨parts, ?_, htakes.trans heq⟩
      rw [List.filter_cons, if_neg hnot, List.filter_nil, List.append_nil]
      exact hparts
  keywords := by
    rw [htakes.keywords, List.filter_append, List.map_append, h.keywords]
    split
    · next hstructural => simp [hstructural]
    · next hplain =>
      rw [Dict.insert_of_not_mem fun hmem => ?_]
      · simp [hplain]
      · rw [Dict.keys, List.map_map] at hmem
        obtain ⟨other, hother, heq⟩ := List.mem_map.1 hmem
        exact hkey (List.mem_map.2 ⟨other, List.mem_of_mem_filter hother, heq⟩)

section Takes

variable {stands : String → SchemaId → Prop} {entry : String × Json × String}
  {n m : SchemaNode}

/-- A keyword with a field of its own sets that field alone. -/
theorem Takes.set (field : Field) {value : Json} {base : String} {held : field.Held}
    (h : field.shape stands base field.keyword value held) :
    Takes stands (field.keyword, value, base) n (field.set n held) where
  fields := by
    intro other
    by_cases heq : other = field
    · subst heq
      rw [Shape.Takes, if_pos rfl, other.get_set]
      exact Or.inl h
    · exact Shape.takes_of_ne (fun hsame => heq (Field.keyword_injective hsame.symm))
        (Field.get_set_of_ne n heq held)
  definitions := by
    rw [if_neg (by rw [field.not_isDefinitions_keyword]; exact Bool.false_ne_true)]
    cases field <;> rfl
  keywords := by
    rw [if_pos field.isStructural_keyword]
    cases field <;> rfl

/-- A malformed value changes nothing. -/
theorem Takes.of_malformed (field : Field) {value : Json} {base : String}
    (h : ∀ held, field.shape stands "" field.keyword .null held →
      field.shape stands base field.keyword value held) :
    Takes stands (field.keyword, value, base) n n where
  fields := by
    intro other
    by_cases heq : other = field
    · subst heq
      rw [Shape.Takes, if_pos rfl]
      exact Or.inr ⟨rfl, h⟩
    · exact Shape.takes_of_ne (fun hsame => heq (Field.keyword_injective hsame.symm)) rfl
  definitions := by
    rw [if_neg (by rw [field.not_isDefinitions_keyword]; exact Bool.false_ne_true)]
  keywords := by rw [if_pos field.isStructural_keyword]

/-- Definitions are written over those that are there. -/
theorem Takes.of_definitions {part : Dict SchemaId} (hkey : isDefinitions entry.1 = true)
    (hpart : HoldsNamed stands entry.2.2 entry.1 entry.2.1 part)
    (hfields : ∀ field : Field, field.get m = field.get n)
    (hdefinitions : m.definitions = n.definitions.extend part)
    (hkeywords : m.keywords = n.keywords) : Takes stands entry n m where
  fields := by
    intro field
    refine Shape.takes_of_ne (fun heq => ?_) (hfields field)
    rw [heq, field.not_isDefinitions_keyword] at hkey
    cases hkey
  definitions := by
    rw [if_pos hkey]
    exact ⟨part, hpart, hdefinitions⟩
  keywords := by
    have hstructural : Keyword.isStructural entry.1 = true := by
      rw [isDefinitions, Bool.or_eq_true, decide_eq_true_iff, decide_eq_true_iff] at hkey
      rcases hkey with heq | heq <;> rw [heq] <;> decide
    rw [if_pos hstructural, hkeywords]

/-- Other keywords change no field, and what is not structural is kept. -/
theorem Takes.of_other {keyword base : String} {value : Json}
    (hfields : ∀ field : Field, keyword ≠ field.keyword) (hnot : isDefinitions keyword = false)
    (hget : ∀ field : Field, field.get m = field.get n)
    (hdefinitions : m.definitions = n.definitions)
    (hkeywords : m.keywords = if Keyword.isStructural keyword then n.keywords
      else n.keywords.insert keyword value) : Takes stands (keyword, value, base) n m where
  fields := fun field => Shape.takes_of_ne (hfields field) (hget field)
  definitions := by
    rw [if_neg (by rw [hnot]; exact Bool.false_ne_true)]
    exact hdefinitions
  keywords := hkeywords

end Takes

/-! ### One node for each place -/

section Unique

variable {stands : String → SchemaId → Prop}
  (hunique : ∀ pointer id other, stands pointer id → stands pointer other → id = other)

include hunique

theorem HoldsNamed.unique {base keyword : String} {value : Json} {held other : Dict SchemaId}
    (h : HoldsNamed stands base keyword value held)
    (hother : HoldsNamed stands base keyword value other) : held = other := by
  cases value with
  | object entries =>
    refine List.right_unique_forall₂' (fun entry part part' hpart hpart' => ?_) h hother
    exact Prod.ext (hpart.1.trans hpart'.1.symm) (hunique _ _ _ hpart.2 hpart'.2)
  | _ => exact Eq.trans h (Eq.symm hother)

theorem HoldsListed.unique {base keyword : String} {value : Json} {held other : List SchemaId}
    (h : HoldsListed stands base keyword value held)
    (hother : HoldsListed stands base keyword value other) : held = other := by
  cases value with
  | array items => exact List.right_unique_forall₂' (fun item => hunique _) h hother
  | _ => exact Eq.trans h (Eq.symm hother)

/-- **The value of a keyword decides what its field holds.** -/
theorem Field.shape_unique (field : Field) {base keyword : String} {value : Json}
    {held other : field.Held} (h : field.shape stands base keyword value held)
    (hother : field.shape stands base keyword value other) : held = other := by
  have hone : ∀ {α : Type} {make : SchemaId → α} {held other : α},
      (∃ id, stands (Pointer.build base [keyword]) id ∧ held = make id) →
      (∃ id, stands (Pointer.build base [keyword]) id ∧ other = make id) → held = other := by
    rintro α make _ _ ⟨id, hid, rfl⟩ ⟨id', hid', rfl⟩
    rw [hunique _ _ _ hid hid']
  cases field with
  | properties | patternProperties => exact HoldsNamed.unique hunique h hother
  | anyOf | oneOf => exact HoldsListed.unique hunique h hother
  | additionalProperties | additionalItems =>
    cases value with
    | object entries => exact hone h hother
    | _ => exact Eq.trans h (Eq.symm hother)
  | items =>
    cases value with
    | object entries => exact hone h hother
    | bool value => exact hone h hother
    | array items =>
      obtain ⟨ids, hids, rfl⟩ := h
      obtain ⟨ids', hids', rfl⟩ := hother
      rw [HoldsListed.unique hunique hids hids']
    | _ => exact Eq.trans h (Eq.symm hother)
  | allOf =>
    cases value with
    | array items =>
      exact Prod.ext (HoldsListed.unique hunique h.1 hother.1) (h.2.trans hother.2.symm)
    | _ => exact Eq.trans h (Eq.symm hother)
  | bases =>
    cases value with
    | object entries => exact hone h hother
    | array items =>
      have hlisted : HoldsListed stands base keyword (.array items) held := h
      exact hlisted.unique hunique hother
    | _ => exact Eq.trans h (Eq.symm hother)

/-- Schemas that say the same under the keyword of a field hold the same there. -/
theorem Represents.get_eq {entries entries' : Entries} {n m : SchemaNode}
    (h : Represents stands entries n) (h' : Represents stands entries' m) {field : Field}
    (hsame : Dict.get? entries field.keyword = Dict.get? entries' field.keyword) :
    field.get n = field.get m := by
  have hfield := h.fields field
  rw [Entries.Holds, hsame] at hfield
  exact field.shape_unique hunique hfield (h'.fields field)

/-- Schemas with the same definitions hold the same definitions. -/
theorem Represents.definitions_eq {entries entries' : Entries} {n m : SchemaNode}
    (h : Represents stands entries n) (h' : Represents stands entries' m)
    (hsame : (entries.filter fun entry => isDefinitions entry.1) =
      entries'.filter fun entry => isDefinitions entry.1) : n.definitions = m.definitions := by
  obtain ⟨parts, hparts, heq⟩ := h.definitions
  obtain ⟨parts', hparts', heq'⟩ := h'.definitions
  rw [hsame] at hparts
  have hparts_eq : parts = parts' := List.right_unique_forall₂'
    (fun entry part part' hpart hpart' => hpart.unique hunique hpart') hparts hparts'
  rw [heq, heq', hparts_eq]

end Unique

end SchemaGraph
end SchemaTypings
