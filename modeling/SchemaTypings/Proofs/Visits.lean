import SchemaTypings.Proofs.Representation
import SchemaTypings.Proofs.Stateful

/-! # What a keyword visits

Whatever the keyword, linking it is a list of visits to schemas in its value, followed by one change
of the node that is being expanded.  The change has one of four forms: it does nothing, sets the
field of the keyword, adds definitions, or stores the keyword as it is.  So what holds of a walk for
every visit and for these four changes holds of it for every keyword, and no other proof about the
walk reads the keywords case by case.

A visit itself goes one of four ways: it follows a reference, makes an unresolved node of one that
leads nowhere, gives the node a place has, or opens a new one and links its keywords.
`yields_linkNode` is one step of that, and the inductions over a walk cite it.
-/
namespace SchemaTypings

/-! ### Values in values -/

/-- **A value in a value**, at any depth. -/
inductive Json.Within : Json → Json → Prop
  | self (value : Json) : Within value value
  | item {items : List Json} {item value : Json} (hitem : item ∈ items) (h : Within item value) :
    Within (.array items) value
  | entry {entries : Dict Json} {entry : String × Json} {value : Json} (hentry : entry ∈ entries)
    (h : Within entry.2 value) : Within (.object entries) value

theorem Json.Within.trans {a b c : Json} (hab : Within a b) (hbc : Within b c) : Within a c := by
  induction hab with
  | self => exact hbc
  | item hitem _ ih => exact .item hitem (ih hbc)
  | entry hentry _ ih => exact .entry hentry (ih hbc)

/-- What a path leads to is in the value. -/
theorem Pointer.within_of_follow? {root value : Json} {path : List String}
    (h : follow? root path = some value) : root.Within value := by
  induction path generalizing root with
  | nil =>
    cases h
    exact .self _
  | cons segment path ih =>
    rw [follow?, Option.bind_eq_some_iff] at h
    obtain ⟨child, hchild, h⟩ := h
    cases root with
    | object entries => exact .entry (Dict.mem_of_get? hchild) (ih h)
    | array items =>
      obtain ⟨i, -, hi⟩ := Option.bind_eq_some_iff.1 hchild
      exact .item (List.mem_of_getElem? hi) (ih h)
    | _ => cases hchild

/-- The objects in a value have distinct keys where all have. -/
theorem Json.Within.hasDistinctKeys {root value : Json} (h : root.Within value)
    (hkeys : root.hasDistinctKeys = true) : value.hasDistinctKeys = true := by
  induction h with
  | self => exact hkeys
  | item hitem _ ih => exact ih (Json.itemsHaveDistinctKeys_iff.1 hkeys _ hitem)
  | entry hentry _ ih => exact ih ((Json.hasDistinctKeys_object.1 hkeys).2 _ hentry)

namespace SchemaGraph

/-! ### Subschemas by field -/

/-- The nodes that a field holds. -/
def Field.ids : (field : Field) → field.Held → List SchemaId
  | properties, held | patternProperties, held => Dict.values held
  | additionalProperties, held | additionalItems, held => Additional.ids held
  | items, held => Items.ids held
  | allOf, held => held.1
  | anyOf, held | oneOf, held | bases, held => held

/-- The subschemas of a node are what its fields hold, and its definitions. -/
theorem mem_children {n : SchemaNode} {part : SchemaId} : part ∈ n.children ↔
    (∃ field : Field, part ∈ field.ids (field.get n)) ∨ part ∈ n.definitions.values := by
  constructor
  · intro h
    simp only [SchemaNode.children, List.mem_append] at h
    rcases h with ((((((((h | h) | h) | h) | h) | h) | h) | h) | h) | h
    · exact .inl ⟨.properties, h⟩
    · exact .inl ⟨.patternProperties, h⟩
    · exact .inl ⟨.additionalProperties, h⟩
    · exact .inr h
    · exact .inl ⟨.items, h⟩
    · exact .inl ⟨.additionalItems, h⟩
    · exact .inl ⟨.allOf, h⟩
    · exact .inl ⟨.anyOf, h⟩
    · exact .inl ⟨.oneOf, h⟩
    · exact .inl ⟨.bases, h⟩
  · intro h
    simp only [SchemaNode.children, List.mem_append]
    rcases h with ⟨field, h⟩ | h
    · cases field <;> simp only [Field.ids, Field.get] at h <;> tauto
    · tauto

/-! ### Visits -/

/-- A visit to make: a value, where it stands, and where it is reached from. -/
structure Call where
  pointer : String
  value : Json
  origin : Origin

/-- Makes a visit. -/
def Visit.answer (visit : Visit) (call : Call) : Linking SchemaId :=
  visit call.pointer call.value call.origin

/-- Where the schemas under a keyword stand, below the object that holds it. -/
def below (keyword : String) (value : Json) : List (List String) :=
  match Keyword.role? keyword, value with
  | some .named, .object entries => entries.map fun entry => [keyword, entry.1]
  | some .single, .object _ => if keyword = "not" then [] else [[keyword]]
  | some .listed, .array items => items.zipIdx.map fun item => [keyword, toString item.2]
  | some .either, .array items => items.zipIdx.map fun item => [keyword, toString item.2]
  | some .either, .object _ => [[keyword]]
  | some .either, .bool _ => if keyword = "items" then [[keyword]] else []
  | _, _ => []

/-- The visits to the schemas of an object. -/
def namedCalls (base keyword : String) (origin : String → Origin) (entries : Dict Json) :
    List Call :=
  entries.map fun entry => ⟨Pointer.build base [keyword, entry.1], entry.2, origin entry.1⟩

/-- The visits to the schemas of a list. -/
def listedCalls (base keyword : String) (origin : Origin) (items : List Json) : List Call :=
  items.zipIdx.map fun item => ⟨Pointer.build base [keyword, toString item.2], item.1, origin⟩

theorem linkNamed_eq (visit : Visit) (base keyword : String) (origin : String → Origin)
    (entries : Dict Json) : linkNamed visit base keyword origin entries = do
      let ids ← (namedCalls base keyword origin entries).mapM visit.answer
      return entries.keys.zip ids := by
  rw [linkNamed, namedCalls, List.mapM_map]
  induction entries with
  | nil => simp [Dict.keys]
  | cons entry rest ih =>
    rw [List.mapM_cons, List.mapM_cons, ih]
    simp only [bind_assoc, pure_bind, Function.comp, Visit.answer]
    rfl

theorem linkListed_eq (visit : Visit) (base keyword : String) (origin : Origin)
    (items : List Json) : linkListed visit base keyword origin items =
      (listedCalls base keyword origin items).mapM visit.answer := by
  rw [linkListed, listedCalls, List.mapM_map]
  rfl

theorem within_of_mem_namedCalls {base keyword : String} {origin : String → Origin}
    {entries : Dict Json} {call : Call} (h : call ∈ namedCalls base keyword origin entries) :
    Json.Within (.object entries) call.value := by
  obtain ⟨entry, hentry, rfl⟩ := List.mem_map.1 h
  exact .entry hentry (.self _)

theorem within_of_mem_listedCalls {base keyword : String} {origin : Origin} {items : List Json}
    {call : Call} (h : call ∈ listedCalls base keyword origin items) :
    Json.Within (.array items) call.value := by
  obtain ⟨item, hitem, rfl⟩ := List.mem_map.1 h
  exact .item (List.fst_mem_of_mem_zipIdx hitem) (.self _)

theorem parent_of_mem_namedCalls {id : SchemaId} {base keyword : String} {origin : String → Origin}
    (horigin : ∀ key, (origin key).parent = some id) {entries : Dict Json} {call : Call}
    (h : call ∈ namedCalls base keyword origin entries) : call.origin.parent = some id := by
  obtain ⟨entry, -, rfl⟩ := List.mem_map.1 h
  exact horigin entry.1

theorem parent_of_mem_listedCalls {id : SchemaId} {base keyword : String} {origin : Origin}
    (horigin : origin.parent = some id) {items : List Json} {call : Call}
    (h : call ∈ listedCalls base keyword origin items) : call.origin.parent = some id := by
  obtain ⟨item, -, rfl⟩ := List.mem_map.1 h
  exact horigin

/-- The schemas of an object stand below its keyword, each under its key. -/
theorem found_of_mem_namedCalls {base keyword : String} {origin : String → Origin}
    {entries : Dict Json} (hrole : Keyword.role? keyword = some .named)
    (hkeys : (Json.object entries).hasDistinctKeys = true) {call : Call}
    (h : call ∈ namedCalls base keyword origin entries) : ∃ rest,
      keyword :: rest ∈ below keyword (.object entries) ∧
        call.pointer = Pointer.build base (keyword :: rest) ∧
        Pointer.follow? (.object entries) rest = some call.value := by
  obtain ⟨entry, hentry, rfl⟩ := List.mem_map.1 h
  refine ⟨[entry.1], ?_, rfl, ?_⟩
  · simp only [below, hrole]
    exact List.mem_map.2 ⟨entry, hentry, rfl⟩
  · have hget := Dict.get?_of_mem (Json.hasDistinctKeys_object.1 hkeys).1 hentry
    rw [Pointer.follow?, Pointer.step?, hget]
    rfl

/-- The schemas of a list stand below its keyword, each at its position. -/
theorem found_of_mem_listedCalls {base keyword : String} {origin : Origin} {items : List Json}
    (hrole : Keyword.role? keyword = some .listed ∨ Keyword.role? keyword = some .either)
    {call : Call} (h : call ∈ listedCalls base keyword origin items) : ∃ rest,
      keyword :: rest ∈ below keyword (.array items) ∧
        call.pointer = Pointer.build base (keyword :: rest) ∧
        Pointer.follow? (.array items) rest = some call.value := by
  obtain ⟨item, hitem, rfl⟩ := List.mem_map.1 h
  refine ⟨[toString item.2], ?_, rfl, ?_⟩
  · rcases hrole with hrole | hrole
    all_goals
      simp only [below, hrole]
      exact List.mem_map.2 ⟨item, hitem, rfl⟩
  · rw [Pointer.follow?, Pointer.step?, Pointer.index?_toString, Option.bind_some,
      List.mk_mem_zipIdx_iff_getElem?.1 hitem]
    rfl

theorem holdsNamed_of_calls {stands : String → SchemaId → Prop} {base keyword : String}
    {origin : String → Origin} {entries : Dict Json} {ids : List SchemaId}
    (h : List.Forall₂ (fun call id => stands call.pointer id)
      (namedCalls base keyword origin entries) ids) :
    HoldsNamed stands base keyword (.object entries) (entries.keys.zip ids) := by
  induction entries generalizing ids with
  | nil => exact .nil
  | cons entry rest ih =>
    cases h with
    | cons hid hrest => exact .cons ⟨rfl, hid⟩ (ih hrest)

theorem holdsListed_of_calls {stands : String → SchemaId → Prop} {base keyword : String}
    {origin : Origin} {items : List Json} {ids : List SchemaId}
    (h : List.Forall₂ (fun call id => stands call.pointer id)
      (listedCalls base keyword origin items) ids) :
    HoldsListed stands base keyword (.array items) ids := by
  rwa [listedCalls, List.forall₂_map_left_iff] at h

@[simp] theorem length_listedCalls (base keyword : String) (origin : Origin) (items : List Json) :
    (listedCalls base keyword origin items).length = items.length := by
  simp [listedCalls]

/-! ### Changes -/

/-- **What a keyword does to the node that is being expanded**, given the nodes of the schemas that
it visits, of which there are `count`. -/
inductive Absorbs (keyword : String) (value : Json) (count : Nat) :
    (List SchemaId → SchemaNode → SchemaNode) → Prop
  /-- A malformed or ignored keyword changes nothing. -/
  | nothing (hcount : count = 0) : Absorbs keyword value count fun _ n => n
  /-- The field of the keyword is set, and holds the nodes. -/
  | set (field : Field) (held : List SchemaId → field.Held) (hkeyword : keyword = field.keyword)
    (hids : ∀ ids : List SchemaId, ids.length = count → field.ids (held ids) = ids) :
    Absorbs keyword value count fun ids n => field.set n (held ids)
  /-- The nodes are written over the definitions, under their keys. -/
  | definitions (entries : Dict Json) (hkeyword : isDefinitions keyword = true)
    (hvalue : value = .object entries) (hcount : count = entries.length) :
    Absorbs keyword value count fun ids n =>
      { n with definitions := n.definitions.extend (entries.keys.zip ids) }
  /-- The keyword is stored. -/
  | stored (hfields : ∀ field : Field, keyword ≠ field.keyword)
    (hdefinitions : isDefinitions keyword = false) (hcount : count = 0) :
    Absorbs keyword value count fun _ n => n.setKeyword keyword value

theorem values_zip_keys {entries : Dict Json} {ids : List SchemaId}
    (h : ids.length = entries.length) : Dict.values (entries.keys.zip ids) = ids := by
  rw [Dict.values]
  refine List.map_snd_zip (Nat.le_of_eq ?_)
  rw [Dict.keys, List.length_map, h]

/-- Changing nothing. -/
theorem change_id (id : SchemaId) : change id (fun n => n) = pure () := by
  have hsame : ∀ l : Linked, l.modifyNode id (fun n => n) = l := by
    intro l
    have hnodes : l.nodes.modify id (fun n => n) = l.nodes := by
      refine Array.ext (by simp) fun i _ _ => ?_
      rw [Array.getElem_modify]
      split <;> rfl
    rw [Linked.modifyNode, hnodes]
  have hmodify : change id (fun n => n) = modify (m := Linking) fun l => l :=
    congrArg modify (funext hsame)
  exact hmodify

/-- What a keyword of a node visits, from there, and what it changes then. -/
structure Links (id : SchemaId) (keyword : String) (value : Json) (calls : List Call)
    (absorb : List SchemaId → SchemaNode → SchemaNode) : Prop where
  within : ∀ call ∈ calls, value.Within call.value
  parent : ∀ call ∈ calls, call.origin.parent = some id
  absorbs : Absorbs keyword value calls.length absorb

/-- Makes the visits, and then the change. -/
def takeOn (visit : Visit) (id : SchemaId) (calls : List Call)
    (absorb : List SchemaId → SchemaNode → SchemaNode) : Linking Unit := do
  let ids ← calls.mapM visit.answer
  change id (absorb ids)

/-- **A list of visits, and then a change**, as a keyword may ask for. -/
def TakesOn (id : SchemaId) (keyword : String) (value : Json) (x : Visit → Linking Unit) : Prop :=
  ∃ calls absorb, Links id keyword value calls absorb ∧
    ∀ visit, x visit = takeOn visit id calls absorb

/-- **How a keyword of the object at `base` is linked**: the schemas that it visits stand below it,
each at its pointer, and once they have their nodes the keyword is taken on. -/
structure LinksAt (base : String) (id : SchemaId) (keyword : String) (value : Json)
    (calls : List Call) (absorb : List SchemaId → SchemaNode → SchemaNode) : Prop
    extends Links id keyword value calls absorb where
  found : value.hasDistinctKeys = true → ∀ call ∈ calls, ∃ rest,
    keyword :: rest ∈ below keyword value ∧
      call.pointer = Pointer.build base (keyword :: rest) ∧
      Pointer.follow? value rest = some call.value
  takes : ∀ {stands : String → SchemaId → Prop} {ids : List SchemaId},
    List.Forall₂ (fun call id => stands call.pointer id) calls ids →
      ∀ n, Takes stands (keyword, value, base) n (absorb ids n)

/-- A list of visits, and then a change, as a keyword of the object at `base` asks for. -/
def TakesOnAt (base : String) (id : SchemaId) (keyword : String) (value : Json)
    (x : Visit → Linking Unit) : Prop :=
  ∃ calls absorb, LinksAt base id keyword value calls absorb ∧
    ∀ visit, x visit = takeOn visit id calls absorb

/-! ### The forms of keywords -/

section Forms

variable {id : SchemaId} {keyword base : String} {value : Json} {items : List Json}
  {entries : Dict Json}

/-- A change without visits. -/
theorem takesOnAt_change {f : SchemaNode → SchemaNode}
    (hf : Absorbs keyword value 0 fun _ n => f n)
    (htakes : ∀ stands n, Takes stands (keyword, value, base) n (f n)) :
    TakesOnAt base id keyword value fun _ => change id f := by
  refine ⟨[], fun _ n => f n, { within := ?_, parent := ?_, absorbs := hf, found := ?_, takes := ?_ },
    fun visit => ?_⟩
  · exact fun _ h => absurd h List.not_mem_nil
  · exact fun _ h => absurd h List.not_mem_nil
  · exact fun _ _ h => absurd h List.not_mem_nil
  · exact fun _ => htakes _
  · rw [takeOn, List.mapM_nil, pure_bind]

theorem takesOnAt_nothing (htakes : ∀ stands n, Takes stands (keyword, value, base) n n) :
    TakesOnAt base id keyword value fun _ => pure () := by
  rw [← change_id id]
  exact takesOnAt_change (.nothing rfl) htakes

/-- A malformed value, which holds no more than a missing one. -/
theorem takesOnAt_malformed (field : Field)
    (h : ∀ stands held, field.shape stands "" field.keyword .null held →
      field.shape stands base field.keyword value held) :
    TakesOnAt base id field.keyword value fun _ => pure () :=
  takesOnAt_nothing fun stands _ => .of_malformed field (h stands)

/-- A field is set to what holds no nodes. -/
theorem takesOnAt_switch (field : Field) (held : field.Held) (hids : field.ids held = [])
    (hshape : ∀ stands, field.shape stands base field.keyword value held) :
    TakesOnAt base id field.keyword value fun _ => change id fun n => field.set n held :=
  takesOnAt_change (.set field (fun _ => held) rfl fun _ hlength =>
    hids.trans (List.length_eq_zero_iff.1 hlength).symm) fun stands _ => .set field (hshape stands)

/-- A schema for each key. -/
theorem takesOnAt_named (field : Field) (hrole : Keyword.role? field.keyword = some .named)
    {origin : String → Origin} (horigin : ∀ key, (origin key).parent = some id)
    (held : Dict SchemaId → field.Held) (hids : ∀ d, field.ids (held d) = d.values)
    (hshape : ∀ stands d, HoldsNamed stands base field.keyword (.object entries) d →
      field.shape stands base field.keyword (.object entries) (held d)) :
    TakesOnAt base id field.keyword (.object entries) (fun visit => do
      let linked ← linkNamed visit base field.keyword origin entries
      change id fun n => field.set n (held linked)) := by
  refine ⟨namedCalls base field.keyword origin entries,
    fun ids n => field.set n (held (entries.keys.zip ids)),
    { within := fun _ => within_of_mem_namedCalls
      parent := fun _ => parent_of_mem_namedCalls horigin
      absorbs := .set field (fun ids => held (entries.keys.zip ids)) rfl fun ids hlength => ?_
      found := fun hkeys _ => found_of_mem_namedCalls hrole hkeys
      takes := fun hcalls _ => .set field (hshape _ _ (holdsNamed_of_calls hcalls)) },
    fun visit => ?_⟩
  · exact (hids _).trans (values_zip_keys (by simpa [namedCalls] using hlength))
  · simp only [linkNamed_eq, takeOn, bind_assoc, pure_bind]

/-- A schema for each key, among the definitions. -/
theorem takesOnAt_definitions (hkeyword : isDefinitions keyword = true)
    (hrole : Keyword.role? keyword = some .named) {origin : String → Origin}
    (horigin : ∀ key, (origin key).parent = some id) :
    TakesOnAt base id keyword (.object entries) (fun visit => do
      let linked ← linkNamed visit base keyword origin entries
      change id fun n => { n with definitions := n.definitions.extend linked }) := by
  refine ⟨namedCalls base keyword origin entries,
    fun ids n => { n with definitions := n.definitions.extend (entries.keys.zip ids) },
    { within := fun _ => within_of_mem_namedCalls
      parent := fun _ => parent_of_mem_namedCalls horigin
      absorbs := .definitions entries hkeyword rfl (by simp [namedCalls])
      found := fun hkeys _ => found_of_mem_namedCalls hrole hkeys
      takes := fun hcalls _ => .of_definitions hkeyword (holdsNamed_of_calls hcalls)
        (fun field => by cases field <;> rfl) rfl rfl }, fun visit => ?_⟩
  simp only [linkNamed_eq, takeOn, bind_assoc, pure_bind]

/-- A schema for each item. -/
theorem takesOnAt_listed (field : Field)
    (hrole : Keyword.role? field.keyword = some .listed ∨
      Keyword.role? field.keyword = some .either)
    {origin : Origin} (horigin : origin.parent = some id)
    (held : List SchemaId → field.Held) (hids : ∀ ids, field.ids (held ids) = ids)
    (hshape : ∀ stands ids, HoldsListed stands base field.keyword (.array items) ids →
      field.shape stands base field.keyword (.array items) (held ids)) :
    TakesOnAt base id field.keyword (.array items) (fun visit => do
      let ids ← linkListed visit base field.keyword origin items
      change id fun n => field.set n (held ids)) := by
  refine ⟨listedCalls base field.keyword origin items, fun ids n => field.set n (held ids),
    { within := fun _ => within_of_mem_listedCalls
      parent := fun _ => parent_of_mem_listedCalls horigin
      absorbs := .set field held rfl fun ids _ => hids ids
      found := fun _ _ => found_of_mem_listedCalls hrole
      takes := fun hcalls _ => .set field (hshape _ _ (holdsListed_of_calls hcalls)) },
    fun visit => ?_⟩
  simp only [linkListed_eq, takeOn]

/-- A schema for each item of a list that a schema is put together from. -/
theorem takesOnAt_members (field : Field)
    (hrole : Keyword.role? field.keyword = some .listed ∨
      Keyword.role? field.keyword = some .either)
    {origin : Origin} (horigin : origin.parent = some id)
    (held : List SchemaId × Bool → field.Held)
    (hids : ∀ found, field.ids (held found) = found.1)
    (hshape : ∀ stands found, HoldsJoined stands base field.keyword value found →
      field.shape stands base field.keyword value (held found))
    (hmissing : ∀ stands none, field.shape stands "" field.keyword .null none →
      none = held ([], false)) :
    TakesOnAt base id field.keyword value (fun visit => do
      match ← linkMembers visit base field.keyword origin value with
      | some (ids, byRef) => change id fun n => field.set n (held (ids, byRef))
      | none => pure ()) := by
  cases value with
  | array items =>
    simp only [linkMembers, bind_assoc, pure_bind]
    exact takesOnAt_listed field hrole horigin (fun ids => held (ids, !items.isEmpty &&
      items.all fun item => (Bundle.bareRef? item).isSome)) (fun _ => hids _)
      fun stands ids h => hshape stands _ ⟨h, rfl⟩
  | _ =>
    exact takesOnAt_malformed field fun stands none hnone =>
      hmissing stands none hnone ▸ hshape stands _ rfl

/-- One schema. -/
theorem takesOnAt_one (field : Field) (hbelow : [field.keyword] ∈ below field.keyword value)
    {origin : Origin} (horigin : origin.parent = some id) (held : SchemaId → field.Held)
    (hids : ∀ id, field.ids (held id) = [id])
    (hshape : ∀ (stands : String → SchemaId → Prop) child,
      stands (Pointer.build base [field.keyword]) child →
        field.shape stands base field.keyword value (held child)) :
    TakesOnAt base id field.keyword value (fun visit => do
      let child ← visit (Pointer.build base [field.keyword]) value origin
      change id fun n => field.set n (held child)) := by
  refine ⟨[⟨Pointer.build base [field.keyword], value, origin⟩],
    fun ids n => field.set n (held (ids.headD 0)),
    { within := fun call hcall => ?_
      parent := fun call hcall => ?_
      absorbs := .set field (fun ids => held (ids.headD 0)) rfl fun ids hlength => ?_
      found := fun _ call hcall => ?_
      takes := fun hcalls n => ?_ }, fun visit => ?_⟩
  · cases List.mem_singleton.1 hcall
    exact .self _
  · cases List.mem_singleton.1 hcall
    exact horigin
  · obtain ⟨child, rfl⟩ := List.length_eq_one_iff.1 hlength
    exact hids child
  · cases List.mem_singleton.1 hcall
    exact ⟨[], hbelow, rfl, rfl⟩
  · cases hcalls with
    | cons hchild _ => exact .set field (hshape _ _ hchild)
  · simp only [takeOn, List.mapM_cons, List.mapM_nil, Visit.answer, bind_assoc, pure_bind,
      List.headD_cons]

/-- A switch, or a schema for the rest. -/
theorem takesOnAt_additional (field : Field) (hrole : Keyword.role? field.keyword = some .single)
    {origin : Origin} (horigin : origin.parent = some id)
    (held : Option Additional → field.Held)
    (hids : ∀ found, field.ids (held found) = Additional.ids found)
    (hshape : ∀ stands found, HoldsRest stands base field.keyword value found →
      field.shape stands base field.keyword value (held found))
    (hmissing : ∀ stands missing, field.shape stands "" field.keyword .null missing →
      missing = held none) :
    TakesOnAt base id field.keyword value (fun visit => do
      match ← linkAdditional visit base field.keyword origin value with
      | some found => change id fun n => field.set n (held (some found))
      | none => pure ()) := by
  cases value with
  | bool switch =>
    exact takesOnAt_switch field (held (some (.allowed switch))) (hids _)
      fun stands => hshape stands _ rfl
  | object entries =>
    simp only [linkAdditional, bind_assoc, pure_bind]
    refine takesOnAt_one field ?_ horigin (fun child => held (some (.schema child)))
      (fun _ => hids _) fun stands child hchild => hshape stands _ ⟨child, hchild, rfl⟩
    have hnot : field.keyword ≠ "not" := by cases field <;> decide
    simp [below, hrole, hnot]
  | _ =>
    exact takesOnAt_malformed field fun stands missing hnone =>
      hmissing stands missing hnone ▸ hshape stands none rfl

end Forms

/-- **Linking a keyword** of the object at `base` is a list of visits, and then a change.  Only here
the keywords are told apart. -/
theorem takesOnAt_linkKeyword (id : SchemaId) (hint : Option String) (keyword : String)
    (value : Json) (base : String) :
    TakesOnAt base id keyword value fun visit => linkKeyword visit id hint keyword value base := by
  unfold linkKeyword
  split
  case h_1 =>
    cases value with
    | object entries =>
      exact takesOnAt_named .properties (by decide) (fun _ => rfl) (fun held => held)
        (fun _ => rfl) fun _ _ h => h
    | _ => exact takesOnAt_malformed .properties fun _ _ h => h
  case h_2 =>
    cases value with
    | object entries =>
      exact takesOnAt_named .patternProperties (by decide) (fun _ => rfl) (fun held => held)
        (fun _ => rfl) fun _ _ h => h
    | _ => exact takesOnAt_malformed .patternProperties fun _ _ h => h
  case h_3 | h_4 =>
    cases value with
    | object entries => exact takesOnAt_definitions (by decide) (by decide) fun _ => rfl
    | _ =>
      exact takesOnAt_nothing fun stands n => .of_definitions rfl
        (rfl : ([] : Dict SchemaId) = []) (fun _ => rfl) rfl rfl
  case h_5 =>
    exact takesOnAt_additional .additionalProperties (by decide) rfl (fun found => found)
      (fun _ => rfl) (fun _ _ h => h) fun _ _ h => h
  case h_6 =>
    exact takesOnAt_additional .additionalItems (by decide) rfl (fun found => found)
      (fun _ => rfl) (fun _ _ h => h) fun _ _ h => h
  case h_7 =>
    cases value with
    | array items =>
      exact takesOnAt_listed .items (by decide) rfl (fun ids => some (.tuple ids)) (fun _ => rfl)
        fun _ ids h => ⟨ids, h, rfl⟩
    | object entries | bool switch =>
      exact takesOnAt_one .items (List.mem_singleton_self _) rfl (fun child => some (.each child))
        (fun _ => rfl) fun _ child h => ⟨child, h, rfl⟩
    | _ => exact takesOnAt_malformed .items fun _ _ h => h
  case h_8 =>
    exact takesOnAt_members .anyOf (by decide) rfl Prod.fst (fun _ => rfl)
      (fun _ _ h => h.listed) fun _ _ h => h
  case h_9 =>
    exact takesOnAt_members .oneOf (by decide) rfl Prod.fst (fun _ => rfl)
      (fun _ _ h => h.listed) fun _ _ h => h
  case h_10 =>
    exact takesOnAt_members .allOf (by decide) rfl (fun found => found) (fun _ => rfl)
      (fun _ _ h => h) fun _ _ h => h
  case h_11 =>
    cases value with
    | object entries =>
      exact takesOnAt_one .bases (List.mem_singleton_self _) rfl (fun child => [child])
        (fun _ => rfl) fun _ child h => ⟨child, h, rfl⟩
    | _ =>
      exact takesOnAt_members .bases (by decide) rfl Prod.fst (fun _ => rfl)
        (fun _ _ h => h.listed) fun _ _ h => h
  case h_12 =>
    refine takesOnAt_nothing fun stands n => .of_other (fun field => ?_) rfl (fun _ => rfl) rfl rfl
    cases field <;> decide
  case h_13 =>
    have hfields : ∀ field : Field, keyword ≠ field.keyword := by
      rintro (_ | _ | _ | _ | _ | _ | _ | _ | _) heq <;> contradiction
    have hplain : Keyword.isStructural keyword = false ∧ isDefinitions keyword = false := by
      simp_all [Keyword.isStructural, Keyword.role?, isDefinitions]
    refine takesOnAt_change (.stored hfields hplain.2 rfl) fun stands n =>
      .of_other hfields hplain.2 (fun field => by cases field <;> rfl) rfl ?_
    rw [hplain.1]
    rfl

/-- **Linking a keyword** is a list of visits, and then a change. -/
theorem takesOn_linkKeyword (id : SchemaId) (hint : Option String) (keyword : String)
    (value : Json) (base : String) :
    TakesOn id keyword value fun visit => linkKeyword visit id hint keyword value base := by
  obtain ⟨calls, absorb, hlinks, heq⟩ := takesOnAt_linkKeyword id hint keyword value base
  exact ⟨calls, absorb, hlinks.toLinks, heq⟩

/-! ### What a change keeps -/

/-- Nothing is held yet of what a keyword says: its field is empty, and so are its keys among the
definitions. -/
structure Unsaid (keyword : String) (value : Json) (n : SchemaNode) : Prop where
  field : ∀ field : Field, field.keyword = keyword → field.ids (field.get n) = []
  definitions : isDefinitions keyword = true → ∀ entries : Dict Json, value = .object entries →
    ∀ key ∈ entries.keys, key ∉ n.definitions.keys

namespace Absorbs

variable {keyword : String} {value : Json} {count : Nat} {ids : List SchemaId} {n : SchemaNode}
  {absorb : List SchemaId → SchemaNode → SchemaNode}

theorem pointer_eq (h : Absorbs keyword value count absorb) (ids : List SchemaId)
    (n : SchemaNode) : (absorb ids n).pointer = n.pointer := by
  cases h with
  | set other held => cases other <;> rfl
  | _ => rfl

theorem parent_eq (h : Absorbs keyword value count absorb) (ids : List SchemaId)
    (n : SchemaNode) : (absorb ids n).parent = n.parent := by
  cases h with
  | set other held => cases other <;> rfl
  | _ => rfl

theorem cyclic_eq (h : Absorbs keyword value count absorb) (ids : List SchemaId)
    (n : SchemaNode) : (absorb ids n).cyclic = n.cyclic := by
  cases h with
  | set other held => cases other <;> rfl
  | _ => rfl

theorem standaloneName_eq (h : Absorbs keyword value count absorb) (ids : List SchemaId)
    (n : SchemaNode) : (absorb ids n).standaloneName = n.standaloneName := by
  cases h with
  | set other held => cases other <;> rfl
  | _ => rfl

/-- A node takes on what its reference leads to, or whether it is a switch, from no keyword. -/
theorem frame_eq (h : Absorbs keyword value count absorb) (ids : List SchemaId)
    (n : SchemaNode) : (absorb ids n).boolean = n.boolean ∧
      (absorb ids n).unresolvedRef = n.unresolvedRef := by
  cases h with
  | set other held => cases other <;> exact ⟨rfl, rfl⟩
  | _ => exact ⟨rfl, rfl⟩

/-- The fields of other keywords are left alone. -/
theorem get_eq (h : Absorbs keyword value count absorb) (ids : List SchemaId) (n : SchemaNode)
    {field : Field} (hne : field.keyword ≠ keyword) :
    field.get (absorb ids n) = field.get n := by
  cases h with
  | set other held hkeyword =>
    exact Field.get_set_of_ne n (fun heq => hne (by rw [heq, hkeyword])) (held ids)
  | nothing | stored => rfl
  | definitions => cases field <;> rfl

/-- Definitions come from keywords for definitions alone. -/
theorem mem_keys_definitions (h : Absorbs keyword value count absorb) {key : String}
    (hkey : key ∈ (absorb ids n).definitions.keys) : key ∈ n.definitions.keys ∨
      (isDefinitions keyword = true ∧ ∃ entries : Dict Json,
        value = .object entries ∧ key ∈ entries.keys) := by
  cases h with
  | set other held => exact .inl (by cases other <;> exact hkey)
  | nothing | stored => exact .inl hkey
  | definitions entries hkeyword hvalue =>
    refine (Dict.mem_keys_extend hkey).imp_right fun hkey => ⟨hkeyword, entries, hvalue, ?_⟩
    obtain ⟨entry, hentry, rfl⟩ := List.mem_map.1 hkey
    exact (List.of_mem_zip hentry).1

/-- Subschemas that a keyword adds are the nodes of what it visits. -/
theorem mem_of_mem_children (h : Absorbs keyword value count absorb) (hlength : ids.length = count)
    {part : SchemaId} (hpart : part ∈ (absorb ids n).children) :
    part ∈ n.children ∨ part ∈ ids := by
  cases h with
  | nothing | stored => exact .inl hpart
  | set field held hkeyword hids =>
    rcases SchemaGraph.mem_children.1 hpart with ⟨other, hother⟩ | hdefinition
    · by_cases heq : other = field
      · subst heq
        rw [other.get_set, hids ids hlength] at hother
        exact .inr hother
      · rw [Field.get_set_of_ne n heq] at hother
        exact .inl (SchemaGraph.mem_children.2 (.inl ⟨other, hother⟩))
    · refine .inl (SchemaGraph.mem_children.2 (.inr ?_))
      cases field <;> exact hdefinition
  | definitions entries hkeyword hvalue hcount =>
    rcases SchemaGraph.mem_children.1 hpart with ⟨field, hfield⟩ | hdefinition
    · refine .inl (SchemaGraph.mem_children.2 (.inl ⟨field, ?_⟩))
      cases field <;> exact hfield
    · refine (Dict.mem_values_extend hdefinition).imp
        (fun hold => SchemaGraph.mem_children.2 (.inr hold)) fun hnew => ?_
      rwa [values_zip_keys (hlength.trans hcount)] at hnew

/-- **A keyword that is taken on for the first time** makes the nodes subschemas, and takes none
away. -/
theorem mem_children (h : Absorbs keyword value count absorb) (hlength : ids.length = count)
    (hnew : Unsaid keyword value n)
    (hkeys : ∀ entries : Dict Json, value = .object entries → entries.keys.Nodup) {part : SchemaId}
    (hpart : part ∈ n.children ∨ part ∈ ids) : part ∈ (absorb ids n).children := by
  have hkept : (∀ field : Field, field.ids (field.get n) ⊆ field.ids (field.get (absorb ids n))) →
      n.definitions.values ⊆ (absorb ids n).definitions.values → part ∈ n.children →
      part ∈ (absorb ids n).children := by
    intro hfields hdefinitions hpart
    rw [SchemaGraph.mem_children] at hpart ⊢
    exact hpart.imp (fun ⟨field, hfield⟩ => ⟨field, hfields field hfield⟩)
      fun hdefinition => hdefinitions hdefinition
  cases h with
  | nothing hcount | stored _ _ hcount =>
    rw [hcount] at hlength
    rw [List.length_eq_zero_iff.1 hlength] at hpart
    exact hpart.resolve_right List.not_mem_nil
  | set field held hkeyword hids' =>
    rcases hpart with hpart | hpart
    · refine hkept (fun other => ?_) (by cases field <;> exact fun _ h => h) hpart
      by_cases heq : other = field
      · subst heq
        rw [hnew.field other hkeyword.symm]
        exact List.nil_subset _
      · rw [Field.get_set_of_ne n heq]
        exact fun _ h => h
    · refine SchemaGraph.mem_children.2 (.inl ⟨field, ?_⟩)
      rwa [field.get_set, hids' ids hlength]
  | definitions entries hkeyword hvalue hcount =>
    have hextend : n.definitions.extend (entries.keys.zip ids) =
        n.definitions ++ entries.keys.zip ids := by
      have hzip : Dict.keys (entries.keys.zip ids) = entries.keys :=
        List.map_fst_zip (by simp [Dict.keys, hlength, hcount])
      refine Dict.extend_of_disjoint ?_ ?_
      · rw [hzip]
        exact hkeys entries hvalue
      · rw [hzip]
        exact hnew.definitions hkeyword entries hvalue
    have hvalues : (n.definitions.extend (entries.keys.zip ids)).values =
        n.definitions.values ++ ids := by
      rw [hextend, Dict.values, List.map_append]
      exact congrArg (n.definitions.values ++ ·) (values_zip_keys (hlength.trans hcount))
    rcases hpart with hpart | hpart
    · refine hkept (fun field => by cases field <;> exact fun _ h => h) ?_ hpart
      show n.definitions.values ⊆ (n.definitions.extend (entries.keys.zip ids)).values
      rw [hvalues]
      exact List.subset_append_left _ _
    · refine SchemaGraph.mem_children.2 (.inr ?_)
      show part ∈ (n.definitions.extend (entries.keys.zip ids)).values
      rw [hvalues]
      exact List.mem_append_right _ hpart

end Absorbs

/-- **The schemas that a keyword visits are in the document**, each at its pointer. -/
theorem LinksAt.resolve? {root : Json} {base keyword : String} {value : Json} {id : SchemaId}
    {calls : List Call} {absorb : List SchemaId → SchemaNode → SchemaNode}
    (h : LinksAt base id keyword value calls absorb) (hkeys : root.hasDistinctKeys = true)
    (hvalue : Pointer.resolve? root (Pointer.build base [keyword]) = some value) {call : Call}
    (hcall : call ∈ calls) : ∃ segments ∈ below keyword value,
      call.pointer = Pointer.build base segments ∧
        Pointer.resolve? root call.pointer = some call.value := by
  obtain ⟨rest, hbelow, hpointer, hfollow⟩ :=
    h.found (Pointer.hasDistinctKeys_of_follow? hkeys hvalue) call hcall
  refine ⟨keyword :: rest, hbelow, hpointer, ?_⟩
  rw [Pointer.resolve?, Pointer.split_build] at hvalue
  rw [hpointer, Pointer.resolve?, Pointer.split_build, ← List.singleton_append (x := keyword),
    ← List.append_assoc, Pointer.follow?_append, hvalue]
  exact hfollow

/-! ### What every step keeps -/

/-- A run that keeps what holds of the state. -/
def Keeps (I : Linked → Prop) {α : Type} (x : Linking α) : Prop :=
  ∀ l, I l → Yields x l fun _ m => I m

section Keeps

variable {I : Linked → Prop} {α β : Type}

theorem keeps_pure (a : α) : Keeps I (pure a : Linking α) :=
  fun _ hl => yields_pure.2 hl

theorem keeps_bind {x : Linking α} {k : α → Linking β} (hx : Keeps I x)
    (hk : ∀ a, Keeps I (k a)) : Keeps I (x >>= k) :=
  fun l hl => yields_bind.2 ((hx l hl).mono fun a m hm => hk a m hm)

theorem keeps_mapM {f : α → Linking β} {as : List α} (hf : ∀ a ∈ as, Keeps I (f a)) :
    Keeps I (as.mapM f) := by
  intro l hl
  have hall : Yields (as.mapM f) l fun bs m =>
      I m ∧ True ∧ List.Forall₂ (fun _ _ => True) as bs :=
    yields_mapM (fun _ => trivial) (fun _ _ => trivial) (fun _ _ => trivial)
      (fun a ha l hl => (hf a ha l hl).mono fun _ _ hm => ⟨hm, trivial, trivial⟩) hl
  exact hall.mono fun _ _ hm => hm.1

theorem keeps_forM {f : α → Linking PUnit} {as : List α} (hf : ∀ a ∈ as, Keeps I (f a)) :
    Keeps I (as.forM f) :=
  fun _ hl => yields_forM (fun a ha m hm => hf a ha m hm) hl

/-- A run that keeps an invariant and goes up an order stays above where it started. -/
theorem keeps_above_iff {le : Linked → Linked → Prop} [Std.Refl le] [IsTrans Linked le]
    {x : Linking α} : (∀ l, Keeps (fun m => I m ∧ le l m) x) ↔
      ∀ l, I l → Yields x l fun _ m => I m ∧ le l m := by
  constructor
  · exact fun h l hl => h l l ⟨hl, refl_of le l⟩
  · rintro h l m ⟨hm, hlm⟩
    refine (h m hm).mono ?_
    rintro - n ⟨hn, hmn⟩
    exact ⟨hn, trans_of le hlm hmn⟩

theorem keeps_register {pointer : String} {id : SchemaId}
    (h : ∀ l, I l → l.byPointer.lookup pointer = none →
      I { l with byPointer := (pointer, id) :: l.byPointer }) : Keeps I (register pointer id) := by
  intro l hl
  refine yields_modify.2 ?_
  split
  · exact hl
  · next hunknown => exact h l hl (Option.not_isSome_iff_eq_none.1 hunknown)

/-- Coming back to a node marks the nodes of a cycle, and records it. -/
theorem keeps_closeCycle {stack : List SchemaId} {id : SchemaId}
    (hmark : ∀ member, Keeps I (change member fun node => { node with cyclic := true }))
    (hrecord : ∀ l members, cycleOf? stack id = some members → I l →
      I { l with cycles := l.cycles ++ [members] }) : Keeps I (closeCycle stack id) := by
  unfold closeCycle
  split
  · exact keeps_pure _
  · next members hmembers =>
    refine keeps_bind (keeps_forM fun member _ => hmark member) fun _ l hl => yields_modify.2 ?_
    split
    · exact hl
    · exact hrecord l members hmembers hl

end Keeps

/-! ### Schemas -/

/-- The graph with one more node. -/
def Linked.push (l : Linked) (node : SchemaNode) : Linked := { l with nodes := l.nodes.push node }

theorem yields_addNode {l : Linked} (node : SchemaNode) {Q : SchemaId → Linked → Prop}
    (h : Q l.nodes.size (l.push node)) : Yields (addNode node) l Q :=
  yields_of_run rfl h

/-- A place that is not known yet is registered. -/
theorem yields_register_new {l : Linked} {pointer : String} {id : SchemaId}
    {Q : Unit → Linked → Prop} (hunknown : l.byPointer.lookup pointer = none) :
    Yields (register pointer id) l Q ↔
      Q () { l with byPointer := (pointer, id) :: l.byPointer } := by
  refine yields_modify.trans ?_
  rw [hunknown]
  exact Iff.rfl

/-- The node that is opened for a schema. -/
def openedNode (pointer : String) (value : Json) (origin : Origin) : SchemaNode :=
  { pointer, parent := origin.parent, keyName := origin.keyName
    definitionName := origin.definitionName, nameHint := origin.hint
    boolean := booleanOf value }

/-- What is linked below a node: all that an object says. -/
def linkBelow (visit : Visit) (root : Json) (id : SchemaId) (pointer : String)
    (hint : Option String) : Json → Linking Unit
  | .object object => do
    let entries ← gather root id pointer object
    entries.forM fun entry => linkKeyword visit id hint entry.1 entry.2.1 entry.2.2
  | _ => pure ()

/-- **What a visit does.**  It follows a bare reference, which gets a node of its own where it leads
nowhere or to itself; otherwise it comes back to the node of the place, or opens one and links what
is below. -/
theorem yields_linkNode {root : Json} {limit levels : Nat} {stack : List SchemaId} {l : Linked}
    {pointer : String} {value : Json} {origin : Origin} {Q : SchemaId → Linked → Prop}
    (follow : ∀ {target targetValue}, Bundle.bareRef? value = some target →
      Pointer.resolve? root target = some targetValue → target ≠ pointer →
      Yields (linkNode root limit levels stack target targetValue origin) l fun id m =>
        Yields (register pointer id) m fun _ => Q id)
    (lost : ∀ {target}, Bundle.bareRef? value = some target →
      Pointer.resolve? root target = none ∨ target = pointer →
      Yields (addUnresolved pointer target origin) l fun id m =>
        Yields (register pointer id) m fun _ => Q id)
    (again : ∀ {id}, Bundle.bareRef? value = none → l.byPointer.lookup pointer = some id →
      Yields (closeCycle stack id) l fun _ m => Yields (change id (adopt origin)) m fun _ => Q id)
    (new : Bundle.bareRef? value = none → l.byPointer.lookup pointer = none →
      Yields (register pointer l.nodes.size) (l.push (openedNode pointer value origin)) fun _ m =>
        Yields (linkBelow (linkNode root limit levels (l.nodes.size :: stack)) root l.nodes.size
          pointer origin.hint value) m fun _ => Q l.nodes.size) :
    Yields (linkNode root limit (levels + 1) stack pointer value origin) l Q := by
  -- what is brought is registered, and returned
  have hregister : ∀ {x : Linking SchemaId},
      (Yields x l fun id m => Yields (register pointer id) m fun _ => Q id) →
      Yields (do let id ← x; register pointer id; return id) l Q := fun h =>
    yields_bind.2 (h.mono fun id m hm => yields_bind.2 (hm.mono fun _ n hn => yields_pure.2 hn))
  rw [linkNode]
  split
  · next target hbare =>
    split
    · next targetValue htarget =>
      split
      · next hne => exact hregister (follow hbare htarget hne)
      · next hself => exact hregister (lost hbare (.inr (not_not.1 hself)))
    · next hnone => exact hregister (lost hbare (.inl hnone))
  · next hbare =>
    refine yields_bind.2 (yields_get.2 ?_)
    split
    · next id hid =>
      exact yields_bind.2 ((again hbare hid).mono fun _ m hm => yields_bind.2 (hm.mono
        fun _ n hn => yields_pure.2 hn))
    · next hunknown =>
      refine yields_bind.2 (yields_addNode _ (yields_bind.2 ((new hbare hunknown).mono
        fun _ m hm => ?_)))
      split
      · exact yields_bind.2 ((yields_bind.1 hm).mono fun entries n hn => yields_bind.2 (hn.mono
          fun _ k hk => yields_pure.2 hk))
      · next hplain =>
        refine yields_pure.2 ?_
        cases value with
        | object object => exact absurd rfl (hplain object)
        | _ => exact hm () m rfl

/-- The walk over a bundle, from its root on. -/
def walk (b : Bundle) (o : Options) : Except CompileError (SchemaId × Linked) :=
  (linkNode b.schema o.maxDepth (o.maxDepth + 1) [] "#" b.schema {}).run ⟨#[], [], []⟩

/-- The graph of a bundle is what the walk leaves. -/
theorem exists_walk {b : Bundle} {o : Options} {g : SchemaGraph} (h : ofBundle b o = .ok g) :
    ∃ l, walk b o = .ok (g.root, l) ∧ l.nodes = g.nodes ∧ l.cycles = g.cycles := by
  obtain ⟨⟨root, l⟩, hrun, heq⟩ := bind_eq_ok_iff.1 h
  cases heq
  exact ⟨l, hrun, rfl, rfl⟩

end SchemaGraph
end SchemaTypings
