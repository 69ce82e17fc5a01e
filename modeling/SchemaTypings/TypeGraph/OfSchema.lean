import SchemaTypings.Identifier
import SchemaTypings.Options
import SchemaTypings.SchemaGraph
import SchemaTypings.TypeGraph

/-! # From schemas to types

Every schema that is reached gets one type, whose id is reserved before its parts are looked at: a
recursive schema finds the id of the type that is being made.  A schema can say several things at
once; each independent statement is a facet, one facet is the kind of the type, and several become
an intersection.
-/
namespace SchemaTypings
namespace TypeGraph

/-- The type graph while it is being made. -/
structure Growth where
  nodes : Array TypeNode := #[]
  /-- The type of every schema reached. -/
  typeOf : List (SchemaId × TypeId) := []
  /-- The one shared type of parts that say nothing. -/
  placeholder : Option TypeId := none

/-- Making types grows the graph. -/
abbrev Growing := StateM Growth

/-- Makes the type of a schema. -/
abbrev Visit := SchemaId → Growing TypeId

/-- Adds a node. -/
def addNode (node : TypeNode) : Growing TypeId :=
  modifyGet fun s => (s.nodes.size, { s with nodes := s.nodes.push node })

/-- Adds a type without a name. -/
def addUnnamed (kind : TypeKind) : Growing TypeId := addNode { kind }

/-- Reserves the type of a schema. -/
def reserve (schema : SchemaId) (node : TypeNode) : Growing TypeId := do
  let id ← addNode node
  modify fun s => { s with typeOf := (schema, id) :: s.typeOf }
  return id

/-- Settles the kind of a reserved type. -/
def settle (id : TypeId) (kind : TypeKind) : Growing Unit :=
  modify fun s => { s with nodes := s.nodes.modify id fun node => { node with kind } }

/-- Takes a step that brings a list where it is asked for; otherwise there is nothing. -/
def listIf {α : Type} (asked : Bool) (step : Growing (List α)) : Growing (List α) :=
  if asked then step else return []

/-- The kind of parts that say nothing. -/
def placeholderKind (o : Options) : TypeKind := if o.unknownAny then .unknown else .any

/-- The one shared type of parts that say nothing. -/
def placeholderType (o : Options) : Growing TypeId := do
  match (← get).placeholder with
  | some id => return id
  | none =>
    let id ← addUnnamed (placeholderKind o)
    modify fun s => { s with placeholder := some id }
    return id

/-- The text of a doc comment: the description, and a mark for deprecated schemas. -/
def commentOf (n : SchemaNode) : Option String :=
  let deprecated := match n.keyword? "deprecated" with
    | some (.bool true) => true
    | _ => false
  match n.description?, deprecated with
  | some text, true => some (text ++ "\n\n@deprecated")
  | some text, false => some text
  | none, true => some "@deprecated"
  | none, false => none

/-! ### Enumerations -/

/-- Labels given by the schema: one text for each of `count` values. -/
def customLabels? (names : Option Json) (count : Nat) : Option (List String) := do
  let labels ← names.bind Json.array?
  if labels.length = count then labels.mapM Json.string? else none

/-- The entries of an enumeration.  Every value must be a string or a number, and the labels, given
or derived from the values, must be distinct. -/
def enumEntries? (names : Option Json) (values : List Json) : Option (List EnumEntry) := do
  if values.isEmpty || !(values.all fun v => v.isString || v.isNumber) then none else
  let labels ← match customLabels? names values.length with
    | some labels => some labels
    | none => values.mapM Identifier.enumLabel?
  if labels.Nodup then some (List.zipWith EnumEntry.mk labels values) else none

/-- The kind of an enumeration.  Without a name, or when the values form none, it is a union of
literals. -/
def enumKind (n : SchemaNode) : Growing TypeKind := do
  let values := n.enumValues?.getD []
  let entries := if n.standaloneName.isSome then enumEntries? (n.keyword? "tsEnumNames") values
    else none
  match entries, values with
  | some entries, _ => return .enumeration entries
  | none, [value] => return .literal value
  | none, values => do
    let literals ← values.mapM fun value => addUnnamed (.literal value)
    return .union literals

/-! ### Classes -/

/-- Members from a dictionary of schemas. -/
def membersOf (visit : Visit) (make : String → SchemaId → TypeId → Member)
    (entries : Dict SchemaId) : Growing (List Member) :=
  List.mapM (fun (key, child) => do
    let type ← visit child
    return make key child type) entries

/-- The index signature for further properties. -/
def indexMember (type : TypeId) : Member :=
  { key := Identifier.indexSignature, type, isRequired := true, isIndex := true }

/-- The type of further entries, if there may be any. -/
def additionalType (visit : Visit) (o : Options) : Option Additional → Growing (Option TypeId)
  | some (.allowed true) => some <$> placeholderType o
  | some (.schema child) => some <$> visit child
  | _ => return none

/-- The kind of a class.  One pattern that admits no other keys stands as an index signature. -/
def recordKind (visit : Visit) (g : SchemaGraph) (o : Options) (n : SchemaNode)
    (bases : List TypeId) : Growing TypeKind := do
  let required := n.required
  let properties ← membersOf visit (fun key child type =>
    { key, type, isRequired := required.contains key || (g.node child).isRequired }) n.properties
  let single :=
    n.patternProperties.length = 1 && n.additionalProperties = some (.allowed false)
  let patterns ← membersOf visit (fun key _ type =>
    { key := if single then Identifier.indexSignature else key
      type
      isRequired := single || required.contains key
      isPattern := !single
      isIndex := single }) n.patternProperties
  let additional ← additionalType visit o n.additionalProperties
  let unreachable ← listIf o.unreachableDefinitions
    (membersOf visit (fun key _ type => { key, type, isRequired := true, isUnreachable := true })
      n.definitions)
  return .record (properties ++ patterns ++ additional.toList.map indexMember ++ unreachable) bases

/-- The kind of a schema of objects. -/
def objectKind (visit : Visit) (g : SchemaGraph) (o : Options) (n : SchemaNode) :
    Growing TypeKind :=
  if n.isClassShaped then recordKind visit g o n [] else return .object

/-! ### Arrays -/

/-- The kind of a schema of arrays. -/
def arrayKind (visit : Visit) (o : Options) (n : SchemaNode) : Growing TypeKind := do
  let min := n.minItems?.getD 0
  let max := n.maxItems?
  match n.items with
  | some (.tuple ids) => do
    let elements ← ids.mapM visit
    let spread ← additionalType visit o n.additionalItems
    if o.ignoreItemBounds then return .tuple elements elements.length none spread
    else return .tuple elements min max spread
  | some (.each id) => do
    let element ← visit id
    return .array element
  | none => do
    let any ← placeholderType o
    if !o.ignoreItemBounds && (0 < min || max.isSome) then
      return .tuple (List.replicate (Nat.max (max.getD 0) min) any) min max
        (if max.isNone then some any else none)
    else return .array any

/-! ### Facets -/

/-- The kind that one name under `type` stands for; an unknown name says nothing. -/
def namedKind (visit : Visit) (g : SchemaGraph) (o : Options) (n : SchemaNode) (name : String) :
    Growing TypeKind :=
  match name with
  | "string" => return .string
  | "number" | "integer" => return .number
  | "boolean" => return .boolean
  | "null" => return .null
  | "object" => objectKind visit g o n
  | "array" => arrayKind visit o n
  | _ => return placeholderKind o

/-- The schemas that can become the bases of a class: those of `allOf` when it lists only bare
references, and those that are extended. -/
def baseCandidates (n : SchemaNode) : List SchemaId :=
  (if n.allOfByRef then n.allOf else []) ++ n.bases

/-- Whether a schema becomes a class with bases: it has a name, and every schema under `allOf` and
`extends` is another named class. -/
def hasBases (g : SchemaGraph) (id : SchemaId) : Bool :=
  let n := g.node id
  let candidates := baseCandidates n
  n.standaloneName.isSome && !n.isEnumShaped && !candidates.isEmpty &&
    n.allOf.length + n.bases.length = candidates.length &&
    candidates.all fun base =>
      base ≠ id && (g.node base).standaloneName.isSome && (g.node base).isClassShaped

/-- The candidates for bases are subschemas. -/
theorem mem_children_of_mem_baseCandidates {n : SchemaNode} {schema : SchemaId}
    (h : schema ∈ baseCandidates n) : schema ∈ n.children := by
  simp only [SchemaNode.children, List.mem_append]
  rw [baseCandidates, List.mem_append] at h
  rcases h with hall | hextended
  · split at hall
    · simp [hall]
    · cases hall
  · simp [hextended]

theorem baseCandidates_ne_nil {g : SchemaGraph} {schema : SchemaId}
    (h : hasBases g schema = true) : baseCandidates (g.node schema) ≠ [] := by
  intro hnil
  rw [hasBases] at h
  simp [hnil] at h

/-- A schema with bases is no enumeration. -/
theorem not_isEnumShaped_of_hasBases {g : SchemaGraph} {schema : SchemaId}
    (h : hasBases g schema = true) : (g.node schema).isEnumShaped = false := by
  rw [hasBases] at h
  simp only [Bool.and_eq_true, Bool.not_eq_true'] at h
  exact h.1.1.1.2

/-- What a schema says by its values, its members or its types. -/
def ownFacet (visit : Visit) (g : SchemaGraph) (o : Options) (n : SchemaNode)
    (bases : List TypeId) : Growing (Option TypeKind) := do
  if n.isEnumShaped then some <$> enumKind n
  else if !bases.isEmpty then some <$> recordKind visit g o n bases
  else match n.types with
    | [] =>
      if n.isObjectShaped then some <$> objectKind visit g o n
      else if n.isArrayShaped then some <$> arrayKind visit o n
      else return none
    | [name] => some <$> namedKind visit g o n name
    | names => do
      let members ← names.mapM fun name => do
        let kind ← namedKind visit g o n name
        addUnnamed kind
      return some (.union members)

/-- What a schema says by a list of schemas; an empty list says nothing. -/
def groupFacet (visit : Visit) (make : List TypeId → TypeKind) (ids : List SchemaId) :
    Growing (List TypeKind) := do
  if ids.isEmpty then return []
  else
    let members ← ids.mapM visit
    return [make members]

/-- Everything that a schema says, as independent statements. -/
def facets (visit : Visit) (g : SchemaGraph) (o : Options) (id : SchemaId) :
    Growing (List TypeKind) := do
  let n := g.node id
  let bases ← listIf (hasBases g id) ((baseCandidates n).mapM visit)
  let own ← ownFacet visit g o n bases
  let all ← listIf bases.isEmpty (groupFacet visit .intersection n.allOf)
  let extended ← listIf bases.isEmpty (groupFacet visit .intersection n.bases)
  let any ← groupFacet visit .union n.anyOf
  let one ← groupFacet visit .union n.oneOf
  return own.toList ++ all ++ extended ++ any ++ one

/-- The kind of the type of a schema. -/
def kindOf (visit : Visit) (g : SchemaGraph) (o : Options) (id : SchemaId) : Growing TypeKind := do
  let n := g.node id
  match n.boolean, n.customType? with
  | some true, _ => return placeholderKind o
  | some false, _ => return .custom "never"
  | none, some text => return .custom text
  | none, none =>
    match ← facets visit g o id with
    | [] => return placeholderKind o
    | [kind] => return kind
    | kinds => do
      let members ← kinds.mapM addUnnamed
      return .intersection members

/-- The type of a schema before its kind is settled. -/
def reservedNode (n : SchemaNode) : TypeNode :=
  { kind := .any, name := n.standaloneName, key := n.keyName, comment := commentOf n
    origin := some n.pointer }

/-- **Makes the type of a schema**, or finds it.  Every level of nesting opens a schema that was
not open before, so that the number of schemas is enough `levels`. -/
def ofNode (g : SchemaGraph) (o : Options) (levels : Nat) (id : SchemaId) : Growing TypeId := do
  match (← get).typeOf.lookup id with
  | some type => return type
  | none =>
    match levels with
    | 0 => return 0
    | levels + 1 =>
      let type ← reserve id (reservedNode (g.node id))
      let kind ← kindOf (ofNode g o levels) g o id
      settle type kind
      return type

/-- **The types of a graph of schemas.** -/
def ofSchema (g : SchemaGraph) (o : Options) : TypeGraph :=
  let (root, growth) := (ofNode g o g.size g.root).run {}
  ⟨growth.nodes, root⟩

end TypeGraph
end SchemaTypings
