import SchemaTypings.Bundle
import SchemaTypings.SchemaGraph

/-! # Linking

Linking walks a bundled document depth first and makes its graph.  A bare reference has no node of
its own: its place takes the id of the target.  A reference with other keywords beside it is a
schema of its own, whose keywords are the target's overlaid by its own.  Reaching a node that is
still being expanded closes a cycle, which is recorded from that node down to the current one.
-/
namespace SchemaTypings
namespace SchemaGraph

/-- Where a node is reached from. -/
structure Origin where
  parent : Option SchemaId := none
  keyName : Option String := none
  definitionName : Option String := none
  hint : Option String := none

/-- The graph while it is being made. -/
structure Linked where
  nodes : Array SchemaNode
  /-- The id of every place reached. -/
  byPointer : List (String × SchemaId)
  cycles : List (List SchemaId)

/-- Linking may fail and grows the graph. -/
abbrev Linking := StateT Linked (Except CompileError)

/-- Links a value at a pointer, reached from somewhere. -/
abbrev Visit := String → Json → Origin → Linking SchemaId

namespace Linked

/-- The graph with one node changed. -/
def modifyNode (l : Linked) (id : SchemaId) (change : SchemaNode → SchemaNode) : Linked :=
  { l with nodes := l.nodes.modify id change }

end Linked

/-- Changes one node. -/
def change (id : SchemaId) (f : SchemaNode → SchemaNode) : Linking Unit :=
  modify fun l => l.modifyNode id f

/-- Adds a node. -/
def addNode (node : SchemaNode) : Linking SchemaId := do
  let l ← get
  set { l with nodes := l.nodes.push node }
  return l.nodes.size

/-- Remembers the node of a place, unless the place has one. -/
def register (pointer : String) (id : SchemaId) : Linking Unit :=
  modify fun l =>
    if (l.byPointer.lookup pointer).isSome then l
    else { l with byPointer := (pointer, id) :: l.byPointer }

/-- A node for a reference that leads nowhere. -/
def addUnresolved (pointer target : String) (origin : Origin) : Linking SchemaId :=
  addNode
    { pointer, parent := origin.parent, keyName := origin.keyName, nameHint := origin.hint
      unresolvedRef := some target }

/-- The part of the walk's stack from `id` to the top, if the node is still being expanded.  The
stack lists the innermost node first. -/
def cycleOf? (stack : List SchemaId) (id : SchemaId) : Option (List SchemaId) :=
  if stack.contains id then some (id :: (stack.takeWhile (· ≠ id)).reverse) else none

/-- Records a cycle if the node is still being expanded. -/
def closeCycle (stack : List SchemaId) (id : SchemaId) : Linking Unit :=
  match cycleOf? stack id with
  | none => pure ()
  | some members => do
    members.forM fun member => change member fun node => { node with cyclic := true }
    modify fun l =>
      if l.cycles.contains members then l else { l with cycles := l.cycles ++ [members] }

/-- Gives a node that is reached again the names it lacks. -/
def adopt (origin : Origin) (node : SchemaNode) : SchemaNode :=
  { node with
    definitionName := node.definitionName <|> origin.definitionName
    keyName := node.keyName <|> origin.keyName }

/-- The keywords of a schema, each with the pointer of the object that holds it. -/
abbrev Entries := Dict (Json × String)

/-- Adds the keywords of an object, in place of those it repeats. -/
def Entries.overlay (entries : Entries) (base : String) (object : Dict Json) : Entries :=
  object.foldl (fun acc entry => Dict.insert acc entry.1 (entry.2, base)) entries

/-- What a schema takes from the target of the reference beside its keywords: everything but title
and identity, for it is a schema of its own.  Nothing, when the target is no object. -/
def inherited? (root : Json) (object : Dict Json) : Option (Option Entries × String) :=
  (Bundle.reference? object).map fun target =>
    match (Pointer.resolve? root target).bind Json.object? with
    | some other =>
      let kept := other.filter fun entry => entry.1 ≠ "title" && entry.1 ≠ "$id"
      (some (Entries.overlay [] target kept), target)
    | none => (none, target)

/-- The keywords to link: the inherited ones overlaid by the object's own, without the reference
and the bundled documents. -/
def ownEntries (inherited : Entries) (pointer : String) (object : Dict Json) : Entries :=
  ((inherited.overlay pointer object).erase Keyword.ref).erase Keyword.external

/-- Gathers the keywords of a node, and marks the node when its reference leads nowhere. -/
def gather (root : Json) (id : SchemaId) (pointer : String) (object : Dict Json) :
    Linking Entries :=
  match inherited? root object with
  | none => return ownEntries [] pointer object
  | some (some entries, _) => return ownEntries entries pointer object
  | some (none, target) => do
    change id fun node => { node with unresolvedRef := some target }
    return ownEntries [] pointer object

/-- Links the schemas of an object under a keyword, each with the origin that its key gives. -/
def linkNamed (visit : Visit) (base keyword : String) (origin : String → Origin)
    (entries : Dict Json) : Linking (Dict SchemaId) :=
  List.mapM (fun (key, child) => do
    let id ← visit (Pointer.build base [keyword, key]) child (origin key)
    return (key, id)) entries

/-- Links the schemas of a list under a keyword. -/
def linkListed (visit : Visit) (base keyword : String) (origin : Origin) (items : List Json) :
    Linking (List SchemaId) :=
  items.zipIdx.mapM fun (child, i) =>
    visit (Pointer.build base [keyword, toString i]) child origin

/-- Links `additionalProperties` and `additionalItems`: a switch, or a schema for the rest. -/
def linkAdditional (visit : Visit) (base keyword : String) (origin : Origin) (value : Json) :
    Linking (Option Additional) :=
  match value with
  | .bool b => return some (.allowed b)
  | .object _ => do
    let child ← visit (Pointer.build base [keyword]) value origin
    return some (.schema child)
  | _ => return none

/-- Links a list of schemas that a schema is put together from, and tells whether all of them are
bare references. -/
def linkMembers (visit : Visit) (base keyword : String) (origin : Origin) (value : Json) :
    Linking (Option (List SchemaId × Bool)) :=
  match value with
  | .array items => do
    let ids ← linkListed visit base keyword origin items
    let byRef := !items.isEmpty && items.all fun item => (Bundle.bareRef? item).isSome
    return some (ids, byRef)
  | _ => return none

/-- Links the keyword of a node; `hint` is the name hint of the node. -/
def linkKeyword (visit : Visit) (id : SchemaId) (hint : Option String)
    (keyword : String) (value : Json) (base : String) : Linking Unit :=
  let plain : Origin := { parent := some id }
  let suffixed (suffix : String) : Origin :=
    { plain with hint := hint.map fun h => h ++ suffix }
  match keyword with
  | "properties" =>
    match value with
    | .object entries => do
      let linked ← linkNamed visit base keyword
        (fun key => { plain with keyName := some key, hint := some key }) entries
      change id fun node => { node with properties := linked }
    | _ => pure ()
  | "patternProperties" =>
    match value with
    | .object entries => do
      let linked ← linkNamed visit base keyword
        (fun key => { plain with keyName := some key }) entries
      change id fun node => { node with patternProperties := linked }
    | _ => pure ()
  | "definitions" | "$defs" =>
    match value with
    | .object entries => do
      let linked ← linkNamed visit base keyword
        (fun key => { plain with definitionName := some key, hint := some key }) entries
      change id fun node => { node with definitions := node.definitions.extend linked }
    | _ => pure ()
  | "additionalProperties" => do
    match ← linkAdditional visit base keyword (suffixed "Value") value with
    | some rest => change id fun node => { node with additionalProperties := some rest }
    | none => pure ()
  | "additionalItems" => do
    match ← linkAdditional visit base keyword (suffixed "Item") value with
    | some rest => change id fun node => { node with additionalItems := some rest }
    | none => pure ()
  | "items" =>
    match value with
    | .array items => do
      let ids ← linkListed visit base keyword (suffixed "Item") items
      change id fun node => { node with items := some (.tuple ids) }
    | .object _ | .bool _ => do
      let child ← visit (Pointer.build base [keyword]) value (suffixed "Item")
      change id fun node => { node with items := some (.each child) }
    | _ => pure ()
  | "anyOf" => do
    match ← linkMembers visit base keyword plain value with
    | some (ids, _) => change id fun node => { node with anyOf := ids }
    | none => pure ()
  | "oneOf" => do
    match ← linkMembers visit base keyword plain value with
    | some (ids, _) => change id fun node => { node with oneOf := ids }
    | none => pure ()
  | "allOf" => do
    match ← linkMembers visit base keyword plain value with
    | some (ids, byRef) => change id fun node => { node with allOf := ids, allOfByRef := byRef }
    | none => pure ()
  | "extends" =>
    match value with
    | .object _ => do
      let child ← visit (Pointer.build base [keyword]) value plain
      change id fun node => { node with bases := [child] }
    | _ => do
      match ← linkMembers visit base keyword plain value with
      | some (ids, _) => change id fun node => { node with bases := ids }
      | none => pure ()
  -- negation has no counterpart among types
  | "not" => pure ()
  | _ => change id fun node => node.setKeyword keyword value

/-- The value of a schema that is `true` or `false`. -/
def booleanOf : Json → Option Bool
  | .bool b => some b
  | _ => none

/-- **Links the value at a pointer**, and everything below it, at most `levels` deep.  `stack`
lists the nodes being expanded, the innermost first. -/
def linkNode (root : Json) (limit : Nat) :
    Nat → List SchemaId → String → Json → Origin → Linking SchemaId
  | 0, _, pointer, _, _ => throw (.tooDeep pointer limit)
  | levels + 1, stack, pointer, value, origin =>
    match Bundle.bareRef? value with
    | some target => do
      let id ← match Pointer.resolve? root target with
        | some targetValue =>
          if target ≠ pointer then linkNode root limit levels stack target targetValue origin
          else addUnresolved pointer target origin
        | none => addUnresolved pointer target origin
      register pointer id
      return id
    | none => do
      match (← get).byPointer.lookup pointer with
      | some id =>
        closeCycle stack id
        change id (adopt origin)
        return id
      | none =>
        let id ← addNode
          { pointer, parent := origin.parent, keyName := origin.keyName
            definitionName := origin.definitionName, nameHint := origin.hint
            boolean := booleanOf value }
        register pointer id
        match value with
        | .object object =>
          let entries ← gather root id pointer object
          entries.forM fun (keyword, child, base) =>
            linkKeyword (linkNode root limit levels (id :: stack)) id origin.hint keyword child base
        | _ => pure ()
        return id

/-- **The graph of a bundled document.** -/
def ofBundle (b : Bundle) (o : Options) : Except CompileError SchemaGraph := do
  let start : Linked := ⟨#[], [], []⟩
  let (root, linked) ←
    (linkNode b.schema o.maxDepth (o.maxDepth + 1) [] "#" b.schema {}).run start
  return { nodes := linked.nodes, root, referenceTexts := b.referenceTexts, cycles := linked.cycles }

end SchemaGraph
end SchemaTypings
