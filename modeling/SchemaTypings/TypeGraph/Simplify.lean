import SchemaTypings.TypeGraph.Reachable
import SchemaTypings.TypeGraph.Render

/-! # Simplifying unions and intersections

A union or intersection takes in the members of unnamed members of its own kind, one level deep.
`any` absorbs everything, `unknown` absorbs a union and vanishes from an intersection, and `object`
vanishes beside a class.  Of members that are written alike only the first stays, and an unnamed
member that spells out a named one goes.
-/
namespace SchemaTypings
namespace TypeGraph

/-- The members that one member contributes to an operation of a kind at `id`. -/
def flattenMember (g : TypeGraph) (id : TypeId) (isUnion : Bool) (member : TypeId) : List TypeId :=
  let nested := match g.kind member with
    | .union inner => if isUnion then some inner else none
    | .intersection inner => if isUnion then none else some inner
    | _ => none
  match nested with
  | some inner => if member ≠ id ∧ (g.name? member).isNone then inner else [member]
  | none => [member]

/-- The structures of the named members. -/
def namedStructures (g : TypeGraph) (o : Options) (members : List TypeId) :
    Rendering (List String) :=
  (members.filter fun m => (g.name? m).isSome).mapM (renderRaw g o)

/-- The members whose text has not occurred before and, where they are unnamed, is not the
structure of a named member. -/
def distinctMembers (g : TypeGraph) (o : Options) (named : List String) :
    List String → List TypeId → Rendering (List TypeId)
  | _, [] => return []
  | seen, member :: rest => do
    let text ← render g o member
    if seen.contains text then distinctMembers g o named seen rest
    else
      let later ← distinctMembers g o named (text :: seen) rest
      if (g.name? member).isNone && named.contains text then return later
      else return member :: later

/-- Drops members that repeat others. -/
def dedupeMembers (g : TypeGraph) (o : Options) (members : List TypeId) : List TypeId :=
  let dedupe : Rendering (List TypeId) := do
    let named ← namedStructures g o members
    distinctMembers g o named [] members
  (dedupe.run {}).1

/-- The members of an intersection without those that admit everything the others admit. -/
def narrowMembers (g : TypeGraph) (members : List TypeId) : List TypeId :=
  let hasRecord := members.any fun m => (g.kind m).isRecord
  members.filter fun m => !(g.kind m).isUnknown && !((g.kind m).isObject && hasRecord)

/-- The simpler kind of a union or intersection, where `keep` chooses among the members that are
left after flattening and absorption; other kinds have none. -/
def operationKind? (g : TypeGraph) (keep : List TypeId → List TypeId) (id : TypeId) :
    Option TypeKind :=
  match (g.kind id).operands? with
  | none => none
  | some (isUnion, members) =>
    let flat := members.flatMap (flattenMember g id isUnion)
    if flat.any fun m => (g.kind m).isAny then some .any
    else if isUnion then
      if flat.any fun m => (g.kind m).isUnknown then some .unknown
      else some (.union (keep flat))
    else
      let narrow := narrowMembers g flat
      if narrow.isEmpty then some .unknown else some (.intersection (keep narrow))

/-- **The simpler kind** of a union or intersection, without members that repeat others. -/
def simplerKind? (g : TypeGraph) (o : Options) (id : TypeId) : Option TypeKind :=
  operationKind? g (dedupeMembers g o) id

/-- The graph with one type simplified. -/
def simplifyAt (o : Options) (g : TypeGraph) (id : TypeId) : TypeGraph :=
  match simplerKind? g o id with
  | some kind => g.setKind id kind
  | none => g

/-- **The graph with every reachable type simplified**, parts before the types made of them. -/
def simplify (g : TypeGraph) (o : Options) : TypeGraph :=
  g.reachable.reverse.foldl (simplifyAt o) g

end TypeGraph
end SchemaTypings
