import SchemaTypings.Error
import SchemaTypings.Json.Spelled
import SchemaTypings.TypeGraph.Simplify

/-! # Merging types

Types that share a name must have the same structure; all but the first become references to it,
and different structures under one name are refused.  On request, classes of the same structure
under different names are merged under the first name.
-/
namespace SchemaTypings
namespace TypeGraph

/-- The structure of an entry, with the form of its value. -/
def entryText (entry : EnumEntry) : String :=
  "EnumEntry \x7b label: " ++ Text.quoted entry.label ++ ", value: " ++ entry.value.spelled ++ " \x7d"

/-- **The structure of a type**, independent of its own name, as a text to compare. -/
def structureText (g : TypeGraph) (o : Options) (id : TypeId) : Rendering String :=
  match g.kind id with
  | .enumeration entries =>
    return "enum [" ++ ", ".intercalate (entries.map entryText) ++ "]"
  | .record _ bases => do
    let bases ← bases.mapM (render g o)
    let body ← renderRaw g o id
    return "class " ++ body ++ " extends " ++ ", ".intercalate bases
  | _ => renderRaw g o id

/-- Where a type comes from, for messages. -/
def originText (g : TypeGraph) (id : TypeId) : String :=
  (g.node id).origin.getD ("node " ++ toString id)

/-- A type that is replaced by a reference. -/
structure Replacement where
  id : TypeId
  target : String
  deriving DecidableEq, Repr

/-- Replaces a type by a reference. -/
def replace (g : TypeGraph) (r : Replacement) : TypeGraph :=
  g.modifyNode r.id fun node => { node with kind := .reference r.target, name := none }

/-- The first type of every name, with its structure. -/
abbrev FirstOfName := Dict (TypeId × String)

/-- The types that repeat an earlier type of their name, or the collision of two that differ. -/
def repeatedNames (g : TypeGraph) (o : Options) :
    FirstOfName → List TypeId → Rendering (Except CompileError (List Replacement))
  | _, [] => return .ok []
  | first, id :: rest =>
    match g.name? id with
    | none => repeatedNames g o first rest
    | some name => do
      let text ← structureText g o id
      match first.get? name with
      | none => repeatedNames g o (first.insert name (id, text)) rest
      | some (earlier, earlierText) =>
        if earlierText = text then do
          let later ← repeatedNames g o first rest
          return later.map (⟨id, name⟩ :: ·)
        else
          return .error (.nameCollision name (originText g earlier) (originText g id))

/-- Merges the types that share a name. -/
def mergeNames (g : TypeGraph) (o : Options) : Except CompileError TypeGraph := do
  let replacements ← ((repeatedNames g o [] g.reachable).run {}).1
  return replacements.foldl replace g

/-- The named classes that repeat the structure of an earlier one of another name.  `first` holds
the first name of every structure. -/
def repeatedClasses (g : TypeGraph) (o : Options) :
    Dict String → List TypeId → Rendering (List Replacement)
  | _, [] => return []
  | first, id :: rest =>
    match g.name? id, (g.kind id).isRecord with
    | some name, true => do
      let text ← structureText g o id
      match first.get? text with
      | none => repeatedClasses g o (first.insert text name) rest
      | some earlier => do
        let later ← repeatedClasses g o first rest
        return if earlier ≠ name then ⟨id, earlier⟩ :: later else later
    | _, _ => repeatedClasses g o first rest

/-- Merges named classes of one structure under the first name. -/
def mergeClasses (g : TypeGraph) (o : Options) : TypeGraph :=
  ((repeatedClasses g o [] g.reachable).run {}).1.foldl replace g

/-- **The optimized graph**: simplified, with one type per name and, on request, one class per
structure. -/
def optimize (g : TypeGraph) (o : Options) : Except CompileError TypeGraph := do
  let g ← mergeNames (g.simplify o) o
  return if o.deduplicateClasses then mergeClasses g o else g

end TypeGraph
end SchemaTypings
