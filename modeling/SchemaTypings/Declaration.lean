import SchemaTypings.Text.Blank
import SchemaTypings.Text.Split
import SchemaTypings.TypeGraph.Reachable
import SchemaTypings.TypeGraph.Render

/-! # Declarations

The named types of a graph are declared in three sections: aliases, classes and enumerations, each
in preorder.  Blocks are separated by an empty line and the text ends with a line break.
-/
namespace SchemaTypings
namespace Declaration

open TypeGraph (Rendering render renderRaw memberSignature)

/-! ### Comments -/

/-- One line of a doc comment. -/
def commentLine (indent line : String) : String :=
  if line.isEmpty then indent ++ " *\n" else indent ++ " * " ++ line ++ "\n"

/-- **A doc comment**, every line behind `indent`. -/
def docComment (comment indent : String) : String :=
  indent ++ "/**\n" ++ String.join ((Text.lines comment).map (commentLine indent)) ++ indent ++ " */"

/-- The comment of a type, unless it is blank. -/
def shownComment? (g : TypeGraph) (id : TypeId) : Option String :=
  (g.node id).comment.filter fun text => !text.toList.all Text.isBlank

/-- A declaration behind the doc comment of its type. -/
def withComment (g : TypeGraph) (id : TypeId) (body : String) : String :=
  match shownComment? g id with
  | some comment => docComment comment "" ++ "\n" ++ body
  | none => body

/-- Whether a named type is declared: the root always, and others on request. -/
def isDeclared (g : TypeGraph) (o : Options) (rootName : String) (id : TypeId) (name : String) :
    Bool :=
  id = g.root || name = rootName || o.declareReferenced

/-! ### Aliases -/

/-- The alias of a type, if it is declared as one. -/
def alias? (g : TypeGraph) (o : Options) (rootName : String) (id : TypeId) :
    Rendering (Option String) :=
  match g.name? id with
  | none => return none
  | some name =>
    if (g.kind id).isRecord || (g.kind id).isEnumeration || !isDeclared g o rootName id name then
      return none
    else do
      let text ← renderRaw g o id
      return some (withComment g id ("export type " ++ name ++ " = " ++ text ++ ";"))

/-- The aliases of the graph. -/
def aliases (g : TypeGraph) (o : Options) (rootName : String) : Rendering (List String) := do
  let blocks ← g.reachable.mapM (alias? g o rootName)
  return blocks.filterMap id

/-! ### Classes -/

/-- The lines of a member: the doc comment of an unnamed type, and the signature. -/
def memberLines (g : TypeGraph) (o : Options) (m : Member) : Rendering (List String) := do
  let signature ← memberSignature g o m
  let comment := if (g.name? m.type).isNone then shownComment? g m.type else none
  return (comment.map fun text => docComment text "  ").toList ++ ["  " ++ signature ++ ";"]

/-- The head of a class. -/
def classHeader (name : String) (bases : List String) : String :=
  "export class " ++ name ++ " " ++
    (if bases.isEmpty then "" else "extends " ++ ", ".intercalate bases ++ " ") ++ "\x7b"

/-- The block of a class. -/
def classBlock (g : TypeGraph) (o : Options) (id : TypeId) (name : String) (members : List Member)
    (bases : List TypeId) : Rendering String := do
  let bases ← bases.mapM (render g o)
  let lines ← (members.filter Member.isVisible).mapM (memberLines g o)
  let body := "\n".intercalate (classHeader name bases :: lines.flatten ++ ["\x7d"])
  let block := withComment g id body
  return match o.classBanner with
    | some banner => banner ++ "\n" ++ block
    | none => block

/-- The classes among `ids`; `emitted` holds the names declared before.  Gives the blocks and the
names declared afterwards. -/
def classesFrom (g : TypeGraph) (o : Options) (rootName : String) :
    List String → List TypeId → Rendering (List String × List String)
  | emitted, [] => return ([], emitted)
  | emitted, id :: rest =>
    match g.name? id, g.kind id with
    | some name, .record members bases =>
      if !isDeclared g o rootName id name || emitted.contains name then
        classesFrom g o rootName emitted rest
      else do
        let block ← classBlock g o id name members bases
        let (blocks, emitted) ← classesFrom g o rootName (name :: emitted) rest
        return (block :: blocks, emitted)
    | _, _ => classesFrom g o rootName emitted rest

/-- The classes of the graph whose names are not declared yet, and the names declared then. -/
def classes (g : TypeGraph) (o : Options) (rootName : String) (emitted : List String) :
    Rendering (List String × List String) :=
  classesFrom g o rootName emitted g.reachable

/-! ### Enumerations -/

/-- One entry of an enumeration. -/
def enumEntry (entry : EnumEntry) : String :=
  "  " ++ Identifier.keyText entry.label ++ " = " ++ entry.value.text

/-- The block of a type that is a named enumeration. -/
def enum? (g : TypeGraph) (o : Options) (id : TypeId) : Option String :=
  match g.name? id, g.kind id with
  | some name, .enumeration entries =>
    let head := if o.constEnums then "export const enum " else "export enum "
    some (withComment g id
      (head ++ name ++ " \x7b\n" ++ ",\n".intercalate (entries.map enumEntry) ++ "\n\x7d"))
  | _, _ => none

/-- The enumerations of the graph. -/
def enums (g : TypeGraph) (o : Options) : List String := g.reachable.filterMap (enum? g o)

/-! ### The whole text -/

/-- All blocks, by section. -/
def blocks (g : TypeGraph) (o : Options) (rootName : String) : List String :=
  let sections : Rendering (List String) := do
    let aliases ← aliases g o rootName
    let (classes, _) ← classes g o rootName []
    return aliases ++ classes ++ enums g o
  (sections.run {}).1

/-- A block behind the banner of declarations. -/
def withBanner (o : Options) (block : String) : String :=
  match o.declarationBanner with
  | some banner => banner ++ "\n" ++ block
  | none => block

/-- **The declarations of a graph**; empty when nothing is declared. -/
def generate (g : TypeGraph) (o : Options) (rootName : String) : String :=
  match blocks g o rootName with
  | [] => ""
  | list => "\n\n".intercalate (list.map (withBanner o)) ++ "\n"

end Declaration
end SchemaTypings
