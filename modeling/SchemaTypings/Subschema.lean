import SchemaTypings.Keyword
import SchemaTypings.Pointer

/-! # Visiting subschemas

`Subschema.mapM` visits every subschema of a schema object in document order, with its pointer,
and puts back what the visitor answers.  Values that are no schemas (a boolean
`additionalProperties`, a malformed `anyOf`) are passed over.
-/
namespace SchemaTypings
namespace Subschema

variable {m : Type → Type} [Monad m]

/-- Visits the subschemas that one keyword holds. -/
def mapKeyword (visit : String → Json → m Json) (path keyword : String) (value : Json) : m Json :=
  let inList (items : List Json) : m Json := do
    let items ← items.zipIdx.mapM fun (child, i) =>
      visit (Pointer.build path [keyword, toString i]) child
    return .array items
  match Keyword.role? keyword, value with
  | some .named, .object entries => do
    let entries ← entries.mapM fun (key, child) => do
      let child ← visit (Pointer.build path [keyword, key]) child
      return (key, child)
    return .object entries
  | some .single, .object _ => visit (Pointer.build path [keyword]) value
  | some .listed, .array items => inList items
  | some .either, .array items => inList items
  | some .either, .object _ => visit (Pointer.build path [keyword]) value
  | _, _ => return value

/-- **Visits every subschema** of the object at `path`, in document order. -/
def mapM (visit : String → Json → m Json) (path : String) (entries : Dict Json) :
    m (Dict Json) :=
  List.mapM (fun (keyword, value) => do
    let value ← mapKeyword visit path keyword value
    return (keyword, value)) entries

end Subschema
end SchemaTypings
