import SchemaTypings.DocumentSource
import SchemaTypings.Error
import SchemaTypings.Keyword
import SchemaTypings.Pointer
import SchemaTypings.Uri.Reader

/-! # Resolving references

A reference leads to a place in one bundled document: the root document stands at `#`, every other
document below the root's reserved key, under its URI.  Another document is asked for once, when
the first reference leads into it, and then waits for its own references to be rewritten.
-/
namespace SchemaTypings

/-- **The state of reference resolution** for one root document. -/
structure Resolver where
  /-- The URI of the root document. -/
  root : Uri
  source : DocumentSource
  /-- URIs asked for so far. -/
  asked : List String
  /-- Documents whose references have not been rewritten yet, in order of first use. -/
  pending : List (Uri × Json)

namespace Resolver

/-- The URI of a root document: its `$id` read against the base, or else the base. -/
def rootUri (schema : Json) (base : Uri) : Uri :=
  let uri := match (schema.field? "$id").bind Json.string? with
    | some id =>
      match base.join? id with
      | .ok uri => uri
      | .error _ => base
    | none => base
  uri.document

/-- The state before the first reference. -/
def start (schema : Json) (base : Uri) (source : DocumentSource) : Resolver :=
  ⟨rootUri schema base, source, [], []⟩

/-- Whether a URI names the root document. -/
def isRoot (r : Resolver) (document : Uri) : Bool := document.text = r.root.text

/-- The pointer of a document inside the bundle. -/
def documentPointer (r : Resolver) (document : Uri) : String :=
  if r.isRoot document then "#" else Pointer.build "#" [Keyword.external, document.text]

/-- The document and the fragment that a reference names.  References that start with `#` keep
their fragment as it is written. -/
def target? (scope : Uri) (reference : String) : Option (Uri × String) :=
  match reference.toList with
  | '#' :: fragment => some (scope, String.ofList fragment)
  | _ =>
    match scope.join? reference with
    | .ok uri => some (uri.document, uri.fragment.getD "")
    | .error _ => none

/-- Whether a fragment is a pointer. -/
def isPointer (fragment : String) : Bool :=
  fragment.isEmpty || fragment.toList.head? = some '/'

/-- Asks for a document on its first use.  A document that could not be had stays asked for. -/
def request (r : Resolver) (document : Uri) : Except CompileError Unit × Resolver :=
  if r.isRoot document || r.asked.contains document.text then (.ok (), r)
  else
    let r := { r with asked := document.text :: r.asked }
    match r.source.fetch document with
    | .ok value => (.ok (), { r with pending := r.pending ++ [(document, value)] })
    | .error reason => (.error (.fetchFailed document.text reason), r)

/-- **The place that a reference leads to**, as a pointer into the bundle.  The reference stands at
`site` in the document `scope`. -/
def resolve (r : Resolver) (reference : String) (scope : Uri) (site : String) :
    Except CompileError String × Resolver :=
  match target? scope reference with
  | none => (.error (.unresolvableRef site reference), r)
  | some (document, fragment) =>
    if ¬ isPointer fragment then (.error (.unresolvableRef site reference), r) else
    match r.request document with
    | (.ok _, r) => (.ok (r.documentPointer document ++ fragment), r)
    | (.error e, r) => (.error e, r)

/-- The next document whose references have not been rewritten yet. -/
def next? (r : Resolver) : Option (Uri × Json) × Resolver :=
  match r.pending with
  | [] => (none, r)
  | first :: rest => (some first, { r with pending := rest })

end Resolver
end SchemaTypings
