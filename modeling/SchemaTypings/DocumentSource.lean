import SchemaTypings.Json.Value
import SchemaTypings.Uri.Basic

/-! # Where other documents come from

References may lead into other documents.  A source answers for finitely many URIs, with a document
or with the reason why there is none, and refuses all others.
-/
namespace SchemaTypings

/-- **A source of documents**, by the text of their URI. -/
structure DocumentSource where
  answers : Dict (Except String Json)
  /-- The reason given for every other URI. -/
  refusal : Uri → String

namespace DocumentSource

/-- The document at a URI, or why there is none. -/
def fetch (s : DocumentSource) (uri : Uri) : Except String Json :=
  match s.answers.get? uri.text with
  | some answer => answer
  | none => .error (s.refusal uri)

/-- The source without documents. -/
def none : DocumentSource :=
  ⟨[], fun uri => "external references are disabled (" ++ uri.text ++ ")"⟩

/-- The source that serves the given documents. -/
def ofDocuments (documents : Dict Json) : DocumentSource :=
  ⟨documents.map fun (uri, document) => (uri, .ok document), fun _ => "no such document"⟩

@[simp] theorem fetch_none (uri : Uri) :
    none.fetch uri = .error ("external references are disabled (" ++ uri.text ++ ")") := rfl

end DocumentSource
end SchemaTypings
