import SchemaTypings.Resolver
import SchemaTypings.Subschema

/-! # Bundling

Bundling makes one document of a root schema and everything it refers to.  First every reference at
a schema is rewritten to a pointer into the bundle, and other documents are put below the root's
reserved key as they appear.  Then chains of bare references are collapsed: each reference points
at a schema that is not itself only a reference, and a chain that never reaches one is refused.
-/
namespace SchemaTypings

/-- **A bundled schema.** -/
structure Bundle where
  schema : Json
  /-- For every place that a reference leads to, the text of the first reference to it. -/
  referenceTexts : Dict String

namespace Bundle

/-- The text of the reference that an object holds. -/
def reference? (entries : Dict Json) : Option String :=
  (entries.get? Keyword.ref).bind Json.string?

/-- The target of a value that is nothing but a reference. -/
def bareRef? : Json → Option String
  | .object [(key, .string target)] => if key = Keyword.ref then some target else none
  | _ => none

/-! ### Rewriting -/

/-- A reference and where it stands. -/
structure Site where
  pointer : String
  reference : String
  deriving DecidableEq, Repr

/-- The state of rewriting: the resolver, and the sites in document order. -/
structure Progress where
  resolver : Resolver
  sites : List Site

/-- Rewriting may fail and goes through the resolver. -/
abbrev Rewriting := StateT Progress (Except CompileError)

/-- Rewrites the reference of one object, if it holds one, and records its site. -/
def rewriteOwn (scope : Uri) (path : String) (entries : Dict Json) : Rewriting (Dict Json) :=
  match reference? entries with
  | none => return entries
  | some reference => do
    let progress ← get
    let (answer, resolver) := progress.resolver.resolve reference scope path
    let pointer ← answer
    set { progress with resolver, sites := progress.sites ++ [⟨path, reference⟩] : Progress }
    return entries.insert Keyword.ref (.string pointer)

/-- Rewrites the references of a schema and of the schemas below it, at most `levels` deep. -/
def rewrite (limit : Nat) (scope : Uri) : Nat → String → Json → Rewriting Json
  | 0, path, _ => throw (.tooDeep path limit)
  | levels + 1, path, .object entries => do
    let entries ← rewriteOwn scope path entries
    let entries ← Subschema.mapM (rewrite limit scope levels) path entries
    return .object entries
  | _ + 1, _, value => return value

/-- Rewrites the waiting documents, in order, until none waits.  A source answers for finitely many
URIs, and each is asked for once, so that their number is enough `rounds`. -/
def rewritePending (limit : Nat) : Nat → Dict Json → Rewriting (Dict Json)
  | 0, done => return done
  | rounds + 1, done => do
    let progress ← get
    match progress.resolver.next? with
    | (none, _) => return done
    | (some (uri, document), resolver) =>
      set { progress with resolver }
      let path := resolver.documentPointer uri
      let document ← rewrite limit uri (limit + 1) path document
      rewritePending limit rounds (done.insert uri.text document)

/-- The schema with its references rewritten, and the other documents. -/
def rewriteAll (limit : Nat) (schema : Json) : Rewriting (Json × Dict Json) := do
  let progress ← get
  let schema ← rewrite limit progress.resolver.root (limit + 1) "#" schema
  let documents ← rewritePending limit (progress.resolver.source.answers.length + 1) []
  return (schema, documents)

/-- Puts the documents below the reserved key of the root, which must be an object to hold them. -/
def attach (documents : Dict Json) (root : Json) : Except CompileError Json :=
  if documents.isEmpty then .ok root
  else match root with
    | .object entries => .ok (.object (Dict.insert entries Keyword.external (.object documents)))
    | _ => .error (.badInput "#" .booleanRootWithReferences)

/-! ### Collapsing -/

/-- Follows bare references from the last pointer of `chain`, which is kept in reverse.  `steps`
bounds the number of further pointers. -/
def followChain (root : Json) (site : Site) (limit : Nat) :
    Nat → List String → Except CompileError String
  | _, [] => .error (.unresolvableRef site.pointer site.reference)
  | steps, current :: earlier =>
    match Pointer.resolve? root current with
    | none => .error (.unresolvableRef site.pointer site.reference)
    | some node =>
      match bareRef? node with
      | none => .ok current
      | some next =>
        let chain := current :: earlier
        if chain.contains next then .error (.refCycle (next :: chain).reverse)
        else match steps with
          | 0 => .error (.tooDeep site.pointer limit)
          | steps + 1 => followChain root site limit steps (next :: chain)

/-- The first place on the chain of a site that is not a bare reference. -/
def concreteTarget (root : Json) (limit : Nat) (site : Site) : Except CompileError String :=
  match ((Pointer.resolve? root site.pointer).bind (·.field? Keyword.ref)).bind Json.string? with
  | none => .error (.unresolvableRef site.pointer site.reference)
  | some first => followChain root site limit limit [first]

/-- Writes the target of a reference into the object that holds it. -/
def retarget (target : String) : Json → Json
  | .object entries => .object (Dict.insert entries Keyword.ref (.string target))
  | value => value

/-- Points the reference at one site to the end of its chain. -/
def collapseSite (limit : Nat) (b : Bundle) (site : Site) : Except CompileError Bundle := do
  let target ← concreteTarget b.schema limit site
  let schema := Pointer.modify (retarget target) (Pointer.split site.pointer) b.schema
  let texts :=
    if b.referenceTexts.contains target then b.referenceTexts
    else b.referenceTexts.insert target site.reference
  return ⟨schema, texts⟩

/-- **Bundles a schema** with the documents it refers to. -/
def ofSchema (schema : Json) (o : Options) (source : DocumentSource) :
    Except CompileError Bundle := do
  let base ← o.base?.mapError .badOptions
  let start : Progress := ⟨.start schema base source, []⟩
  let ((schema, documents), progress) ← (rewriteAll o.maxDepth schema).run start
  let root ← attach documents schema
  progress.sites.foldlM (collapseSite o.maxDepth) ⟨root, []⟩

end Bundle
end SchemaTypings
