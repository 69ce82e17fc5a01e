import SchemaTypings.Declaration
import SchemaTypings.SchemaGraph.Link
import SchemaTypings.SchemaGraph.Naming
import SchemaTypings.SchemaGraph.Violation
import SchemaTypings.TypeGraph.Merge
import SchemaTypings.TypeGraph.OfSchema

/-! # Compiling schemas

A schema is bundled with what it refers to, linked into a graph, checked, normalized, turned into
types, optimized, and declared.  Every stage consumes the result of the one before.
-/
namespace SchemaTypings

/-- The graph of a schema, before it is checked. -/
def linkedGraph (schema : Json) (o : Options) (source : DocumentSource) :
    Except CompileError SchemaGraph := do
  let bundle ← Bundle.ofSchema schema o source
  SchemaGraph.ofBundle bundle o

/-- The optimized types of a graph that has no violations. -/
def typesOf (graph : SchemaGraph) (name : String) (o : Options) : Except CompileError TypeGraph :=
  (TypeGraph.ofSchema (graph.normalize name o) o).optimize o

/-- **Compiles one schema** into the text of its declarations. -/
def compile (schema : Json) (name : String) (o : Options) (source : DocumentSource) :
    Except CompileError String := do
  o.check.mapError .badOptions
  let graph ← linkedGraph schema o source
  let violations := graph.violations name
  if !violations.isEmpty then throw (.violations violations)
  let types ← typesOf graph name o
  return Declaration.generate types o name

/-- **What a compilation that succeeds went through**, stage by stage. -/
theorem compile_eq_ok_iff {schema : Json} {name : String} {o : Options} {source : DocumentSource}
    {text : String} :
    compile schema name o source = .ok text ↔
      o.check = .ok () ∧ ∃ graph, linkedGraph schema o source = .ok graph ∧
        graph.violations name = [] ∧ ∃ types, typesOf graph name o = .ok types ∧
          text = Declaration.generate types o name := by
  have hrest : ∀ graph : SchemaGraph, (do
      if !(graph.violations name).isEmpty then throw (.violations (graph.violations name))
      let types ← typesOf graph name o
      return Declaration.generate types o name : Except CompileError String) = .ok text ↔
      graph.violations name = [] ∧ ∃ types, typesOf graph name o = .ok types ∧
        text = Declaration.generate types o name := by
    intro graph
    cases hviolations : graph.violations name with
    | nil =>
      simp only [List.isEmpty_nil, Bool.not_true, Bool.false_eq_true, if_false, true_and]
      refine bind_eq_ok_iff.trans ?_
      constructor
      · rintro ⟨types, htypes, heq⟩
        exact ⟨types, htypes, (Except.ok.inj heq).symm⟩
      · rintro ⟨types, htypes, rfl⟩
        exact ⟨types, htypes, rfl⟩
    | cons violation rest =>
      constructor
      · intro h
        cases h
      · rintro ⟨h, -⟩
        cases h
  unfold compile
  rw [bind_eq_ok_iff]
  constructor
  · rintro ⟨_, hcheck, h⟩
    obtain ⟨graph, hgraph, h⟩ := bind_eq_ok_iff.1 h
    exact ⟨mapError_eq_ok_iff.1 hcheck, graph, hgraph, (hrest graph).1 h⟩
  · rintro ⟨hcheck, graph, hgraph, h⟩
    exact ⟨(), mapError_eq_ok_iff.2 hcheck, bind_eq_ok_iff.2 ⟨graph, hgraph, (hrest graph).2 h⟩⟩

/-- Compiles one entry of a document: a schema with a `name`, also below the key `schema`. -/
def compileEntry (key : String) (entry : Json) (o : Options) (source : DocumentSource) :
    Except CompileError String :=
  let schema := (entry.field? "schema").getD entry
  match (schema.field? "name").bind Json.string? with
  | none => .error (.badInput (Pointer.build "#" [key]) .entryWithoutName)
  | some name => compile schema name o source

/-- **Compiles a document of named entries**, each by itself, in document order.  The first entry
that fails ends the compilation. -/
def compileDocument (document : Json) (o : Options) (source : DocumentSource) :
    Except CompileError String := do
  match document with
  | .object entries => do
    let outputs ← entries.mapM fun (key, entry) =>
      (compileEntry key entry o source).mapError (.inEntry key)
    return "\n".intercalate outputs
  | _ => throw (.badInput "#" .notAnObjectOfEntries)

end SchemaTypings
