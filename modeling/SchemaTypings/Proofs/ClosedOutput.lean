import SchemaTypings.Compile
import SchemaTypings.Proofs.Closure
import SchemaTypings.Proofs.CycleNames
import SchemaTypings.Proofs.Declaring

/-! # When a compiled text is closed

A compiled text uses no name that it does not declare, if merging keeps what it refers to.  That it
may not is shown by two classes of one title, one inside the other: with the inner one goes the
first bearer of a name that the outer one uses.
-/
namespace SchemaTypings

namespace SchemaGraph

/-- In a graph without violations a name can be derived for the root. -/
theorem isSome_derivableName?_root {g : SchemaGraph} {rootName : String}
    (hviolations : g.violations rootName = []) : (g.derivableName? g.root rootName).isSome := by
  have hnil : g.rootViolations rootName = [] :=
    (List.append_eq_nil_iff.1 (List.append_eq_nil_iff.1 hviolations).1).1
  unfold rootViolations at hnil
  split at hnil
  · assumption
  · split at hnil <;> cases hnil

/-- In a graph without violations the root is named. -/
theorem isSome_standaloneName_root {b : Bundle} {o : Options} {g : SchemaGraph} {rootName : String}
    (hg : ofBundle b o = .ok g) (hviolations : g.violations rootName = []) :
    ((g.normalize rootName o).node g.root).standaloneName.isSome := by
  obtain ⟨hroot, hunnamed, -⟩ := settled_of_ofBundle hg
  have hname := isSome_derivableName?_root hviolations
  rw [normalize, isSome_standaloneName_assignNames (standaloneName_normalizeNodes hunnamed o),
    hasOwnName, root_normalizeNodes, derivableName?_root_normalizeNodes o g rootName hroot, hname]
  simp [hroot]

/-- **The normal form keeps the root and its range**, and so it does the range of all parts. -/
theorem ranges_normalize {g : SchemaGraph} (hroot : g.root < g.size)
    (hrange : ∀ id, ∀ part ∈ g.children id, part < g.size) (rootName : String) (o : Options) :
    (g.normalize rootName o).root = g.root ∧ g.root < (g.normalize rootName o).size ∧
      ∀ id, ∀ part ∈ (g.normalize rootName o).children id,
        part < (g.normalize rootName o).size := by
  have hrenames : Renames (g.normalizeNodes o) (g.normalize rootName o) :=
    renames_assignNames rootName (g.normalizeNodes o)
  rw [hrenames.root, hrenames.size, root_normalizeNodes, size_normalizeNodes]
  refine ⟨rfl, hroot, fun id part hpart => ?_⟩
  rw [hrenames.children] at hpart
  exact hrange id part (mem_children_normalizeNodes hpart)

/-- In the normal form the root is the same, and in range. -/
theorem root_normalize {b : Bundle} {o : Options} {g : SchemaGraph} (rootName : String)
    (hg : ofBundle b o = .ok g) :
    (g.normalize rootName o).root = g.root ∧ g.root < (g.normalize rootName o).size := by
  obtain ⟨hroot, -, hrange, -⟩ := settled_of_ofBundle hg
  obtain ⟨heq, hlt, -⟩ := ranges_normalize hroot hrange rootName o
  exact ⟨heq, hlt⟩

/-- The root and all parts of a normal graph are in range. -/
theorem inRange_normalize {b : Bundle} {o : Options} (rootName : String)
    (hg : ofBundle b o = .ok g) :
    (g.normalize rootName o).root < (g.normalize rootName o).size ∧
      ∀ id, ∀ part ∈ (g.normalize rootName o).children id,
        part < (g.normalize rootName o).size := by
  obtain ⟨hroot, -, hrange, -⟩ := settled_of_ofBundle hg
  obtain ⟨heq, hlt, hparts⟩ := ranges_normalize hroot hrange rootName o
  exact ⟨heq ▸ hlt, hparts⟩

end SchemaGraph

/-- **The types of a graph without violations are well-formed.** -/
theorem wellFormed_of_linkedGraph {schema : Json} {name : String} {o : Options}
    {source : DocumentSource} {g : SchemaGraph} (hg : linkedGraph schema o source = .ok g)
    (hviolations : g.violations name = []) :
    (TypeGraph.ofSchema (g.normalize name o) o).WellFormed := by
  obtain ⟨b, hb⟩ := SchemaGraph.exists_bundle hg
  obtain ⟨hroot, hlt⟩ := SchemaGraph.root_normalize name hb
  apply TypeGraph.wellFormed_ofSchema o
  · rw [hroot]
    exact hlt
  · rw [hroot]
    exact SchemaGraph.isSome_standaloneName_root hb hviolations

/-- **When a compiled text is closed.**  The text declares the names of all types that are reached,
and it uses no other name exactly when merging keeps the targets of its references. -/
theorem compile_closed_iff {schema : Json} {name : String} {o : Options} {source : DocumentSource}
    {text : String} (hall : o.declareReferenced = true)
    (h : compile schema name o source = .ok text) :
    ∃ g types, linkedGraph schema o source = .ok g ∧ typesOf g name o = .ok types ∧
      text = Declaration.generate types o name ∧
      (∀ used, types.Declares used → Declaration.Introduces text used) ∧
      (types.Closed o ↔
        ((TypeGraph.ofSchema (g.normalize name o) o).simplify o).KeepsTargets o) := by
  obtain ⟨-, g, hg, hviolations, types, htypes, rfl⟩ := compile_eq_ok_iff.1 h
  refine ⟨g, types, hg, htypes, rfl, ?_, ?_⟩
  · rintro used ⟨id, hid, hname⟩
    exact Declaration.introduces_generate name hall hid hname
  · have hwell := wellFormed_of_linkedGraph hg hviolations
    obtain ⟨hok, rfl⟩ := (TypeGraph.optimize_eq_ok_iff _ _ o).1 htypes
    refine TypeGraph.closed_iff_keepsTargets hok ?_ ?_
    · intro id target hkind
      exact hwell.noReference id target (TypeGraph.kind_of_simplify_reference hkind)
    · intro id members bases hkind base hbase
      have hrecord := TypeGraph.kind_of_simplify_record hkind
      rw [TypeGraph.size_simplify, TypeGraph.name?_simplify]
      refine ⟨hwell.inRange id base ?_, hwell.bases id members bases hrecord base hbase⟩
      rw [TypeGraph.children, hrecord]
      exact List.mem_append_right _ hbase

/-- Where nothing is merged, nothing is lost. -/
theorem compile_closed_selfReferring :
    (∃ text, compile SchemaGraph.selfReferring "Root" {} .none = .ok text) ∧
      ∃ g types, linkedGraph SchemaGraph.selfReferring {} .none = .ok g ∧
        typesOf g "Root" {} = .ok types ∧ types.Closed {} := by
  have hcompile : (compile SchemaGraph.selfReferring "Root" {} .none).toOption.any
      (fun _ => true) = true := by decide +kernel
  obtain ⟨text, htext, -⟩ := exists_ok_of_any hcompile
  have hmerge : (linkedGraph SchemaGraph.selfReferring {} .none).toOption.any (fun g =>
      decide (((TypeGraph.ofSchema (g.normalize "Root" {}) {}).simplify {}).replacements {} = [])
        ) = true := by decide +kernel
  obtain ⟨g, hg, hnone⟩ := exists_ok_of_any hmerge
  obtain ⟨g', types, hg', htypes, -, -, hclosed⟩ := compile_closed_iff rfl htext
  have heq : g' = g := Except.ok.inj (hg'.symm.trans hg)
  subst heq
  refine ⟨⟨text, htext⟩, g', types, hg, htypes, hclosed.2 fun r hr => ?_⟩
  rw [of_decide_eq_true hnone] at hr
  cases hr

/-- A class inside another of the same title.  The types named `N` are met first inside the inner
one, which goes when the two classes are merged. -/
def nestedTitles : Json :=
  let named : Json := .object [("title", .string "N"), ("type", .string "string")]
  .object [("title", .string "A"), ("properties", .object [
    ("x", .object [("title", .string "X"), ("properties", .object [
      ("a", .object [("title", .string "A"), ("properties", .object [
        ("x", .object [("$ref", .string "#/properties/x")]), ("n", named)])])])]),
    ("n", named)])]

/-- **A text that is not closed**: it uses `N`, which no declaration in it declares. -/
theorem compile_nestedTitles_not_closed :
    compile nestedTitles "Root" {} .none = .ok
        "export class A \x7b\n  x?: X;\n  n?: N;\n\x7d\n\nexport class X \x7b\n  a?: A;\n\x7d\n" ∧
      ∃ g types, linkedGraph nestedTitles {} .none = .ok g ∧ typesOf g "Root" {} = .ok types ∧
        ¬ types.Closed {} := by
  have hcompile : (compile nestedTitles "Root" {} .none).toOption.any (fun text => text =
      "export class A \x7b\n  x?: X;\n  n?: N;\n\x7d\n\nexport class X \x7b\n  a?: A;\n\x7d\n")
        = true := by decide +kernel
  have htypes : (linkedGraph nestedTitles {} .none).toOption.any (fun g =>
      (typesOf g "Root" {}).toOption.any TypeGraph.hasOpenReference) = true := by decide +kernel
  obtain ⟨text, htext, heq⟩ := exists_ok_of_any hcompile
  obtain ⟨g, hg, hopen⟩ := exists_ok_of_any htypes
  obtain ⟨types, htypes, hopen⟩ := exists_ok_of_any hopen
  exact ⟨of_decide_eq_true heq ▸ htext, g, types, hg, htypes,
    TypeGraph.not_closed_of_hasOpenReference hopen⟩

end SchemaTypings
