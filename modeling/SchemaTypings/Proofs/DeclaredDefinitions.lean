import SchemaTypings.Proofs.ClosedOutput
import SchemaTypings.Proofs.HeldDefinitions
import SchemaTypings.Proofs.StatedClasses

/-! # Definitions that are declared

When unreachable definitions are asked for, the definitions of a schema go into its types as members
of the class that the schema stands for.  A schema that stands for no class has no place for them.
Where the root keeps its class, every definition that has a name is declared, whatever refers to it.
-/
namespace SchemaTypings

open SchemaTypings.Bundle (EndsAt)

theorem Json.object?_eq_some {value : Json} {entries : Dict Json} :
    value.object? = some entries ↔ value = .object entries := by
  cases value <;> simp [Json.object?]

/-- A key that is no position leads to a field. -/
theorem Pointer.follow?_singleton {key : String} (hkey : Pointer.index? key = none) (value : Json) :
    Pointer.follow? value [key] = value.field? key := by
  have hstep : Pointer.step? value key = value.field? key := by
    cases value with
    | array items => rw [Pointer.step?, hkey]; rfl
    | _ => rfl
  rw [Pointer.follow?, hstep]
  cases value.field? key <;> rfl

namespace Library

open SchemaTypings.Bundle

variable {lib : Library} {source : DocumentSource} {levels : Nat} {whole settled : Json}

/-- From a schema the bare references in the bundle come to an end. -/
theorem Bundles.exists_endsAt (h : lib.Bundles source levels whole settled) {p : Place}
    (hopen : lib.Open p) (hplace : lib.IsSchema p) {value : Json}
    (hvalue : lib.value? p = some value) : ∃ last, EndsAt settled (lib.path p) last := by
  obtain ⟨shown, hshown, hkind⟩ := h.holds.exists_value hopen hvalue
  obtain ⟨held, hheld, halike⟩ := h.alike.exists_follow? hshown
  cases hbare : bareRef? held with
  | none => exact ⟨_, .here hheld hbare⟩
  | some target =>
    obtain ⟨t, ht, -⟩ := halike.bareRef?_left hbare
    rcases hkind with hsame | ⟨-, -, hnone⟩
    · obtain ⟨reference, hreference, -⟩ := hsame.bareRef?_left ht
      obtain ⟨final, hfinal, hnone⟩ := h.concrete_at hplace
        (reference?_of_bareRef? hvalue hreference) (textAt_of_bareRef? hheld hbare)
      exact ⟨_, .next hheld hbare (.here hfinal hnone)⟩
    · cases hnone.symm.trans ht

/-- **A definition of the root is in the bundle** under its key, and the bare references from there
come to an end. -/
theorem Bundles.exists_definition (h : lib.Bundles source levels whole settled) {keyword : String}
    (hkeyword : SchemaGraph.isDefinitions keyword = true) {entries : Dict Json}
    (hentries : lib.schema.field? keyword = some (.object entries)) {key : String}
    (hkey : key ∈ entries.keys) :
    ∃ held : Dict Json, settled.field? keyword = some (.object held) ∧ key ∈ held.keys ∧
      ∃ last, EndsAt settled [keyword, key] last := by
  obtain ⟨hrole, hopen, hindex⟩ : Keyword.role? keyword = some .named ∧
      keyword ≠ Keyword.external ∧ Pointer.index? keyword = none := by
    rcases SchemaGraph.isDefinitions_iff.1 hkeyword with rfl | rfl <;> decide
  have hpath : ∀ path, lib.path ⟨lib.root.text, path⟩ = path := fun path => if_pos rfl
  have hunder : ∀ rest, lib.Open ⟨lib.root.text, keyword :: rest⟩ :=
    fun rest _ heq => hopen (Option.some.inj heq)
  have hvalue : ∀ path, lib.value? ⟨lib.root.text, path⟩ = Pointer.follow? lib.schema path := by
    intro path
    rw [value?, find?_root, Option.bind_some]
  have hmap : lib.value? ⟨lib.root.text, [keyword]⟩ = some (.object entries) := by
    rw [hvalue, Pointer.follow?_singleton hindex, hentries]
  -- the entries keep their keys in the bundle
  obtain ⟨shown, hshown, hkind⟩ := h.holds.exists_value (hunder []) hmap
  rw [hpath] at hshown hkind
  obtain ⟨others, rfl, hothers, -⟩ := (hkind.resolve_right fun hroot =>
    absurd hroot.1 (List.cons_ne_nil _ _)).object_right
  obtain ⟨held, hheld, halike⟩ := h.alike.exists_follow? hshown
  obtain ⟨held, rfl, hkeys, -⟩ := halike.object_right
  rw [Pointer.follow?_singleton hindex] at hheld
  refine ⟨held, hheld, hkeys ▸ hothers ▸ hkey, ?_⟩
  -- and the one at the key is a schema
  obtain ⟨object, hobject, hget⟩ := Option.bind_eq_some_iff.1 hentries
  obtain ⟨definition, hdefinition⟩ :=
    Option.isSome_iff_exists.1 ((Dict.get?_isSome_iff_mem_keys _ _).2 hkey)
  have hschema := Json.object?_eq_some.1 hobject
  have hplace : SchemaAt lib.schema [keyword, key] definition := by
    rw [hschema]
    exact .under hget (.named hrole hdefinition) (.here _)
  have hentry : lib.value? ⟨lib.root.text, [keyword, key]⟩ = some definition := by
    rw [hvalue, hschema, Pointer.follow?, Pointer.step?, hget, Option.bind_some, Pointer.follow?,
      Pointer.step?, hdefinition]
    rfl
  have hends := h.exists_endsAt (hunder [key]) ⟨_, _, find?_root, hplace⟩ hentry
  rwa [hpath] at hends

end Library

namespace SchemaGraph

variable {b : Bundle} {o : Options} {g : SchemaGraph} {rootName : String}

/-- Normalizing and naming leave the definitions of a schema alone. -/
theorem definitions_normalize (g : SchemaGraph) (rootName : String) (o : Options) (id : SchemaId) :
    ((g.normalize rootName o).node id).definitions = (g.node id).definitions := by
  have hrenames : Renames (g.normalizeNodes o) (g.normalize rootName o) :=
    renames_assignNames rootName (g.normalizeNodes o)
  rw [hrenames.node id]
  exact congrArg (·.2.2.1) (fixed_normalizeNodes o g id)

/-- In a graph without violations a schema with an explicit name is named. -/
theorem isSome_standaloneName_of_explicitName? (hg : ofBundle b o = .ok g)
    (hviolations : g.violations rootName = []) {id : SchemaId} (hid : id < g.size)
    (hexplicit : (g.explicitName? id).isSome = true) :
    ((g.normalize rootName o).node id).standaloneName.isSome = true := by
  by_cases hroot : id = g.root
  · rw [hroot]
    exact isSome_standaloneName_root hg hviolations
  · obtain ⟨-, hunnamed, -⟩ := settled_of_ofBundle hg
    rw [normalize, isSome_standaloneName_assignNames (standaloneName_normalizeNodes hunnamed o),
      hasOwnName, explicitName?_normalizeNodes o g hid, hexplicit]
    simp [hroot, hid]

/-- **The root keeps a class**: it states one, and what its type is joined with leaves that alone. -/
structure KeepsClass (g : SchemaGraph) (o : Options) : Prop where
  states : g.StatesClass g.root
  alone : ∀ first rest,
    (TypeGraph.ofSchema g o).kind (TypeGraph.ofSchema g o).root = .intersection (first :: rest) →
      (TypeGraph.ofSchema g o).LeavesAlone o first

/-- The root keeps a class where nothing that it is joined with has a name. -/
theorem keepsClass_of_unnamed (hroot : g.root < g.size)
    (hg : ∀ id, ∀ part ∈ g.children id, part < g.size) (hstates : g.StatesClass g.root)
    (hunnamed : ∀ part, Relation.TransGen g.Joins g.root part →
      (g.node part).standaloneName = none) : g.KeepsClass o :=
  ⟨hstates, fun _ _ _ => Or.inl fun _ => TypeGraph.name?_of_transGen_joins hroot hg hunnamed⟩

/-- What a schema is joined with is among some schemas that have all that it, and each of them,
lists. -/
theorem mem_of_transGen_joins {id part : SchemaId} (parts : List SchemaId)
    (hparts : ∀ schema ∈ id :: parts,
      ∀ listed ∈ (g.node schema).allOf ++ (g.node schema).bases, listed ∈ parts)
    (h : Relation.TransGen g.Joins id part) : part ∈ parts := by
  induction h with
  | single h => exact hparts id List.mem_cons_self _ (List.mem_append.2 h.2)
  | tail _ h ih => exact hparts _ (List.mem_cons_of_mem _ ih) _ (List.mem_append.2 h.2)

end SchemaGraph

namespace TypeGraph

variable {g : SchemaGraph} {o : Options} {types : TypeGraph}

/-- **The definitions of a root that keeps its class are declared**, those that have a name. -/
theorem declares_of_keepsClass (hroot : g.root < g.size)
    (hg : ∀ id, ∀ part ∈ g.children id, part < g.size) (hwell : (ofSchema g o).WellFormed)
    (hasked : o.unreachableDefinitions = true) (hdedup : o.deduplicateClasses = false)
    (hok : (ofSchema g o).optimize o = .ok types) (hkeeps : g.KeepsClass o)
    (hnamed : (g.node g.root).standaloneName.isSome = true)
    (hany : types.kind types.root ≠ .any) (hopen : types.hasOpenReference = false)
    {entry : String × SchemaId} (hentry : entry ∈ (g.node g.root).definitions) {name : String}
    (hname : (g.node entry.2).standaloneName = some name) : types.Declares name := by
  have hroot' : (ofSchema g o).name? (ofSchema g o).root = (g.node g.root).standaloneName :=
    name?_of_assigns hroot hg (adds_made o hroot hg).2
  obtain ⟨c, hc, members, bases, hkind, hheld⟩ :=
    (rootShowsClass hroot hg hasked hkeeps.states hkeeps.alone).exists_class_optimize
      (fun _ => HoldsDefinitions.isRecord) hok hdedup hwell.root (by rwa [hroot']) hany
  obtain ⟨m, hm, htype⟩ := hheld entry hentry
  have hnamed : (ofSchema g o).name? m.type = some name :=
    (name?_of_assigns hroot hg htype).trans hname
  refine declares_of_reached hok hdedup hopen (.part hc ?_ ?_) hnamed
  · rw [children, hkind]
    exact List.mem_append_left _ (List.mem_map.2 ⟨m, hm, rfl⟩)
  · obtain ⟨-, rfl⟩ := (optimize_eq_ok_iff _ _ o).1 hok
    rw [size_foldl_replace, size_simplify]
    exact lt_size_of_name? hnamed

end TypeGraph

/-- **Every definition of the root is declared** that has an explicit name, whether or not anything
refers to it, where no key is defined twice and the root keeps a class.  A definition that is a bare
reference stands for what it refers to. -/
theorem compile_declares_definitions {schema : Json} {name : String} {o : Options}
    {source : DocumentSource} {text : String} {b : Bundle} {g : SchemaGraph} {types : TypeGraph}
    (hschema : schema.hasDistinctKeys = true)
    (hsource : ∀ uri value, source.fetch uri = .ok value → value.hasDistinctKeys = true)
    (hasked : o.unreachableDefinitions = true) (hall : o.declareReferenced = true)
    (hdedup : o.deduplicateClasses = false) (h : compile schema name o source = .ok text)
    (hbundle : Bundle.ofSchema schema o source = .ok b)
    (hgraph : SchemaGraph.ofBundle b o = .ok g) (htypes : typesOf g name o = .ok types)
    (hapart : ∀ object, b.schema = .object object →
      SchemaGraph.definesApart (SchemaGraph.overlaid b.schema object) = true)
    (hkeeps : (g.normalize name o).KeepsClass o)
    (hany : o.unknownAny = true ∨ types.kind types.root ≠ .any)
    (hopen : types.hasOpenReference = false) {keyword : String}
    (hkeyword : SchemaGraph.isDefinitions keyword = true) {entries : Dict Json}
    (hentries : schema.field? keyword = some (.object entries)) {key : String}
    (hkey : key ∈ entries.keys) :
    ∃ id last, (key, id) ∈ (g.node g.root).definitions ∧
      EndsAt b.schema [keyword, key] last ∧ Pointer.split (g.node id).pointer = last ∧
      ((g.explicitName? id).isSome = true →
        ∃ declared, ((g.normalize name o).node id).standaloneName = some declared ∧
          Declaration.Introduces text declared) := by
  obtain ⟨-, g', hg', hviolations, types', htypes', rfl⟩ := compile_eq_ok_iff.1 h
  have hlinked : linkedGraph schema o source = .ok g := bind_eq_ok_iff.2 ⟨b, hbundle, hgraph⟩
  cases hlinked.symm.trans hg'
  cases htypes.symm.trans htypes'
  obtain ⟨-, -, lib, whole, -, rfl, hlib⟩ := Library.exists_of_ofSchema hschema hsource hbundle
  obtain ⟨held, hheld, hkeyHeld, last, hlast⟩ := hlib.exists_definition hkeyword hentries hkey
  obtain ⟨object, hobject, hget⟩ := Option.bind_eq_some_iff.1 hheld
  replace hobject := Json.object?_eq_some.1 hobject
  obtain ⟨id, hid, hmem, hplace⟩ := SchemaGraph.exists_definition_of_ofBundle
    (hlib.alike.hasDistinctKeys hlib.keys) hgraph hobject (hapart object hobject) hkeyword hget
    hkeyHeld
  refine ⟨id, last, hmem, hlast, hplace last hlast, fun hexplicit => ?_⟩
  obtain ⟨declared, hdeclared⟩ := Option.isSome_iff_exists.1
    (SchemaGraph.isSome_standaloneName_of_explicitName? hgraph hviolations hid hexplicit)
  obtain ⟨hroot, hrange⟩ := SchemaGraph.inRange_normalize name hgraph
  have hentry : (key, id) ∈
      ((g.normalize name o).node (g.normalize name o).root).definitions := by
    rw [(SchemaGraph.root_normalize name hgraph).1, SchemaGraph.definitions_normalize]
    exact hmem
  have hnamed : ((g.normalize name o).node (g.normalize name o).root).standaloneName.isSome := by
    rw [(SchemaGraph.root_normalize name hgraph).1]
    exact SchemaGraph.isSome_standaloneName_root hgraph hviolations
  have hwell := wellFormed_of_linkedGraph hlinked hviolations
  have hknown : types.kind types.root ≠ .any := by
    rcases hany with hunknown | hany
    · exact TypeGraph.kind_optimize_root_ne_any htypes hdedup hwell.root fun _ =>
        TypeGraph.kind_ne_any_of_hasOperand hroot hrange hunknown
    · exact hany
  obtain ⟨type, htype, hname⟩ := TypeGraph.declares_of_keepsClass hroot hrange hwell hasked hdedup
    htypes hkeeps hnamed hknown hopen hentry hdeclared
  exact ⟨declared, hdeclared, Declaration.introduces_generate name hall htype hname⟩

/-- Options that ask for unreachable definitions. -/
def Options.withUnreachable : Options := { unreachableDefinitions := true }

/-- A class or `null`, joined with other types.  Nothing refers to its definitions, which stand
under both keywords. -/
def withUnused : Json :=
  .object [("type", .array [.string "object", .string "null"]),
    ("properties", .object [("a", .object [("type", .string "string")])]),
    ("allOf", .array [.object [("type", .array [.string "object", .string "string"])]]),
    ("definitions", .object [("D", .object [("type", .string "number")])]),
    ("$defs", .object [("E", .object [("type", .string "boolean")])])]

/-- Both definitions are declared. -/
theorem compile_declares_definitions_withUnused :
    ∃ text, compile withUnused "Root" .withUnreachable .none = .ok text ∧
      Declaration.Introduces text "D" ∧ Declaration.Introduces text "E" := by
  let o := Options.withUnreachable
  have hcompile : (compile withUnused "Root" o .none).toOption.any (fun _ => true) = true := by
    decide +kernel
  have hrun : (Bundle.ofSchema withUnused o .none).toOption.any (fun b =>
        b.schema.object?.all (fun object =>
          SchemaGraph.definesApart (SchemaGraph.overlaid b.schema object)) &&
        (SchemaGraph.ofBundle b o).toOption.any fun g =>
          (typesOf g "Root" o).toOption.any fun types =>
            let normal := g.normalize "Root" o
            let parts : List SchemaId := [2]
            decide (normal.StatesClass normal.root) &&
            decide (∀ schema ∈ normal.root :: parts,
              ∀ listed ∈ (normal.node schema).allOf ++ (normal.node schema).bases,
                listed ∈ parts) &&
            decide (∀ part ∈ parts, (normal.node part).standaloneName = none) &&
            !types.hasOpenReference &&
            decide (∀ entry ∈ (g.node g.root).definitions,
              (g.explicitName? entry.2).isSome = true ∧
                (normal.node entry.2).standaloneName = some entry.1)) = true := by
    decide +kernel
  obtain ⟨text, htext, -⟩ := exists_ok_of_any hcompile
  obtain ⟨b, hb, hrun⟩ := exists_ok_of_any hrun
  obtain ⟨hapart, hrun⟩ := Bool.and_eq_true_iff.1 hrun
  obtain ⟨g, hg, hrun⟩ := exists_ok_of_any hrun
  obtain ⟨types, htypes, hchecks⟩ := exists_ok_of_any hrun
  simp only [Bool.and_eq_true, decide_eq_true_iff, Bool.not_eq_true'] at hchecks
  obtain ⟨⟨⟨⟨hstates, hlisted⟩, hunnamed⟩, hopen⟩, hnames⟩ := hchecks
  obtain ⟨hroot, hrange⟩ := SchemaGraph.inRange_normalize "Root" hg
  have hkeeps : (g.normalize "Root" o).KeepsClass o :=
    SchemaGraph.keepsClass_of_unnamed hroot hrange hstates fun part hpart =>
      hunnamed part (SchemaGraph.mem_of_transGen_joins _ hlisted hpart)
  have hsource : ∀ uri value, DocumentSource.none.fetch uri = .ok value →
      value.hasDistinctKeys = true :=
    fun uri value hfetch => nomatch hfetch
  have hdeclared : ∀ keyword, SchemaGraph.isDefinitions keyword = true →
      ∀ {entries : Dict Json}, withUnused.field? keyword = some (.object entries) →
      ∀ {key : String}, key ∈ entries.keys → Declaration.Introduces text key := by
    intro keyword hkeyword entries hentries key hkey
    obtain ⟨id, last, hmem, -, -, hintroduces⟩ := compile_declares_definitions (by decide)
      hsource rfl rfl rfl htext hb hg htypes
      (fun object hobject => by simpa [hobject, Json.object?] using hapart) hkeeps
      (Or.inl rfl) hopen hkeyword hentries hkey
    obtain ⟨hexplicit, hname⟩ := hnames _ hmem
    obtain ⟨declared, hdeclared, hintroduces⟩ := hintroduces hexplicit
    cases hname.symm.trans hdeclared
    exact hintroduces
  exact ⟨text, htext, hdeclared "definitions" rfl rfl List.mem_cons_self,
    hdeclared "$defs" rfl rfl List.mem_cons_self⟩

/-- A text with a definition, to which nothing refers. -/
def textWithDefinition : Json :=
  .object [("type", .string "string"),
    ("definitions", .object [("D", .object [("type", .string "number")])])]

/-- **A definition that is left out**: it has a name, and still the text does not declare it, for
the root stands for no class. -/
theorem compile_textWithDefinition_leaves_out_definition :
    ∃ g id, linkedGraph textWithDefinition .withUnreachable .none = .ok g ∧
      ("D", id) ∈ (g.node g.root).definitions ∧ g.explicitName? id = some "D" ∧
      ((g.normalize "Root" .withUnreachable).node id).standaloneName = some "D" ∧
      ∃ text, compile textWithDefinition "Root" .withUnreachable .none = .ok text ∧
        ¬ Declaration.Introduces text "D" := by
  let o := Options.withUnreachable
  have hrun : (linkedGraph textWithDefinition o .none).toOption.any (fun g =>
      decide (("D", 1) ∈ (g.node g.root).definitions) &&
      decide (g.explicitName? 1 = some "D") &&
      decide (((g.normalize "Root" o).node 1).standaloneName = some "D")) = true := by
    decide +kernel
  have hcompile : (compile textWithDefinition "Root" o .none).toOption.any (fun text =>
      decide ('D' ∉ text.toList)) = true := by
    decide +kernel
  obtain ⟨g, hg, hchecks⟩ := exists_ok_of_any hrun
  simp only [Bool.and_eq_true, decide_eq_true_iff] at hchecks
  obtain ⟨⟨hmem, hexplicit⟩, hname⟩ := hchecks
  obtain ⟨text, htext, hletter⟩ := exists_ok_of_any hcompile
  refine ⟨g, 1, hg, hmem, hexplicit, hname, text, htext, ?_⟩
  rintro ⟨head, -, before, after, rfl⟩
  exact of_decide_eq_true hletter (by simp)

end SchemaTypings
