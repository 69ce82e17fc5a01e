import SchemaTypings.Proofs.Checking
import SchemaTypings.Proofs.ClosedOutput
import SchemaTypings.Proofs.Identifiers
import SchemaTypings.Proofs.NormalForm
import SchemaTypings.Proofs.RootName
import SchemaTypings.Proofs.TypeSources

/-! # Where names come from

A name can be declared if it is made of ASCII letters, digits, `_` and `$`, and no digit begins it.
The names that schemas get are such names, whatever texts they are made from: cleaning lets no other
character through, and a name behind a name is one again.  The types take their names from schemas,
and optimizing moves names from one type to another but makes none.  So every name of a type, and
every name that a reference asks for, was the name of a schema.
-/
namespace SchemaTypings

namespace Identifier

/-- The ASCII letters. -/
def IsLetter (c : Char) : Prop := ('a' ≤ c ∧ c ≤ 'z') ∨ ('A' ≤ c ∧ c ≤ 'Z')

/-- The ASCII digits. -/
def IsDigit (c : Char) : Prop := '0' ≤ c ∧ c ≤ '9'

/-- **A name that can be declared.** -/
structure IsDeclarable (name : String) : Prop where
  nonempty : name ≠ ""
  chars : ∀ c ∈ name.toList, IsLetter c ∨ IsDigit c ∨ c = '_' ∨ c = '$'
  start : ∀ c ∈ name.toList.head?, ¬ IsDigit c

theorem isDigit_iff {c : Char} : c.isDigit = true ↔ IsDigit c := by
  simp only [Char.isDigit, IsDigit, Bool.and_eq_true, decide_eq_true_eq, ge_iff_le]
  rfl

theorem isAlpha_iff {c : Char} : c.isAlpha = true ↔ IsLetter c := by
  delta Char.isAlpha Char.isUpper Char.isLower
  simp only [IsLetter, Bool.or_eq_true, Bool.and_eq_true, decide_eq_true_eq, ge_iff_le]
  rw [or_comm]
  rfl

theorem isPart_iff {c : Char} :
    isPart c = true ↔ IsLetter c ∨ IsDigit c ∨ c = '_' ∨ c = '$' := by
  simp only [isPart, Char.isAlphanum, Bool.or_eq_true, decide_eq_true_eq, isAlpha_iff,
    isDigit_iff, or_assoc]

/-- **What may start an identifier** is what may stand in it, but no digit. -/
theorem isStart_iff {c : Char} : isStart c = true ↔ isPart c = true ∧ ¬ IsDigit c := by
  constructor
  · intro h
    have hkinds : IsLetter c ∨ c = '_' ∨ c = '$' := by
      simpa only [isStart, Bool.or_eq_true, decide_eq_true_eq, isAlpha_iff, or_assoc] using h
    refine ⟨isPart_iff.2 (hkinds.imp_right Or.inr), ?_⟩
    rcases hkinds with hletter | rfl | rfl
    · -- digits come before all letters
      simp only [IsLetter, IsDigit, Char.le_def, UInt32.le_iff_toNat_le] at hletter ⊢
      simp only [Char.reduceVal, UInt32.reduceToNat] at hletter ⊢
      omega
    · exact fun h => absurd (isDigit_iff.2 h) (by decide)
    · exact fun h => absurd (isDigit_iff.2 h) (by decide)
  · rintro ⟨hpart, hdigit⟩
    exact isStart_of_isPart hpart (Bool.eq_false_iff.2 fun h => hdigit (isDigit_iff.1 h))

/-- **Identifiers are the names that can be declared.** -/
theorem isIdentifier_iff_isDeclarable {name : String} :
    isIdentifier name = true ↔ IsDeclarable name := by
  have hempty : name = "" ↔ name.toList = [] := String.toList_eq_nil_iff.symm
  unfold isIdentifier
  cases hname : name.toList with
  | nil => exact ⟨nofun, fun h => absurd (hempty.2 hname) h.nonempty⟩
  | cons c rest =>
    rw [Bool.and_eq_true, List.all_eq_true, isStart_iff]
    constructor
    · rintro ⟨⟨hc, hdigit⟩, hrest⟩
      refine ⟨fun h => List.cons_ne_nil c rest (hname.symm.trans (hempty.1 h)), ?_, ?_⟩
      · rw [hname]
        exact fun d hd => isPart_iff.1 ((List.mem_cons.1 hd).elim (fun h => h ▸ hc) (hrest d))
      · rw [hname]
        rintro d ⟨⟩
        exact hdigit
    · intro h
      have hparts : ∀ d ∈ c :: rest, isPart d = true :=
        fun d hd => isPart_iff.2 (h.chars d (hname ▸ hd))
      refine ⟨⟨hparts c List.mem_cons_self, h.start c ?_⟩,
        fun d hd => hparts d (List.mem_cons_of_mem _ hd)⟩
      rw [hname]
      rfl

instance (name : String) : Decidable (IsDeclarable name) :=
  decidable_of_iff (isIdentifier name = true) isIdentifier_iff_isDeclarable

example : IsDeclarable "_2nd" ∧ ¬ IsDeclarable "2nd" ∧ ¬ IsDeclarable "größe" := by decide

end Identifier

namespace SchemaGraph

/-- Some schema has the name. -/
def GivesName (g : SchemaGraph) (name : String) : Prop :=
  ∃ id, (g.node id).standaloneName = some name

/-- Normalizing nodes leaves names alone. -/
theorem NamesAreIdentifiers.normalizeNodes {g : SchemaGraph} (hg : g.NamesAreIdentifiers)
    (o : Options) : (g.normalizeNodes o).NamesAreIdentifiers := fun id name hname =>
  hg id name ((congrArg (·.2.2.2) (fixed_normalizeNodes o g id)).symm.trans hname)

/-- **The root of the normal form has a name**, if a graph has no violations. -/
theorem standaloneName_root_normalize {g : SchemaGraph} {rootName : String}
    (hroot : g.root < g.size) (hviolations : g.violations rootName = []) (o : Options) :
    ∃ name, ((g.normalize rootName o).node (g.normalize rootName o).root).standaloneName =
      some name := by
  obtain ⟨name, hname⟩ := Option.isSome_iff_exists.1 (isSome_derivableName?_root hviolations)
  have hrenames : Renames (g.normalizeNodes o) (g.normalize rootName o) :=
    renames_assignNames rootName (g.normalizeNodes o)
  rw [← derivableName?_root_normalizeNodes o g rootName hroot] at hname
  refine ⟨name, ?_⟩
  rw [hrenames.root]
  exact standaloneName_root_assignNames (by rwa [size_normalizeNodes]) hname

end SchemaGraph

namespace TypeGraph

variable {g h : TypeGraph} {o : Options} {name : String}

/-- **A name stands in a graph of types**: some type has it, or some reference asks for it. -/
def CarriesName (g : TypeGraph) (name : String) : Prop :=
  ∃ id, g.name? id = some name ∨ g.kind id = .reference name

/-! ### Making types -/

theorem IsArrayKind.ne_reference {s : Growth} {n : SchemaNode} {kind : TypeKind}
    (h : IsArrayKind s o n kind) : kind ≠ .reference name := by
  rintro rfl
  unfold IsArrayKind at h
  split at h
  · obtain ⟨_, _, -, -, heq⟩ := h
    split at heq <;> cases heq
  · obtain ⟨_, -, heq⟩ := h
    cases heq
  · obtain ⟨_, -, heq⟩ := h
    split at heq <;> cases heq

theorem IsEnumKind.ne_reference {s : Growth} {n : SchemaNode} {kind : TypeKind}
    (h : IsEnumKind s n kind) : kind ≠ .reference name := by
  rintro rfl
  unfold IsEnumKind at h
  split at h
  · cases h
  · cases h
  · obtain ⟨_, -, heq⟩ := h
    cases heq

/-- **No type is made as a reference**: no shape of a kind is one. -/
theorem kind_ofSchema_ne_reference {g : SchemaGraph} (hroot : g.root < g.size)
    (hrange : ∀ id, ∀ part ∈ g.children id, part < g.size) (id : TypeId) :
    (ofSchema g o).kind id ≠ .reference name := by
  intro hkind
  obtain ⟨schema, hshape, -⟩ := (founded_kind o hroot hrange id).exists_shape
  rw [hkind] at hshape
  cases hshape with
  | atom h => cases h
  | record _ h =>
    obtain ⟨_, _, _, _, -, -, -, -, heq⟩ := h
    cases heq
  | array _ h => exact h.ne_reference rfl
  | values h => exact h.ne_reference rfl
  | operation h => cases h

/-- **Types take their names from schemas.** -/
theorem givesName_of_carriesName_ofSchema {g : SchemaGraph} (hroot : g.root < g.size)
    (hrange : ∀ id, ∀ part ∈ g.children id, part < g.size)
    (h : (ofSchema g o).CarriesName name) : g.GivesName name := by
  obtain ⟨id, hname | hkind⟩ := h
  · change ((made g o).nodes[id]?.getD { kind := .any }).name = some name at hname
    cases hnode : (made g o).nodes[id]? with
    | none =>
      rw [hnode] at hname
      cases hname
    | some node =>
      rw [hnode] at hname
      rcases (adds_made o hroot hrange).1.justified id node hnode with hold | hjustified
      · cases hold
      · exact hjustified.name name hname
  · exact absurd hkind (kind_ofSchema_ne_reference hroot hrange id)

/-! ### Optimizing -/

theorem carriesName_of_simplify (h : (g.simplify o).CarriesName name) : g.CarriesName name := by
  obtain ⟨id, hname | hkind⟩ := h
  · exact ⟨id, Or.inl (name?_simplify g o id ▸ hname)⟩
  · exact ⟨id, Or.inr (kind_of_simplify_reference hkind)⟩

/-- Replacing types brings in no names but those that are asked for. -/
theorem carriesName_of_foldl_replace {rs : List Replacement}
    (hrs : ∀ r ∈ rs, g.CarriesName r.target) (h : (rs.foldl replace g).CarriesName name) :
    g.CarriesName name := by
  obtain ⟨id, h⟩ := h
  by_cases hreplaced : IsReplaced rs id
  · rcases h with hname | hkind
    · rw [name?_foldl_replace_of_replaced hreplaced] at hname
      cases hname
    · have hlt : id < (rs.foldl replace g).size :=
        lt_size_of_kind_ne fun hany => nomatch hkind.symm.trans hany
      rw [size_foldl_replace] at hlt
      obtain ⟨r, hr, -, htarget⟩ := kind_foldl_replace_of_replaced hlt hreplaced
      cases hkind.symm.trans htarget
      exact hrs r hr
  · rw [name?_foldl_replace_of_not hreplaced, kind_foldl_replace_of_not hreplaced] at h
    exact ⟨id, h⟩

/-- A class is merged into one that has the name. -/
theorem exists_name?_of_mem_classReplacements {r : Replacement}
    (hr : r ∈ g.classReplacements o) : ∃ id, g.name? id = some r.target := by
  obtain ⟨-, -, -, first, hfirst, -, -, -, rfl⟩ := exists_of_mem_classReplacements hr
  exact ⟨first.id, (mem_classBearers hfirst).2.2⟩

/-- **Optimizing makes no names.** -/
theorem carriesName_of_optimize (hok : g.optimize o = .ok h) (hname : h.CarriesName name) :
    g.CarriesName name := by
  have hheq := ((optimize_eq_ok_iff g h o).1 hok).2
  rw [hheq, replacements, List.foldl_append] at hname
  have hnames : ∀ r ∈ (g.simplify o).nameReplacements o, (g.simplify o).CarriesName r.target :=
    fun r hr => ⟨r.id, Or.inl (name?_of_mem_nameReplacements hr)⟩
  have hclasses := carriesName_of_foldl_replace (fun r hr => by
    obtain ⟨id, hid⟩ := exists_name?_of_mem_classReplacements hr
    exact ⟨id, Or.inl hid⟩) hname
  exact carriesName_of_simplify (carriesName_of_foldl_replace hnames hclasses)

end TypeGraph

/-- **Every name that is written can be declared.**  Let the names that a graph starts with be
identifiers; a graph that was linked starts with none.  Then all names that the normal form gives can
be declared, the root has one unless the graph has violations, and no others stand in the types that
are made or in what optimizing leaves of them. -/
theorem names_are_declarable {g : SchemaGraph} (hnames : g.NamesAreIdentifiers)
    (hroot : g.root < g.size) (hrange : ∀ id, ∀ part ∈ g.children id, part < g.size)
    (rootName : String) (o : Options) :
    (∀ name, (g.normalize rootName o).GivesName name → Identifier.IsDeclarable name) ∧
    (g.violations rootName = [] → ∃ name,
      ((g.normalize rootName o).node (g.normalize rootName o).root).standaloneName = some name) ∧
    (∀ name, (TypeGraph.ofSchema (g.normalize rootName o) o).CarriesName name →
      (g.normalize rootName o).GivesName name) ∧
    ∀ types, (TypeGraph.ofSchema (g.normalize rootName o) o).optimize o = .ok types →
      ∀ name, types.CarriesName name → (g.normalize rootName o).GivesName name := by
  obtain ⟨heq, hlt, hparts⟩ := SchemaGraph.ranges_normalize hroot hrange rootName o
  have hmade : ∀ name, (TypeGraph.ofSchema (g.normalize rootName o) o).CarriesName name →
      (g.normalize rootName o).GivesName name :=
    fun _ => TypeGraph.givesName_of_carriesName_ofSchema (heq ▸ hlt) hparts
  refine ⟨?_, fun hviolations => SchemaGraph.standaloneName_root_normalize hroot hviolations o,
    hmade, fun types hok name hname => hmade name (TypeGraph.carriesName_of_optimize hok hname)⟩
  rintro name ⟨id, hid⟩
  exact Identifier.isIdentifier_iff_isDeclarable.1
    ((hnames.normalizeNodes o).assignNames rootName id name hid)

/-- What is known of the names and ranges of a linked graph. -/
theorem namesAreIdentifiers_of_linkedGraph {schema : Json} {o : Options} {source : DocumentSource}
    {g : SchemaGraph} (hg : linkedGraph schema o source = .ok g) :
    g.NamesAreIdentifiers ∧ g.root < g.size ∧ ∀ id, ∀ part ∈ g.children id, part < g.size := by
  obtain ⟨b, hb⟩ := SchemaGraph.exists_bundle hg
  obtain ⟨hroot, hunnamed, hrange, -⟩ := SchemaGraph.settled_of_ofBundle hb
  exact ⟨SchemaGraph.namesAreIdentifiers_of_unnamed hunnamed, hroot, hrange⟩

theorem TypeKind.eq_reference_of_target? {kind : TypeKind} {target : String}
    (h : kind.target? = some target) : kind = .reference target := by
  unfold TypeKind.target? at h
  split at h
  · cases h
    rfl
  · cases h

/-- A list of prices with a title and keys beyond ASCII, a definition that begins with a digit, and a
second class of its name. -/
def priceList : Json := .object [
  ("title", .string "Preis-Liste (€)"),
  ("properties", .object [
    ("größe", .object [("properties", .object [
      ("größe", .object [("properties", .object [("x", .object [])])])])]),
    ("3d", .object [("$ref", .string "#/definitions/2nd 日本")]),
    ("again", .object [("title", .string "2nd 日"), ("properties", .object [])])]),
  ("definitions", .object [("2nd 日本", .object [("properties", .object [])])])]

/-- The names of the price list: the letters of its texts that ASCII has, a name behind another one
where both keys are alike, and an underscore before the digit. -/
theorem names_are_declarable_priceList :
    ∃ g, linkedGraph priceList {} .none = .ok g ∧ g.violations "" = [] ∧
      (g.normalize "" {}).nodes.toList.map SchemaNode.standaloneName =
        [some "PreisListe", some "Gre", some "GreGre", none, some "_2nd", some "_2nd"] ∧
      (∀ name, (g.normalize "" {}).GivesName name → Identifier.IsDeclarable name) ∧
      ∃ types, (TypeGraph.ofSchema (g.normalize "" {}) {}).optimize {} = .ok types ∧
        types.kind 5 = .reference "_2nd" ∧ (g.normalize "" {}).GivesName "_2nd" := by
  have hrun : (linkedGraph priceList {} .none).toOption.any (fun g =>
      decide (g.violations "" = [] ∧
        (g.normalize "" {}).nodes.toList.map SchemaNode.standaloneName =
          [some "PreisListe", some "Gre", some "GreGre", none, some "_2nd", some "_2nd"]) &&
      ((TypeGraph.ofSchema (g.normalize "" {}) {}).optimize {}).toOption.any fun types =>
        decide ((types.kind 5).target? = some "_2nd")) = true := by decide +kernel
  obtain ⟨g, hg, hchecks⟩ := exists_ok_of_any hrun
  obtain ⟨hchecks, htypes⟩ := Bool.and_eq_true_iff.1 hchecks
  obtain ⟨hviolations, hnames⟩ := of_decide_eq_true hchecks
  obtain ⟨types, hok, htarget⟩ := exists_ok_of_any htypes
  obtain ⟨hidentifiers, hroot, hrange⟩ := namesAreIdentifiers_of_linkedGraph hg
  obtain ⟨hdeclarable, -, -, hcarried⟩ := names_are_declarable hidentifiers hroot hrange "" {}
  have hreference := TypeKind.eq_reference_of_target? (of_decide_eq_true htarget)
  exact ⟨g, hg, hviolations, hnames, hdeclarable, types, hok, hreference,
    hcarried types hok "_2nd" ⟨5, Or.inr hreference⟩⟩

end SchemaTypings
