import SchemaTypings.Compile
import SchemaTypings.Proofs.ClosedOutput
import SchemaTypings.Proofs.RootName

/-! # Every name is declared once

After merging no two types that are reached share a name.  Each section of the output goes over the
reached types and writes one block for every named type of its kind; the registry of class names
holds back none, as the names are distinct.  So the blocks are the declarations of the named types,
one each, and that of the root is among them.
-/
namespace SchemaTypings

/-- Values that only some elements of a list have, related to the elements that have one. -/
theorem forall₂_filter_filterMap {α β : Type} {R : α → β → Prop} {p : α → Bool} {f : α → Option β}
    {list : List α} (hnone : ∀ a ∈ list, p a = false → f a = none)
    (hsome : ∀ a ∈ list, p a = true → ∃ b, f a = some b ∧ R a b) :
    List.Forall₂ R (list.filter p) (list.filterMap f) := by
  induction list with
  | nil => exact .nil
  | cons a rest ih =>
    have hrest := ih (fun a ha => hnone a (List.mem_cons_of_mem _ ha))
      (fun a ha => hsome a (List.mem_cons_of_mem _ ha))
    cases hp : p a with
    | false =>
      rw [List.filter_cons_of_neg (by simp [hp]),
        List.filterMap_cons_none (hnone a List.mem_cons_self hp)]
      exact hrest
    | true =>
      obtain ⟨b, hb, hab⟩ := hsome a List.mem_cons_self hp
      rw [List.filter_cons_of_pos hp, List.filterMap_cons_some hb]
      exact .cons hab hrest

namespace TypeGraph

variable {g h : TypeGraph} {o : Options}

/-- **Merging leaves one type to every name.** -/
theorem eq_of_name?_optimize (hok : g.optimize o = .ok h) {id other : TypeId} {name : String}
    (hid : h.Reached id) (hother : h.Reached other) (hname : h.name? id = some name)
    (hname' : h.name? other = some name) : id = other := by
  obtain ⟨⟨rs, hrs⟩, rfl⟩ := (optimize_eq_ok_iff g h o).1 hok
  have hfirst : ∀ {id : TypeId},
      (((g.simplify o).replacements o).foldl replace (g.simplify o)).Reached id →
      (((g.simplify o).replacements o).foldl replace (g.simplify o)).name? id = some name →
      (g.simplify o).firstBearer? name = some id := by
    intro id hid hname
    obtain ⟨hkept, hname⟩ := name?_foldl_replace_eq_some.1 hname
    refine firstBearer?_eq_some hrs ((reached_foldl_replace_iff _ _ _).1 hid).reached hname ?_
    intro hreplaced
    refine hkept (isReplaced_append.2 (Or.inl ?_))
    rw [nameReplacements, hrs]
    exact hreplaced
  have hsame := (hfirst hid hname).symm.trans (hfirst hother hname')
  exact Option.some.inj hsame

end TypeGraph

namespace Declaration

open TypeGraph

variable {g : TypeGraph} {o : Options} {rootName : String}

/-- Whether a type is declared in the section of a kind. -/
def isListed (g : TypeGraph) (section? : TypeKind → Bool) (id : TypeId) : Bool :=
  (g.name? id).isSome && section? (g.kind id)

/-- Kinds that are declared as aliases. -/
def isAliased (kind : TypeKind) : Bool := !kind.isRecord && !kind.isEnumeration

/-- **The types that are declared**, in the order of the output: aliases, classes, enumerations. -/
def declared (g : TypeGraph) : List TypeId :=
  g.reachable.filter (isListed g isAliased) ++
    g.reachable.filter (isListed g TypeKind.isRecord) ++
    g.reachable.filter (isListed g TypeKind.isEnumeration)

/-- No kind belongs to two sections. -/
theorem not_isRecord_of_isEnumeration {kind : TypeKind} (h : kind.isEnumeration = true) :
    kind.isRecord = false := by
  cases kind <;> first | rfl | cases h

theorem mem_declared {id : TypeId} :
    id ∈ declared g ↔ g.Reached id ∧ (g.name? id).isSome := by
  rw [← mem_reachable_iff]
  simp only [declared, List.mem_append, List.mem_filter, isListed, isAliased, Bool.and_eq_true,
    Bool.not_eq_true']
  constructor
  · rintro ((⟨hid, hname, -⟩ | ⟨hid, hname, -⟩) | ⟨hid, hname, -⟩) <;> exact ⟨hid, hname⟩
  · rintro ⟨hid, hname⟩
    cases hrecord : (g.kind id).isRecord with
    | true => exact Or.inl (Or.inr ⟨hid, hname, rfl⟩)
    | false =>
      cases henum : (g.kind id).isEnumeration with
      | true => exact Or.inr ⟨hid, hname, rfl⟩
      | false => exact Or.inl (Or.inl ⟨hid, hname, rfl, rfl⟩)

theorem nodup_declared (g : TypeGraph) : (declared g).Nodup := by
  have hfilter : ∀ p : TypeId → Bool, (g.reachable.filter p).Nodup :=
    fun p => (nodup_reachable g).filter p
  have hkind : ∀ {section? : TypeKind → Bool} {id : TypeId},
      id ∈ g.reachable.filter (isListed g section?) → section? (g.kind id) = true := by
    intro section? id hid
    exact (Bool.and_eq_true_iff.1 (List.mem_filter.1 hid).2).2
  refine List.Nodup.append (List.Nodup.append (hfilter _) (hfilter _) ?_) (hfilter _) ?_
  · intro id halias hrecord
    have := hkind halias
    simp [isAliased, hkind hrecord] at this
  · intro id hmem henum
    rcases List.mem_append.1 hmem with halias | hrecord
    · have := hkind halias
      simp [isAliased, hkind henum] at this
    · have := hkind hrecord
      rw [not_isRecord_of_isEnumeration (hkind henum)] at this
      cases this

/-- The section of aliases. -/
theorem declarations_aliases (hall : o.declareReferenced = true) (texts : Texts) :
    After (aliases g o rootName) texts fun blocks _ =>
      List.Forall₂ (IsDeclaration g o) (g.reachable.filter (isListed g isAliased)) blocks := by
  have hfold : ∀ (ids : List TypeId) (texts : Texts),
      After (ids.mapM (alias? g o rootName)) texts fun blocks _ =>
        List.Forall₂ (IsDeclaration g o) (ids.filter (isListed g isAliased))
          (blocks.filterMap id) := by
    intro ids
    induction ids with
    | nil => exact fun _ => .nil
    | cons first rest ih =>
      intro texts
      rw [List.mapM_cons, after_bind]
      cases hlisted : isListed g isAliased first with
      | false =>
        have hnone : After (alias? g o rootName first) texts fun block _ => block = none := by
          unfold alias?
          split
          · rfl
          · next name hname =>
            simp only [isListed, isAliased, hname, Option.isSome_some, Bool.true_and] at hlisted
            split
            · rfl
            · next hopen =>
              exfalso
              simp only [Bool.or_eq_true, not_or, Bool.not_eq_true] at hopen
              simp [hopen.1.1, hopen.1.2] at hlisted
        refine hnone.mono fun block texts' hblock => ?_
        rw [after_bind]
        refine (ih texts').mono fun blocks _ hblocks => ?_
        rw [after_pure, hblock, List.filter_cons_of_neg (by simp [hlisted])]
        exact hblocks
      | true =>
        obtain ⟨hnamed, hkind⟩ := Bool.and_eq_true_iff.1 hlisted
        obtain ⟨name, hname⟩ := Option.isSome_iff_exists.1 hnamed
        obtain ⟨hrecord, henum⟩ := Bool.and_eq_true_iff.1 hkind
        refine (alias?_of_name hall hname (by simpa using hrecord) (by simpa using henum)
          texts).mono fun block texts' hblock => ?_
        obtain ⟨text, rfl, htext⟩ := hblock
        rw [after_bind]
        refine (ih texts').mono fun blocks _ hblocks => ?_
        rw [after_pure, List.filter_cons_of_pos hlisted]
        exact .cons htext hblocks
  unfold aliases
  rw [after_bind]
  exact hfold g.reachable texts

/-- The section of classes.  The registry holds back no class when all names are distinct. -/
theorem declarations_classesFrom (rootName : String) (hall : o.declareReferenced = true)
    {ids : List TypeId}
    (hnodup : ids.Nodup)
    (hdistinct : ∀ id ∈ ids, ∀ other ∈ ids, ∀ name, g.name? id = some name →
      g.name? other = some name → id = other)
    (emitted : List String) (hfresh : ∀ id ∈ ids, ∀ name ∈ emitted, g.name? id ≠ some name)
    (texts : Texts) :
    After (classesFrom g o rootName emitted ids) texts fun result _ =>
      List.Forall₂ (IsDeclaration g o) (ids.filter (isListed g TypeKind.isRecord)) result.1 := by
  induction ids generalizing emitted texts with
  | nil => exact .nil
  | cons first rest ih =>
    obtain ⟨hfirst, hrest⟩ := List.nodup_cons.1 hnodup
    have hothers : ∀ id ∈ rest, ∀ other ∈ rest, ∀ name, g.name? id = some name →
        g.name? other = some name → id = other := fun id hid other hother =>
      hdistinct id (List.mem_cons_of_mem _ hid) other (List.mem_cons_of_mem _ hother)
    unfold classesFrom
    split
    · next name members bases hname hkind =>
      have hopen : emitted.contains name = false := by
        rw [List.contains_eq_mem, decide_eq_false_iff_not]
        exact fun hmem => hfresh first List.mem_cons_self name hmem hname
      have hlisted : isListed g TypeKind.isRecord first = true := by
        rw [isListed, hname, hkind]
        rfl
      simp only [isDeclared, hall, Bool.or_true, Bool.not_true, hopen, Bool.or_self,
        Bool.false_eq_true, if_false]
      refine after_bind.2 ((isDeclaration_classBlock hname hkind texts).mono
        fun block texts' hblock => ?_)
      have hlater : ∀ id ∈ rest, ∀ used ∈ name :: emitted, g.name? id ≠ some used := by
        intro id hid used hused
        rcases List.mem_cons.1 hused with rfl | hused
        · intro hsame
          refine hfirst ?_
          rw [hdistinct first List.mem_cons_self id (List.mem_cons_of_mem _ hid) used hname hsame]
          exact hid
        · exact hfresh id (List.mem_cons_of_mem _ hid) used hused
      refine after_bind.2 ((ih hrest hothers _ hlater texts').mono fun result _ hresult => ?_)
      rw [List.filter_cons_of_pos hlisted]
      exact .cons hblock hresult
    · next hnot =>
      have hlisted : isListed g TypeKind.isRecord first = false := by
        rw [isListed]
        cases hname : g.name? first with
        | none => rfl
        | some name =>
          cases hkind : g.kind first with
          | record members bases => exact absurd hkind (hnot name members bases hname)
          | _ => rfl
      rw [List.filter_cons_of_neg (by simp [hlisted])]
      exact ih hrest hothers _ (fun id hid => hfresh id (List.mem_cons_of_mem _ hid)) texts

/-- The section of enumerations. -/
theorem declarations_enums (g : TypeGraph) (o : Options) :
    List.Forall₂ (IsDeclaration g o) (g.reachable.filter (isListed g TypeKind.isEnumeration))
      (enums g o) := by
  refine forall₂_filter_filterMap (fun id _ hlisted => ?_) fun id _ hlisted => ?_
  · unfold enum?
    split
    · next name entries hname hkind =>
      simp [isListed, hname, hkind, TypeKind.isEnumeration] at hlisted
    · rfl
  · obtain ⟨hnamed, henum⟩ := Bool.and_eq_true_iff.1 hlisted
    obtain ⟨name, hname⟩ := Option.isSome_iff_exists.1 hnamed
    cases hkind : g.kind id with
    | enumeration entries => exact isDeclaration_enum? hname hkind
    | _ => rw [hkind] at henum; cases henum

/-- **The blocks are the declarations of the named types**, one each. -/
theorem declarations_blocks (hall : o.declareReferenced = true)
    (hdistinct : ∀ id other name, g.Reached id → g.Reached other → g.name? id = some name →
      g.name? other = some name → id = other) (rootName : String) :
    List.Forall₂ (IsDeclaration g o) (declared g) (blocks g o rootName) := by
  refine blocks_of_after (P := List.Forall₂ (IsDeclaration g o) (declared g)) rootName ?_
  refine (declarations_aliases hall []).mono fun aliases texts haliases => ?_
  have hclasses := declarations_classesFrom rootName hall
    (nodup_reachable g) (fun id hid other hother name => hdistinct id other name
      ((mem_reachable_iff g id).1 hid) ((mem_reachable_iff g other).1 hother))
    [] (fun id _ name hname => absurd hname List.not_mem_nil) texts
  refine hclasses.mono fun result _ hresult => ?_
  exact List.rel_append (List.rel_append haliases hresult) (declarations_enums g o)

/-- A text with blocks is not empty. -/
theorem generate_ne_empty (h : blocks g o rootName ≠ []) : generate g o rootName ≠ "" := by
  unfold generate
  split
  · next hnil => exact absurd hnil h
  · intro heq
    have hlength := congrArg String.length heq
    rw [String.length_append] at hlength
    exact absurd hlength (by simp)

end Declaration

/-- **Every name is declared once.**  When all named types are declared, a compilation that succeeds
goes through types in which no two that are reached share a name; its blocks are the declarations of
the named ones, one each; and the root has the name that was derived for it, is no reference, and so
is declared. -/
theorem compile_declares_once {schema : Json} {name : String} {o : Options}
    {source : DocumentSource} {text : String} (hall : o.declareReferenced = true)
    (h : compile schema name o source = .ok text) :
    ∃ g types, linkedGraph schema o source = .ok g ∧ typesOf g name o = .ok types ∧
      text = Declaration.generate types o name ∧
      (∀ id other used, types.Reached id → types.Reached other → types.name? id = some used →
        types.name? other = some used → id = other) ∧
      (∃ ids : List TypeId, ids.Nodup ∧
        (∀ id, id ∈ ids ↔ types.Reached id ∧ (types.name? id).isSome) ∧
        List.Forall₂ (Declaration.IsDeclaration types o) ids (Declaration.blocks types o name)) ∧
      types.Reached types.root ∧ (types.name? types.root).isSome ∧
      types.name? types.root = g.derivableName? g.root name ∧
      (∀ target, types.kind types.root ≠ .reference target) ∧ text ≠ "" := by
  obtain ⟨-, g, hg, hviolations, types, htypes, rfl⟩ := compile_eq_ok_iff.1 h
  have hwell := wellFormed_of_linkedGraph hg hviolations
  obtain ⟨b, hb⟩ := SchemaGraph.exists_bundle hg
  obtain ⟨hroot, hlt⟩ := SchemaGraph.root_normalize name hb
  -- the name that is derived for the root goes through all stages
  obtain ⟨rootName, hderived⟩ : ∃ rootName, g.derivableName? g.root name = some rootName :=
    Option.isSome_iff_exists.1 (SchemaGraph.isSome_derivableName?_root hviolations)
  have hnormal : ((g.normalize name o).node g.root).standaloneName = some rootName := by
    have hbefore := SchemaGraph.derivableName?_root_normalizeNodes o g name
      (SchemaGraph.settled_of_ofBundle hb).1
    exact SchemaGraph.standaloneName_root_assignNames (g := g.normalizeNodes o)
      (by simpa using (SchemaGraph.settled_of_ofBundle hb).1) (hbefore.trans hderived)
  have hmade : (TypeGraph.ofSchema (g.normalize name o) o).name?
      (TypeGraph.ofSchema (g.normalize name o) o).root = some rootName := by
    rw [TypeGraph.name?_root_ofSchema o (hroot ▸ hlt) (by rw [hroot, hnormal]; rfl), hroot,
      hnormal]
  obtain ⟨hkept, hreference⟩ := TypeGraph.root_optimize hwell.root htypes
  have hname : types.name? types.root = some rootName := hkept.trans hmade
  have hreached : types.Reached types.root := .root (TypeGraph.lt_size_of_name? hname)
  have hdistinct : ∀ id other used, types.Reached id → types.Reached other →
      types.name? id = some used → types.name? other = some used → id = other :=
    fun id other used hid hother => TypeGraph.eq_of_name?_optimize htypes hid hother
  have hblocks := Declaration.declarations_blocks hall hdistinct name
  have hnonempty : Declaration.blocks types o name ≠ [] := by
    intro hnil
    have hmem : types.root ∈ Declaration.declared types :=
      Declaration.mem_declared.2 ⟨hreached, by rw [hname]; rfl⟩
    rw [hnil, List.forall₂_nil_right_iff] at hblocks
    rw [hblocks] at hmem
    cases hmem
  refine ⟨g, types, hg, htypes, rfl, hdistinct, ⟨Declaration.declared types,
    Declaration.nodup_declared types, fun id => Declaration.mem_declared, hblocks⟩, hreached, ?_,
    hname.trans hderived.symm, hreference fun target => hwell.noReference _ target,
    Declaration.generate_ne_empty hnonempty⟩
  rw [hname]
  rfl

/-- A class that is used twice, an enumeration, and two aliases of one title. -/
def drawing : Json :=
  let label : Json := .object [("title", .string "Label"), ("type", .string "string")]
  .object [("title", .string "Drawing"), ("properties", .object [
    ("from", .object [("$ref", .string "#/definitions/Point")]),
    ("to", .object [("$ref", .string "#/definitions/Point")]),
    ("ink", .object [("title", .string "Ink"), ("enum", .array [.string "red", .string "blue"])]),
    ("head", label), ("foot", label)]),
    ("definitions", .object [("Point", .object [("properties", .object [
      ("x", .object [("type", .string "number")])])])])]

/-- The drawing has one declaration of each of its four names. -/
theorem compile_declares_once_drawing :
    ∃ text, compile drawing "Root" {} .none = .ok text ∧ ∃ types : TypeGraph,
      text = Declaration.generate types {} "Root" ∧
      types.name? types.root = some "Drawing" ∧
      (Declaration.blocks types {} "Root").length = 4 ∧
      ∃ ids : List TypeId, ids.Nodup ∧
        (∀ id, id ∈ ids ↔ types.Reached id ∧ (types.name? id).isSome) ∧
        List.Forall₂ (Declaration.IsDeclaration types {}) ids
          (Declaration.blocks types {} "Root") := by
  have hcompile : (compile drawing "Root" {} .none).toOption.any (fun _ => true) = true := by
    decide +kernel
  have hrun : (linkedGraph drawing {} .none).toOption.any (fun g =>
      g.derivableName? g.root "Root" = some "Drawing" &&
        (typesOf g "Root" {}).toOption.any fun types =>
          (Declaration.blocks types {} "Root").length = 4) = true := by decide +kernel
  obtain ⟨text, htext, -⟩ := exists_ok_of_any hcompile
  obtain ⟨g, types, hg, htypes, heq, -, hdeclared, -, -, hname, -⟩ :=
    compile_declares_once rfl htext
  obtain ⟨g', hg', hchecks⟩ := exists_ok_of_any hrun
  cases hg.symm.trans hg'
  obtain ⟨hderived, hblocks⟩ := Bool.and_eq_true_iff.1 hchecks
  obtain ⟨types', htypes', hlength⟩ := exists_ok_of_any hblocks
  cases htypes.symm.trans htypes'
  exact ⟨text, htext, types, heq, hname.trans (of_decide_eq_true hderived),
    of_decide_eq_true hlength, hdeclared⟩

end SchemaTypings
