import SchemaTypings.Proofs.SuperTypes

/-! # Cycles of inheritance

A class is never its own direct base, but its bases may extend it.  The types of a graph of schemas
have a cycle of bases exactly when schemas that inherit form one.  Where they form none, merging
makes none: a class that is reached through a reference has bases of the same names as the class
that the reference stands for, so that a cycle would go on among the bases before merging, for ever
down.
-/
namespace SchemaTypings
namespace TypeGraph

/-- A class has a base. -/
def HasBase (t : TypeGraph) (a b : TypeId) : Prop := b ∈ (t.kind a).bases

/-- **No class is among its own ancestors.** -/
def AcyclicBases (t : TypeGraph) : Prop := ∀ id, ¬ Relation.TransGen t.HasBase id id

/-- **A class extends another**: the other one is a base, or what has the name that a base refers
to. -/
def Extends (t : TypeGraph) (a b : TypeId) : Prop :=
  ∃ base ∈ (t.kind a).bases, base = b ∨
    ∃ target, t.kind base = .reference target ∧ t.Reached b ∧ t.name? b = some target

/-- Bases come after what has them. -/
def BasesFollow (t : TypeGraph) : Prop :=
  ∀ id, id < t.size → ∀ base ∈ (t.kind id).bases, id < base

instance (t : TypeGraph) : Decidable t.BasesFollow :=
  inferInstanceAs (Decidable (∀ id, id < t.size → _))

/-- Where bases come after what has them, there is no cycle. -/
theorem BasesFollow.acyclicBases {t : TypeGraph} (h : t.BasesFollow) : t.AcyclicBases := by
  intro id hcycle
  have hlt : ∀ {a b}, Relation.TransGen t.HasBase a b → a < b := by
    intro a b hab
    induction hab with
    | single hstep => exact h _ (lt_size_of_mem_children (mem_children_of_mem_bases hstep)) _ hstep
    | tail _ hstep ih =>
      exact ih.trans (h _ (lt_size_of_mem_children (mem_children_of_mem_bases hstep)) _ hstep)
  exact Nat.lt_irrefl id (hlt hcycle)

/-- A schema with a type inherits from a candidate. -/
def Descends (g : SchemaGraph) (o : Options) (a b : SchemaId) : Prop :=
  HasType g o a ∧ Inherits g a ∧ b ∈ baseCandidates (g.node a)

/-- Where each step of one relation is matched by a step of another, so is each path. -/
theorem exists_path_of_steps {α β : Type} {r : α → α → Prop} {s : β → β → Prop}
    {matched : α → β → Prop}
    (hstep : ∀ a b x, r a b → matched a x → ∃ y, matched b y ∧ s x y) {a b : α} {x : β}
    (h : Relation.TransGen r a b) (hx : matched a x) :
    ∃ y, matched b y ∧ Relation.TransGen s x y := by
  induction h with
  | single hab =>
    obtain ⟨y, hy, hxy⟩ := hstep _ _ x hab hx
    exact ⟨y, hy, .single hxy⟩
  | tail _ hbc ih =>
    obtain ⟨y, hy, hxy⟩ := ih
    obtain ⟨z, hz, hyz⟩ := hstep _ _ y hbc hy
    exact ⟨z, hz, hxy.tail hyz⟩

/-! ### The types of a graph of schemas -/

section Made

variable {g : SchemaGraph} {o : Options} (hadds : Adds g {} (made g o))

include hadds

/-- Schemas that inherit from each other give classes that extend each other. -/
theorem hasBase_of_descends (a b : SchemaId) (type : TypeId) (h : Descends g o a b)
    (htype : (made g o).Assigns a type) :
    ∃ base, (made g o).Assigns b base ∧ (ofSchema g o).HasBase type base := by
  have hall := (fulfils_of_assigns hadds htype).inherits h.2.1
  obtain ⟨base, hbase, hassigns⟩ := exists_left_of_forall₂ hall.flip b h.2.2
  exact ⟨base, hassigns, hbase⟩

/-- A base of the type of a schema is the type of a schema from which that one inherits. -/
theorem descends_of_hasBase (type base : TypeId) (a : SchemaId)
    (h : (ofSchema g o).HasBase type base) (htype : (made g o).Assigns a type) :
    ∃ b, (made g o).Assigns b base ∧ Descends g o a b := by
  have hkind := fulfils_of_assigns hadds htype
  have hinherits := hkind.bases (List.ne_nil_of_mem h)
  obtain ⟨b, hb, hassigns⟩ := exists_left_of_forall₂ (hkind.inherits hinherits) base h
  exact ⟨b, hassigns, Growth.has_iff.2 ⟨type, htype⟩, hinherits, hb⟩

/-- **When classes are among their own ancestors**: exactly when schemas inherit from each other in
a cycle. -/
theorem acyclicBases_iff :
    (ofSchema g o).AcyclicBases ↔ ∀ schema, ¬ Relation.TransGen (Descends g o) schema schema := by
  constructor
  · intro hacyclic schema hcycle
    obtain ⟨_, hfirst, -⟩ := Relation.TransGen.head'_iff.1 hcycle
    obtain ⟨type, htype⟩ := Growth.has_iff.1 hfirst.1
    obtain ⟨base, hbase, hpath⟩ :=
      exists_path_of_steps (hasBase_of_descends hadds) hcycle htype
    obtain rfl := htype.unique hbase
    exact hacyclic type hpath
  · intro hacyclic type hcycle
    -- a class on a cycle is a base itself, so that it is the type of a schema
    obtain ⟨last, -, hlast⟩ := Relation.TransGen.tail'_iff.1 hcycle
    obtain ⟨_, -, -, hall⟩ := (justifies_node hadds last).bases (List.ne_nil_of_mem hlast)
    obtain ⟨schema, -, hschema⟩ := exists_left_of_forall₂ hall type hlast
    obtain ⟨other, hother, hpath⟩ :=
      exists_path_of_steps (descends_of_hasBase hadds) hcycle hschema
    rcases hadds.distinct schema other type hschema hother with rfl | ⟨hnone, -⟩
    · exact hacyclic schema hpath
    · cases hnone

end Made

/-! ### Merging -/

section Merging

variable {g : TypeGraph} {o : Options}

variable (htells : g.TellsClasses) (hnamed : ∀ id, ∀ base ∈ (g.kind id).bases,
  (g.name? base).isSome) (hreference : ∀ id target, g.kind id ≠ .reference target)
  {rs : List Replacement} (hrs : repeats g [] (g.bearers o) = .ok rs)

include htells hnamed hreference hrs

/-- **What a class extends after merging** mirrors one of its bases. -/
theorem mirrors_of_extends {u : TypeGraph} (hu : u = (g.replacements o).foldl replace g)
    {a b : TypeId} (ha : u.Reached a) (hab : u.Extends a b)
    (hb : (u.kind b).isRecord = true) :
    u.Reached b ∧ ∃ base ∈ (g.kind a).bases, g.Reached base ∧ g.Mirrors base b := by
  subst hu
  obtain ⟨base, hbase, hstands⟩ := hab
  have hbefore : base ∈ (g.kind a).bases :=
    kind_foldl_replace_of_isRecord (TypeKind.isRecord_of_mem_bases hbase) ▸ hbase
  obtain ⟨name, hname⟩ := Option.isSome_iff_exists.1 (hnamed a base hbefore)
  have hlt := lt_size_of_name? hname
  have hreached : ((g.replacements o).foldl replace g).Reached base :=
    .part ha (mem_children_of_mem_bases hbase) (by rw [size_foldl_replace]; exact hlt)
  have hreached' : g.Reached base := ((reached_foldl_replace_iff ..).1 hreached).reached
  have hrecord : (g.kind b).isRecord = true := by
    rwa [kind_foldl_replace_of_isRecord hb] at hb
  rcases hstands with rfl | ⟨target, hkind, hother, hotherName⟩
  · exact ⟨hreached, base, hbefore, hreached', hrecord, hrecord, rfl⟩
  · have hreplaced : IsReplaced (g.replacements o) base := by
      by_contra hnot
      rw [kind_foldl_replace_of_not hnot] at hkind
      exact hreference base target hkind
    obtain ⟨r, hr, rfl⟩ := hreplaced
    obtain rfl : r.target = target := by
      rw [kind_of_mem_replacements hr hlt] at hkind
      exact TypeKind.reference.inj hkind
    exact ⟨hother, r.id, hbefore, hreached', mirrors_of_replaced htells hnamed hreference hrs hr
      hreached' hother hotherName (Or.inr hrecord)⟩

/-- **Merging makes no cycle**: what mirrors a class on a cycle has a base that mirrors the next. -/
theorem not_extends_itself {u : TypeGraph} (hu : u = (g.replacements o).foldl replace g)
    (hacyclic : g.AcyclicBases) {id : TypeId} (hid : u.Reached id) :
    ¬ Relation.TransGen u.Extends id id := by
  obtain ⟨rank, -, hlt⟩ := exists_rank g.size hacyclic
  have hnone : ∀ n z x, rank z = n → g.Reached z → g.Mirrors z x → u.Reached x →
      ¬ Relation.TransGen u.Extends x x := by
    intro n
    -- by the rank of what mirrors the class: its base is of lower rank
    induction n using Nat.strong_induction_on with
    | _ n ih =>
      intro z x hn hz hmirrors hx hcycle
      subst hn
      obtain ⟨next, hstep, hrest⟩ := Relation.TransGen.head'_iff.1 hcycle
      have hcycle' : Relation.TransGen u.Extends next next := .tail' hrest hstep
      obtain ⟨further, ⟨base, hbase, -⟩, -⟩ := Relation.TransGen.head'_iff.1 hcycle'
      obtain ⟨hnext, base, hbase, hreached, hmirrors'⟩ :=
        mirrors_of_extends htells hnamed hreference hrs hu hx hstep
          (TypeKind.isRecord_of_mem_bases hbase)
      -- the class and what mirrors it have bases of one name
      obtain ⟨other, hother, hname⟩ : ∃ other ∈ (g.kind z).bases, g.name? other = g.name? base :=
        List.mem_map.1 (hmirrors.2.2 ▸ List.mem_map_of_mem hbase)
      obtain ⟨name, hbaseName⟩ := Option.isSome_iff_exists.1 (hnamed x base hbase)
      rw [hbaseName] at hname
      have hsize := lt_size_of_name? hname
      have hotherReached : g.Reached other := .part hz (mem_children_of_mem_bases hother) hsize
      have hmirrorsBase := mirrors_of_name htells hnamed hrs hreached hotherReached hbaseName hname
        hmirrors'.1
      exact ih (rank other) (hlt z other hsize hother) other next rfl hotherReached
        (hmirrorsBase.symm.trans hmirrors') hnext hcycle'
  intro hcycle
  obtain ⟨next, ⟨base, hbase, -⟩, -⟩ := Relation.TransGen.head'_iff.1 hcycle
  have hrecord := TypeKind.isRecord_of_mem_bases hbase
  subst hu
  rw [kind_foldl_replace_of_isRecord hrecord] at hrecord
  have hreached : g.Reached id := ((reached_foldl_replace_iff ..).1 hid).reached
  exact hnone (rank id) id id rfl hreached ⟨hrecord, hrecord, rfl⟩ hid hcycle

end Merging

/-- **Where no class is among its own ancestors, optimizing makes none so.** -/
theorem WellFormed.not_extends_itself_optimize {t u : TypeGraph} {o : Options} (h : t.WellFormed)
    (htells : (t.simplify o).TellsClasses) (hacyclic : t.AcyclicBases) (hu : t.optimize o = .ok u)
    {id : TypeId} (hid : u.Reached id) : ¬ Relation.TransGen u.Extends id id := by
  obtain ⟨⟨rs, hrs⟩, hmerged⟩ := (optimize_eq_ok_iff t u o).1 hu
  refine not_extends_itself htells (fun id base hbase => ?_) (fun id target hkind => ?_) hrs hmerged
    (fun id hcycle => ?_) hid
  · rw [name?_simplify]
    exact h.isSome_name?_base (bases_simplify hbase)
  · exact h.noReference id target (kind_of_simplify_reference hkind)
  · have hle : (t.simplify o).HasBase ≤ t.HasBase := fun _ _ => bases_simplify
    exact hacyclic id (Relation.TransGen.mono hle id id hcycle)

end TypeGraph

/-- **When compiled classes extend themselves**: in the types of the schemas a class is among its
own ancestors exactly when schemas inherit from each other in a cycle.  Where they do not, no class
that is reached in the end extends itself, through references and any number of other classes,
unless a type text passes for the structure of a class. -/
theorem compile_inheritance_acyclic {schema : Json} {name : String} {o : Options}
    {source : DocumentSource} {text : String} (h : compile schema name o source = .ok text) :
    ∃ g types, linkedGraph schema o source = .ok g ∧ typesOf g name o = .ok types ∧
      text = Declaration.generate types o name ∧
      ((TypeGraph.ofSchema (g.normalize name o) o).AcyclicBases ↔
        ∀ id, ¬ Relation.TransGen (TypeGraph.Descends (g.normalize name o) o) id id) ∧
      ((TypeGraph.ofSchema (g.normalize name o) o).AcyclicBases →
        (g.normalize name o).GivesNoClassTexts o →
        ∀ id, types.Reached id → ¬ Relation.TransGen types.Extends id id) := by
  obtain ⟨-, g, hg, hviolations, types, htypes, rfl⟩ := compile_eq_ok_iff.1 h
  obtain ⟨hadds, hnames⟩ := adds_of_linkedGraph hg name
  have hwell := wellFormed_of_linkedGraph hg hviolations
  exact ⟨g, types, hg, htypes, rfl, TypeGraph.acyclicBases_iff hadds, fun hacyclic htexts _ hid =>
    hwell.not_extends_itself_optimize (TypeGraph.tellsClasses_simplify hadds hnames hwell htexts)
      hacyclic htypes hid⟩

/-- The dog of `friendlyDog` extends a class that is merged, and no class extends itself. -/
theorem compile_inheritance_acyclic_friendlyDog :
    (∃ text, compile friendlyDog "Root" {} .none = .ok text) ∧
      ∃ g types, linkedGraph friendlyDog {} .none = .ok g ∧ typesOf g "Root" {} = .ok types ∧
        (∃ id ∈ types.reachable, (types.kind id).bases ≠ []) ∧
        ∀ id, types.Reached id → ¬ Relation.TransGen types.Extends id id := by
  have hcompile : (compile friendlyDog "Root" {} .none).toOption.any (fun _ => true) = true := by
    decide +kernel
  obtain ⟨text, htext, -⟩ := exists_ok_of_any hcompile
  have hgraph : (linkedGraph friendlyDog {} .none).toOption.any (fun g =>
      decide ((TypeGraph.ofSchema (g.normalize "Root" {}) {}).BasesFollow) &&
        decide ((g.normalize "Root" {}).GivesNoClassTexts {}) &&
        (typesOf g "Root" {}).toOption.any fun types =>
          types.reachable.any fun id => decide ((types.kind id).bases ≠ [])) = true := by
    decide +kernel
  obtain ⟨g, hg, hchecks⟩ := exists_ok_of_any hgraph
  obtain ⟨hchecks, hrun⟩ := Bool.and_eq_true_iff.1 hchecks
  obtain ⟨hfollow, htexts⟩ := Bool.and_eq_true_iff.1 hchecks
  obtain ⟨types, htypes, hbases⟩ := exists_ok_of_any hrun
  obtain ⟨g', types', hg', htypes', -, -, hacyclic⟩ := compile_inheritance_acyclic htext
  obtain rfl : g' = g := Except.ok.inj (hg'.symm.trans hg)
  obtain rfl : types' = types := Except.ok.inj (htypes'.symm.trans htypes)
  obtain ⟨id, hid, hne⟩ := List.any_eq_true.1 hbases
  exact ⟨⟨text, htext⟩, g', types', hg, htypes, ⟨id, hid, of_decide_eq_true hne⟩,
    hacyclic (of_decide_eq_true hfollow).acyclicBases (of_decide_eq_true htexts)⟩

/-- Two classes that extend each other by `allOf`. -/
def mutualHeirs : Json :=
  let heir (target member : String) : Json := .object [
    ("allOf", .array [.object [("$ref", .string ("#/definitions/" ++ target))]]),
    ("properties", .object [(member, .object [("type", .string "string")])])]
  .object [("properties", .object [("a", .object [("$ref", .string "#/definitions/A")])]),
    ("definitions", .object [("A", heir "B" "x"), ("B", heir "A" "y")])]

/-- **Classes that extend each other**: only a class that would be its own direct base is kept from
being one. -/
theorem compile_mutualHeirs_extend_themselves :
    compile mutualHeirs "Root" {} .none = .ok ("export class Root \x7b\n  a?: A;\n\x7d\n\n" ++
        "export class A extends B \x7b\n  x?: string;\n\x7d\n\n" ++
        "export class B extends A \x7b\n  y?: string;\n\x7d\n") ∧
      ∃ g types, linkedGraph mutualHeirs {} .none = .ok g ∧ typesOf g "Root" {} = .ok types ∧
        ∃ id, types.Reached id ∧ Relation.TransGen types.Extends id id := by
  have hcompile : (compile mutualHeirs "Root" {} .none).toOption.any (fun text => text =
      "export class Root \x7b\n  a?: A;\n\x7d\n\n" ++
        "export class A extends B \x7b\n  x?: string;\n\x7d\n\n" ++
        "export class B extends A \x7b\n  y?: string;\n\x7d\n") = true := by decide +kernel
  have hrun : (linkedGraph mutualHeirs {} .none).toOption.any (fun g =>
      (typesOf g "Root" {}).toOption.any fun types => types.reachable.any fun id =>
        (types.kind id).bases.any fun base => decide (id ∈ (types.kind base).bases)) = true := by
    decide +kernel
  obtain ⟨text, htext, heq⟩ := exists_ok_of_any hcompile
  obtain ⟨g, hg, hrun⟩ := exists_ok_of_any hrun
  obtain ⟨types, htypes, hcycle⟩ := exists_ok_of_any hrun
  obtain ⟨id, hid, hcycle⟩ := List.any_eq_true.1 hcycle
  obtain ⟨base, hbase, hback⟩ := List.any_eq_true.1 hcycle
  refine ⟨of_decide_eq_true heq ▸ htext, g, types, hg, htypes, id,
    (TypeGraph.mem_reachable_iff _ _).1 hid, ?_⟩
  exact .tail (.single ⟨base, hbase, Or.inl rfl⟩) ⟨id, of_decide_eq_true hback, Or.inl rfl⟩

end SchemaTypings
