import SchemaTypings.Proofs.ClassTexts
import SchemaTypings.Proofs.ClosedOutput
import SchemaTypings.Proofs.Identifiers
import SchemaTypings.Proofs.SchemaTypes

/-! # Whether bases are classes

A candidate for a base is chosen by the form of its schema, while the kind of its type is decided by
all that the schema says.  The two agree exactly when every candidate of a schema that gets bases
becomes a class.  Merging keeps it so: a class that is replaced by a reference refers to a class
whose bases have the same names.
-/
namespace SchemaTypings
namespace TypeGraph

/-- **Bases are classes.** -/
def BasesAreClasses (t : TypeGraph) : Prop :=
  ∀ id, ∀ base ∈ (t.kind id).bases, (t.kind base).isRecord = true

instance (t : TypeGraph) : Decidable t.BasesAreClasses :=
  decidable_of_iff (∀ id, id < t.size → ∀ base ∈ (t.kind id).bases, (t.kind base).isRecord = true)
    ⟨fun h id base hbase => h id (lt_size_of_mem_children (mem_children_of_mem_bases hbase)) base
      hbase, fun h id _ => h id⟩

/-- **Bases stand for classes**: each base of a class that is reached is a class, or a reference to
the name of one. -/
def BasesNameClasses (t : TypeGraph) : Prop :=
  ∀ id, t.Reached id → ∀ base ∈ (t.kind id).bases, (t.kind base).isRecord = true ∨
    ∃ target other, t.kind base = .reference target ∧ t.Reached other ∧
      t.name? other = some target ∧ (t.kind other).isRecord = true

/-- **Only classes are extended**: what has the name that a base is written as, is a class. -/
def ExtendsClasses (t : TypeGraph) (o : Options) : Prop :=
  ∀ id, t.Reached id → ∀ base ∈ (t.kind id).bases, ∀ other, t.Reached other →
    t.name? other = some ((t.render o base).run []).1 → (t.kind other).isRecord = true

instance (t : TypeGraph) (o : Options) : Decidable (t.ExtendsClasses o) :=
  decidable_of_iff (∀ id ∈ t.reachable, ∀ base ∈ (t.kind id).bases, ∀ other ∈ t.reachable,
    t.name? other = some ((t.render o base).run []).1 → (t.kind other).isRecord = true) (by
      simp only [mem_reachable_iff]
      rfl)

/-! ### The types of a graph of schemas -/

section Made

variable {g : SchemaGraph} {o : Options} (hadds : Adds g {} (made g o))

include hadds

/-- The type of a schema is of the kind that the schema asks for. -/
theorem fulfils_of_assigns {schema : SchemaId} {type : TypeId}
    (h : (made g o).Assigns schema type) :
    Fulfils g (made g o) schema ((ofSchema g o).kind type) := by
  rcases hadds.fulfilled schema type h with hnone | ⟨-, node, hnode, hkind⟩
  · cases hnone
  · have hat : (ofSchema g o).node type = node := by
      rw [TypeGraph.node, show (ofSchema g o).nodes = (made g o).nodes from rfl, hnode,
        Option.getD_some]
    rw [TypeGraph.kind, hat]
    exact hkind

/-- Every type takes its name, its bases and its text from schemas. -/
theorem justifies_node (id : TypeId) : (made g o).Justifies g ((ofSchema g o).node id) := by
  rw [TypeGraph.node, show (ofSchema g o).nodes = (made g o).nodes from rfl]
  cases hnode : (made g o).nodes[id]? with
  | none => exact justifies_of_isPlain rfl
  | some node =>
    rcases hadds.justified id node hnode with hnone | hjustified
    · cases hnone
    · exact hjustified

/-- **When bases are classes**: every candidate of a schema that gets bases becomes a class. -/
theorem basesAreClasses_iff : (ofSchema g o).BasesAreClasses ↔
    ∀ schema, HasType g o schema → GetsBases g schema →
      ∀ base ∈ baseCandidates (g.node schema), BecomesClass g base := by
  constructor
  · intro hclasses schema hschema hgets candidate hcandidate
    obtain ⟨type, htype⟩ := Growth.has_iff.1 hschema
    have hkind := fulfils_of_assigns hadds htype
    -- some type has the candidates for bases, be it the schema's or a part of it
    have hbases : ∃ id, (made g o).AssignsAll (baseCandidates (g.node schema))
        ((ofSchema g o).kind id).bases := by
      by_cases hwhole : (g.node schema).anyOf = [] ∧ (g.node schema).oneOf = []
      · exact ⟨type, hkind.inherits ⟨hgets, hwhole⟩⟩
      · rw [not_and_or] at hwhole
        obtain ⟨id, node, hnode, hall⟩ :=
          hkind.split ⟨hgets.1, hgets.2.1, hgets.2.2, hwhole⟩
        refine ⟨id, ?_⟩
        rw [TypeGraph.kind, TypeGraph.node, show (ofSchema g o).nodes = (made g o).nodes from rfl,
          hnode]
        exact hall
    obtain ⟨id, hall⟩ := hbases
    obtain ⟨base, hbase, hassigns⟩ := exists_left_of_forall₂ hall.flip candidate hcandidate
    exact (fulfils_of_assigns hadds hassigns).isRecord.1 (hclasses id base hbase)
  · intro hcandidates id base hbase
    have hne : ((ofSchema g o).node id).kind.bases ≠ [] := List.ne_nil_of_mem hbase
    obtain ⟨schema, hgets, hhas, hall⟩ := (justifies_node hadds id).bases hne
    obtain ⟨candidate, hcandidate, hassigns⟩ := exists_left_of_forall₂ hall base hbase
    exact (fulfils_of_assigns hadds hassigns).isRecord.2
      (hcandidates schema hhas hgets candidate hcandidate)

/-- The structures of classes are told apart, where no schema gives a text that begins as one. -/
theorem tellsClasses_simplify (hnames : g.NamesAreIdentifiers)
    (hwell : (ofSchema g o).WellFormed)
    (htexts : ∀ schema, HasType g o schema → ∀ text,
      (g.node schema).customType? = some text → ¬ BeginsAsClass text) :
    ((ofSchema g o).simplify o).TellsClasses where
  names := by
    intro id name hname
    rw [name?_simplify] at hname
    obtain ⟨schema, hschema⟩ := (justifies_node hadds id).name name hname
    exact hnames schema name hschema
  targets := fun id target hkind =>
    absurd (kind_of_simplify_reference hkind) (hwell.noReference id target)
  customs := by
    intro id text hkind
    have hsame : (ofSchema g o).kind id = .custom text := by
      rcases kind_simplify (ofSchema g o) o id with hsame | ⟨-, hsimple⟩
      · rw [← hsame, hkind]
      · rw [hkind] at hsimple
        cases hsimple
    rcases (justifies_node hadds id).custom text hsame with rfl | ⟨schema, hhas, hcustom⟩
    · decide
    · exact htexts schema hhas text hcustom

end Made

/-! ### Merging -/

section Merging

variable {g : TypeGraph} {o : Options}

/-- What is a class after merging was not replaced. -/
theorem not_isReplaced_of_isRecord {rs : List Replacement} {id : TypeId}
    (h : ((rs.foldl replace g).kind id).isRecord = true) : ¬ IsReplaced rs id := by
  intro hreplaced
  have hid : id < g.size := by
    rw [← size_foldl_replace g rs]
    exact lt_size_of_kind_ne fun hkind => by simp [hkind, TypeKind.isRecord] at h
  obtain ⟨r, -, -, hkind⟩ := kind_foldl_replace_of_replaced hid hreplaced
  rw [hkind] at h
  cases h

/-- What is a class after merging was the same class before. -/
theorem kind_foldl_replace_of_isRecord {rs : List Replacement} {id : TypeId}
    (h : ((rs.foldl replace g).kind id).isRecord = true) :
    (rs.foldl replace g).kind id = g.kind id :=
  kind_foldl_replace_of_not (not_isReplaced_of_isRecord h)

variable (htells : g.TellsClasses) (hnamed : ∀ id, ∀ base ∈ (g.kind id).bases,
  (g.name? base).isSome) (hreference : ∀ id target, g.kind id ≠ .reference target)
  {rs : List Replacement} (hrs : repeats g [] (g.bearers o) = .ok rs)

include hnamed in
theorem basesNamed_of_isSome : g.BasesNamed := fun id base hbase => Or.inl (hnamed id base hbase)

include hrs in
/-- A type that is replaced while names are merged becomes a reference to its name. -/
theorem kind_of_isReplaced_names {id : TypeId} (h : IsReplaced rs id) (hid : id < g.size) :
    ∃ name, g.name? id = some name ∧ (rs.foldl replace g).kind id = .reference name := by
  obtain ⟨r, hr, rfl, hkind⟩ := kind_foldl_replace_of_replaced hid h
  obtain ⟨b, hb, rfl, -⟩ := (mem_of_repeats_eq_ok (nodup_bearers g o) hrs r).1 hr
  exact ⟨b.name, (reached_of_mem_bearers hb).2, hkind⟩

include hrs in
/-- Merging names changes no name under which a base is written. -/
theorem baseName_mergeNames {base : TypeId} (hbase : (g.name? base).isSome) :
    (rs.foldl replace g).baseName base = g.baseName base := by
  obtain ⟨name, hname⟩ := Option.isSome_iff_exists.1 hbase
  have hbefore : g.baseName base = name := by
    unfold baseName
    rw [hname]
  rw [hbefore]
  unfold baseName
  by_cases hreplaced : IsReplaced rs base
  · obtain ⟨other, hother, hkind⟩ :=
      kind_of_isReplaced_names hrs hreplaced (lt_size_of_name? hname)
    rw [name?_foldl_replace_of_replaced hreplaced, hkind]
    exact Option.some.inj (hother.symm.trans hname)
  · rw [name?_foldl_replace_of_not hreplaced, hname]

include htells hrs hreference in
theorem tellsClasses_mergeNames : (rs.foldl replace g).TellsClasses where
  names := by
    intro id name hname
    exact htells.names id name (name?_foldl_replace_eq_some.1 hname).2
  targets := by
    intro id target hkind
    by_cases hreplaced : IsReplaced rs id
    · have hid : id < g.size :=
        size_foldl_replace g rs ▸ lt_size_of_kind_ne fun hany => by simp [hany] at hkind
      obtain ⟨name, hname, hname'⟩ := kind_of_isReplaced_names hrs hreplaced hid
      rw [hname'] at hkind
      cases hkind
      exact htells.names id _ hname
    · rw [kind_foldl_replace_of_not hreplaced] at hkind
      exact absurd hkind (hreference id target)
  customs := by
    intro id text hkind
    by_cases hreplaced : IsReplaced rs id
    · have hid : id < g.size :=
        size_foldl_replace g rs ▸ lt_size_of_kind_ne fun hany => by simp [hany] at hkind
      obtain ⟨name, -, hname⟩ := kind_of_isReplaced_names hrs hreplaced hid
      rw [hname] at hkind
      cases hkind
    · rw [kind_foldl_replace_of_not hreplaced] at hkind
      exact htells.customs id text hkind

include hnamed hrs in
theorem basesNamed_mergeNames : (rs.foldl replace g).BasesNamed := by
  intro id base hbase
  rw [kind_foldl_replace_of_isRecord (TypeKind.isRecord_of_mem_bases hbase)] at hbase
  obtain ⟨name, hname⟩ := Option.isSome_iff_exists.1 (hnamed id base hbase)
  by_cases hreplaced : IsReplaced rs base
  · obtain ⟨target, -, hkind⟩ := kind_of_isReplaced_names hrs hreplaced (lt_size_of_name? hname)
    exact Or.inr ⟨target, hkind⟩
  · rw [name?_foldl_replace_of_not hreplaced, hname]
    exact Or.inl rfl

/-- **Classes that mirror each other**: both are classes, and their bases have the same names. -/
def Mirrors (g : TypeGraph) (a b : TypeId) : Prop :=
  (g.kind a).isRecord = true ∧ (g.kind b).isRecord = true ∧
    (g.kind a).bases.map g.name? = (g.kind b).bases.map g.name?

theorem Mirrors.symm {a b : TypeId} (h : g.Mirrors a b) : g.Mirrors b a :=
  ⟨h.2.1, h.1, h.2.2.symm⟩

theorem Mirrors.trans {a b c : TypeId} (hab : g.Mirrors a b) (hbc : g.Mirrors b c) :
    g.Mirrors a c :=
  ⟨hab.1, hbc.2.1, hab.2.2.trans hbc.2.2⟩

include hnamed in
/-- Bases of the same names are written alike. -/
theorem mirrors_of_map_baseName {a b : TypeId} (ha : (g.kind a).isRecord = true)
    (hb : (g.kind b).isRecord = true)
    (h : (g.kind a).bases.map g.baseName = (g.kind b).bases.map g.baseName) : g.Mirrors a b := by
  have hname : ∀ id, (g.kind id).bases.map g.name? =
      ((g.kind id).bases.map g.baseName).map some := by
    intro id
    rw [List.map_map]
    refine List.map_congr_left fun base hbase => ?_
    obtain ⟨name, hname⟩ := Option.isSome_iff_exists.1 (hnamed id base hbase)
    simp [baseName, hname]
  exact ⟨ha, hb, by rw [hname, hname, h]⟩

include htells hnamed hrs in
/-- **Types that share a name** mirror each other when one of them is a class. -/
theorem mirrors_of_name {a b : TypeId} {name : String} (ha : g.Reached a) (hb : g.Reached b)
    (hnamea : g.name? a = some name) (hnameb : g.name? b = some name)
    (hrecord : (g.kind a).isRecord = true) : g.Mirrors a b := by
  have hbases := basesNamed_of_isSome hnamed
  obtain ⟨c, hc, rfl, hcname⟩ := exists_bearer o ha hnamea
  obtain ⟨d, hd, rfl, hdname⟩ := exists_bearer o hb hnameb
  have hshape : c.shape = d.shape := by
    by_contra hne
    exact (not_conflicts_of_repeats_eq_ok hrs).2 c hc d hd ⟨hcname.trans hdname.symm, hne⟩
  have htellsc := htells.tells_of_mem_bearersOf hbases hc
  have htellsd := hshape ▸ htells.tells_of_mem_bearersOf hbases hd
  exact mirrors_of_map_baseName hnamed hrecord (htellsc.isRecord_eq htellsd ▸ hrecord)
    (htells.map_baseName_eq hbases htellsc htellsd hrecord)

include hrs in
/-- What still has a name after merging names is the only type of its name. -/
theorem eq_of_name?_mergeNames {a b : TypeId} {name : String} (ha : (rs.foldl replace g).Reached a)
    (hb : (rs.foldl replace g).Reached b) (hnamea : (rs.foldl replace g).name? a = some name)
    (hnameb : (rs.foldl replace g).name? b = some name) : a = b := by
  have hfirst : ∀ {id}, (rs.foldl replace g).Reached id →
      (rs.foldl replace g).name? id = some name → g.firstBearer? name = some id := by
    intro id hid hname
    obtain ⟨hkept, hname⟩ := name?_foldl_replace_eq_some.1 hname
    rw [reached_foldl_replace_iff] at hid
    exact firstBearer?_eq_some hrs hid.reached hname hkept
  exact Option.some.inj ((hfirst ha hnamea).symm.trans (hfirst hb hnameb))

include htells hnamed hreference hrs in
/-- **What a replaced class refers to** mirrors it. -/
theorem mirrors_of_replaced {r : Replacement} (hr : r ∈ g.replacements o)
    (hreached : g.Reached r.id) {other : TypeId}
    (hother : ((g.replacements o).foldl replace g).Reached other)
    (hname : ((g.replacements o).foldl replace g).name? other = some r.target)
    (hrecord : (g.kind r.id).isRecord = true ∨ (g.kind other).isRecord = true) :
    g.Mirrors r.id other := by
  have hnames : g.nameReplacements o = rs := by rw [nameReplacements, hrs]
  unfold replacements at hr hother hname
  rw [hnames] at hr hother hname
  rw [List.foldl_append] at hother hname
  let merged := rs.foldl replace g
  have hkept : ∀ {id name}, merged.name? id = some name →
      ¬ IsReplaced rs id ∧ g.name? id = some name := name?_foldl_replace_eq_some.1
  -- the type that has the name had it before classes are merged
  have hbefore : merged.Reached other ∧ merged.name? other = some r.target := by
    rw [reached_foldl_replace_iff] at hother
    exact ⟨hother.reached, (name?_foldl_replace_eq_some.1 hname).2⟩
  have hreachedOther : g.Reached other := by
    have h := hbefore.1
    rw [reached_foldl_replace_iff] at h
    exact h.reached
  rcases List.mem_append.1 hr with hr | hr
  · obtain ⟨b, hb, rfl, -⟩ := (mem_of_repeats_eq_ok (nodup_bearers g o) hrs r).1 hr
    have hname := (reached_of_mem_bearers hb).2
    have hname' := (hkept hbefore.2).2
    rcases hrecord with hrecord | hrecord
    · exact mirrors_of_name htells hnamed hrs hreached hreachedOther hname hname' hrecord
    · exact (mirrors_of_name htells hnamed hrs hreachedOther hreached hname' hname hrecord).symm
  · obtain ⟨-, b, hb, a, ha, -, hshape, -, rfl⟩ := exists_of_mem_classReplacements hr
    have hmem := List.mem_filter.1 (mem_bearersOf ha).1
    have hmemb := List.mem_filter.1 (mem_bearersOf hb).1
    obtain rfl := eq_of_name?_mergeNames hrs ((mem_reachable_iff _ _).1 hmem.1) hbefore.1
      (mem_bearersOf ha).2 hbefore.2
    have htellsMerged := tellsClasses_mergeNames htells hreference hrs
    have hbasesMerged := basesNamed_mergeNames hnamed hrs
    have hta := htellsMerged.tells_of_mem_bearersOf hbasesMerged ha
    have htb := htellsMerged.tells_of_mem_bearersOf hbasesMerged hb
    -- what is compared was not replaced, and its bases keep the names they are written as
    have hsame : ∀ {c : Bearer}, merged.name? c.id = some c.name →
        merged.kind c.id = g.kind c.id ∧ (g.kind c.id).bases.map merged.baseName =
          (g.kind c.id).bases.map g.baseName := fun hc =>
      ⟨kind_foldl_replace_of_not (hkept hc).1, List.map_congr_left fun base hbase =>
        baseName_mergeNames hrs (hnamed _ base hbase)⟩
    obtain ⟨hkinda, hbasesa⟩ := hsame (mem_bearersOf ha).2
    obtain ⟨hkindb, hbasesb⟩ := hsame (mem_bearersOf hb).2
    have hmap := htellsMerged.map_baseName_eq hbasesMerged htb (hshape ▸ hta) hmemb.2
    rw [hkinda, hkindb, hbasesa, hbasesb] at hmap
    exact mirrors_of_map_baseName hnamed (hkindb ▸ hmemb.2) (hkinda ▸ hmem.2) hmap

include htells hnamed hreference hrs in
/-- **Where bases are classes**, each base of a class that is reached after merging is a class that
stays, or a reference; and whatever has the name that the base is written as, is a class. -/
theorem name_of_base {u : TypeGraph} (hu : u = (g.replacements o).foldl replace g)
    (hclasses : g.BasesAreClasses) {id base : TypeId} (hid : u.Reached id)
    (hbase : base ∈ (u.kind id).bases) : u.Reached base ∧ ∃ name,
      ((u.name? base = some name ∧ (u.kind base).isRecord = true) ∨
        (u.name? base = none ∧ u.kind base = .reference name)) ∧
      ∀ other, u.Reached other → u.name? other = some name → (u.kind other).isRecord = true := by
  subst hu
  have hbefore : base ∈ (g.kind id).bases :=
    kind_foldl_replace_of_isRecord (TypeKind.isRecord_of_mem_bases hbase) ▸ hbase
  have hrecord := hclasses id base hbefore
  obtain ⟨name, hname⟩ := Option.isSome_iff_exists.1 (hnamed id base hbefore)
  have hlt := lt_size_of_name? hname
  have hreached : ((g.replacements o).foldl replace g).Reached base :=
    .part hid (mem_children_of_mem_bases hbase) (by rw [size_foldl_replace]; exact hlt)
  have hreached' : g.Reached base := ((reached_foldl_replace_iff ..).1 hreached).reached
  -- what still has a name was not replaced
  have hstays : ∀ {other name}, ((g.replacements o).foldl replace g).Reached other →
      ((g.replacements o).foldl replace g).name? other = some name →
      g.Reached other ∧ g.name? other = some name ∧
        ((g.replacements o).foldl replace g).kind other = g.kind other := by
    intro other name hother hotherName
    obtain ⟨hnot, hbefore⟩ := name?_foldl_replace_eq_some.1 hotherName
    exact ⟨((reached_foldl_replace_iff ..).1 hother).reached, hbefore,
      kind_foldl_replace_of_not hnot⟩
  refine ⟨hreached, ?_⟩
  by_cases hreplaced : IsReplaced (g.replacements o) base
  · obtain ⟨r, hr, rfl⟩ := hreplaced
    refine ⟨r.target, Or.inr ⟨name?_foldl_replace_of_replaced ⟨r, hr, rfl⟩,
      kind_of_mem_replacements hr hlt⟩, fun other hother hotherName => ?_⟩
    rw [(hstays hother hotherName).2.2]
    exact (mirrors_of_replaced htells hnamed hreference hrs hr hreached' hother hotherName
      (Or.inl hrecord)).2.1
  · refine ⟨name, Or.inl ⟨(name?_foldl_replace_of_not hreplaced).trans hname, ?_⟩,
      fun other hother hotherName => ?_⟩
    · rw [kind_foldl_replace_of_not hreplaced]
      exact hrecord
    · obtain ⟨hotherReached, hotherName', hkind⟩ := hstays hother hotherName
      rw [hkind]
      exact (mirrors_of_name htells hnamed hrs hreached' hotherReached hname hotherName'
        hrecord).2.1

end Merging

/-- Simplification leaves classes alone. -/
theorem isRecord_simplify {t : TypeGraph} (o : Options) {id : TypeId}
    (h : (t.kind id).isRecord = true) : ((t.simplify o).kind id).isRecord = true := by
  rcases kind_simplify t o id with hsame | ⟨hoperands, -⟩
  · rw [hsame, h]
  · cases hkind : t.kind id with
    | record members bases =>
      rw [hkind] at hoperands
      cases hoperands
    | _ =>
      rw [hkind] at h
      cases h

theorem bases_simplify {t : TypeGraph} {o : Options} {id base : TypeId}
    (h : base ∈ ((t.simplify o).kind id).bases) : base ∈ (t.kind id).bases := by
  cases hkind : (t.simplify o).kind id with
  | record members bases =>
    rw [kind_of_simplify_record hkind]
    rw [hkind] at h
    exact h
  | _ =>
    rw [hkind] at h
    cases h

/-- The bases of all classes have names. -/
theorem WellFormed.isSome_name?_base {t : TypeGraph} (h : t.WellFormed) {id base : TypeId}
    (hbase : base ∈ (t.kind id).bases) : (t.name? base).isSome := by
  cases hkind : t.kind id with
  | record members bases =>
    rw [hkind] at hbase
    exact h.bases id members bases hkind base hbase
  | _ =>
    rw [hkind] at hbase
    cases hbase

/-- **Where bases are classes, optimizing keeps it so**: no class extends a name that something else
has, and where no reference is open each base stands for a class. -/
theorem WellFormed.basesNameClasses_optimize {t u : TypeGraph} {o : Options} (h : t.WellFormed)
    (htells : (t.simplify o).TellsClasses) (hclasses : t.BasesAreClasses)
    (hu : t.optimize o = .ok u) :
    u.ExtendsClasses o ∧ (u.hasOpenReference = false → u.BasesNameClasses) := by
  obtain ⟨⟨rs, hrs⟩, hmerged⟩ := (optimize_eq_ok_iff t u o).1 hu
  have hbase : ∀ {id base}, u.Reached id → base ∈ (u.kind id).bases → u.Reached base ∧ ∃ name,
      ((u.name? base = some name ∧ (u.kind base).isRecord = true) ∨
        (u.name? base = none ∧ u.kind base = .reference name)) ∧
      ∀ other, u.Reached other → u.name? other = some name → (u.kind other).isRecord = true := by
    refine fun hid hbase => name_of_base htells (fun id base hbase => ?_) ?_ hrs hmerged
      (fun id base hbase => ?_) hid hbase
    · rw [name?_simplify]
      exact h.isSome_name?_base (bases_simplify hbase)
    · exact fun id target hkind => h.noReference id target (kind_of_simplify_reference hkind)
    · exact isRecord_simplify o (hclasses id base (bases_simplify hbase))
  refine ⟨fun id hid base hmem other hother hname => ?_, fun hopen id hid base hmem => ?_⟩
  · obtain ⟨hreached, name, hwritten, hrecords⟩ := hbase hid hmem
    rcases hwritten with ⟨hnamed, -⟩ | ⟨hunnamed, hkind⟩
    · rw [render_of_name hnamed] at hname
      exact hrecords other hother hname
    · rw [render_of_reference hreached.lt_size hunnamed hkind] at hname
      exact hrecords other hother hname
  · obtain ⟨hreached, name, ⟨-, hrecord⟩ | ⟨-, hkind⟩, hrecords⟩ := hbase hid hmem
    · exact Or.inl hrecord
    · obtain ⟨other, hother, hname⟩ := declares_of_hasOpenReference hopen hreached hkind
      exact Or.inr ⟨name, other, hkind, hother, hname, hrecords other hother hname⟩

end TypeGraph

/-- What is known of the graph from which the types of a compilation are made. -/
theorem adds_of_linkedGraph {schema : Json} {o : Options} {source : DocumentSource}
    {g : SchemaGraph} (hg : linkedGraph schema o source = .ok g) (name : String) :
    TypeGraph.Adds (g.normalize name o) {} (TypeGraph.made (g.normalize name o) o) ∧
      (g.normalize name o).NamesAreIdentifiers := by
  obtain ⟨b, hb⟩ := SchemaGraph.exists_bundle hg
  obtain ⟨-, hunnamed, -⟩ := SchemaGraph.settled_of_ofBundle hb
  obtain ⟨hroot, hrange⟩ := SchemaGraph.inRange_normalize name hb
  exact ⟨(TypeGraph.adds_made o hroot hrange).1, SchemaGraph.namesAreIdentifiers_assignNames
    (SchemaGraph.standaloneName_normalizeNodes hunnamed o) name⟩

/-- No text that a schema gives for its type begins as the structure of a class. -/
def SchemaGraph.GivesNoClassTexts (g : SchemaGraph) (o : Options) : Prop :=
  ∀ schema, TypeGraph.HasType g o schema → ∀ text,
    (g.node schema).customType? = some text → ¬ BeginsAsClass text

instance (g : SchemaGraph) (o : Options) : Decidable (g.GivesNoClassTexts o) :=
  decidable_of_iff (∀ schema, schema < g.size → TypeGraph.HasType g o schema →
    ∀ text ∈ (g.node schema).customType?, ¬ BeginsAsClass text) (by
      refine ⟨fun h schema hhas text htext => ?_, fun h schema _ => h schema⟩
      refine h schema (Nat.not_le.1 fun hle => ?_) hhas text htext
      rw [SchemaGraph.node, Array.getElem?_eq_none hle] at htext
      cases htext)

/-- **When the bases of compiled classes are classes**: exactly when every candidate of a schema
that gets bases becomes a class.  Then nothing but classes is extended, unless a type text passes
for the structure of a class; and each base stands for a class, unless a reference asks for a name
that went with what was merged. -/
theorem compile_bases_are_classes {schema : Json} {name : String} {o : Options}
    {source : DocumentSource} {text : String} (h : compile schema name o source = .ok text) :
    ∃ g types, linkedGraph schema o source = .ok g ∧ typesOf g name o = .ok types ∧
      text = Declaration.generate types o name ∧
      ((TypeGraph.ofSchema (g.normalize name o) o).BasesAreClasses ↔
        ∀ id, TypeGraph.HasType (g.normalize name o) o id →
          TypeGraph.GetsBases (g.normalize name o) id →
          ∀ base ∈ TypeGraph.baseCandidates ((g.normalize name o).node id),
            TypeGraph.BecomesClass (g.normalize name o) base) ∧
      ((TypeGraph.ofSchema (g.normalize name o) o).BasesAreClasses →
        (g.normalize name o).GivesNoClassTexts o → types.ExtendsClasses o ∧
          (types.hasOpenReference = false → types.BasesNameClasses)) := by
  obtain ⟨-, g, hg, hviolations, types, htypes, rfl⟩ := compile_eq_ok_iff.1 h
  obtain ⟨hadds, hnames⟩ := adds_of_linkedGraph hg name
  have hwell := wellFormed_of_linkedGraph hg hviolations
  exact ⟨g, types, hg, htypes, rfl, TypeGraph.basesAreClasses_iff hadds, fun hclasses htexts =>
    hwell.basesNameClasses_optimize (TypeGraph.tellsClasses_simplify hadds hnames hwell htexts)
      hclasses htypes⟩

/-- A dog has a friend whose class repeats the class that dogs extend. -/
def friendlyDog : Json :=
  let animal : Json := .object [("age", .object [("type", .string "number")])]
  .object [("title", .string "Dog"),
    ("allOf", .array [.object [("$ref", .string "#/definitions/Animal")]]),
    ("properties", .object [
      ("friend", .object [("title", .string "Animal"), ("properties", animal)])]),
    ("definitions", .object [("Animal", .object [("properties", animal)])])]

/-- The class that dogs extend is merged with the class of the friend, and is still a class. -/
theorem compile_bases_are_classes_friendlyDog :
    (∃ text, compile friendlyDog "Root" {} .none = .ok text) ∧
      ∃ g types, linkedGraph friendlyDog {} .none = .ok g ∧ typesOf g "Root" {} = .ok types ∧
        types.BasesNameClasses ∧ types.ExtendsClasses {} ∧
        ∃ id ∈ types.reachable, ∃ base ∈ (types.kind id).bases,
          (types.kind base).isRecord = false := by
  have hcompile : (compile friendlyDog "Root" {} .none).toOption.any (fun _ => true) = true := by
    decide +kernel
  obtain ⟨text, htext, -⟩ := exists_ok_of_any hcompile
  have hgraph : (linkedGraph friendlyDog {} .none).toOption.any (fun g =>
      decide ((TypeGraph.ofSchema (g.normalize "Root" {}) {}).BasesAreClasses) &&
        decide ((g.normalize "Root" {}).GivesNoClassTexts {}) &&
        (typesOf g "Root" {}).toOption.any fun types => !types.hasOpenReference &&
          types.reachable.any fun id => (types.kind id).bases.any fun base =>
            !(types.kind base).isRecord) = true := by decide +kernel
  obtain ⟨g, hg, hchecks⟩ := exists_ok_of_any hgraph
  obtain ⟨hchecks, hrun⟩ := Bool.and_eq_true_iff.1 hchecks
  obtain ⟨hclasses, htexts⟩ := Bool.and_eq_true_iff.1 hchecks
  obtain ⟨types, htypes, hrun⟩ := exists_ok_of_any hrun
  obtain ⟨hopen, hreference⟩ := Bool.and_eq_true_iff.1 hrun
  obtain ⟨g', types', hg', htypes', -, -, hnames⟩ := compile_bases_are_classes htext
  obtain rfl : g' = g := Except.ok.inj (hg'.symm.trans hg)
  obtain rfl : types' = types := Except.ok.inj (htypes'.symm.trans htypes)
  obtain ⟨hextends, hbases⟩ := hnames (of_decide_eq_true hclasses) (of_decide_eq_true htexts)
  refine ⟨⟨text, htext⟩, g', types', hg, htypes, hbases (by simpa using hopen), hextends, ?_⟩
  obtain ⟨id, hid, hbase⟩ := List.any_eq_true.1 hreference
  obtain ⟨base, hbase, hkind⟩ := List.any_eq_true.1 hbase
  exact ⟨id, hid, base, hbase, by simpa using hkind⟩

/-- A class that extends what may also be `null`. -/
def nullableBase : Json :=
  .object [("allOf", .array [.object [("$ref", .string "#/definitions/A")]]),
    ("definitions", .object [("A", .object [
      ("type", .array [.string "object", .string "null"]),
      ("properties", .object [("x", .object [("type", .string "string")])])])])]

/-- **A class that extends an alias**: the form of `A` makes it a base, and its list of types makes
it a union. -/
theorem compile_nullableBase_extends_alias :
    compile nullableBase "Root" {} .none = .ok ("export type A = ({ x?: string } | null);" ++
        "

export class Root extends A {
}
") ∧
      ∃ g types, linkedGraph nullableBase {} .none = .ok g ∧ typesOf g "Root" {} = .ok types ∧
        ¬ (TypeGraph.ofSchema (g.normalize "Root" {}) {}).BasesAreClasses ∧
        ¬ types.ExtendsClasses {} := by
  have hcompile : (compile nullableBase "Root" {} .none).toOption.any (fun text => text =
      "export type A = ({ x?: string } | null);" ++
        "

export class Root extends A {
}
") = true := by decide +kernel
  have hrun : (linkedGraph nullableBase {} .none).toOption.any (fun g =>
      decide (¬ (TypeGraph.ofSchema (g.normalize "Root" {}) {}).BasesAreClasses) &&
        (typesOf g "Root" {}).toOption.any fun types =>
          decide (¬ types.ExtendsClasses {})) = true := by
    decide +kernel
  obtain ⟨text, htext, heq⟩ := exists_ok_of_any hcompile
  obtain ⟨g, hg, hchecks⟩ := exists_ok_of_any hrun
  obtain ⟨hbases, hrun⟩ := Bool.and_eq_true_iff.1 hchecks
  obtain ⟨types, htypes, hextends⟩ := exists_ok_of_any hrun
  exact ⟨of_decide_eq_true heq ▸ htext, g, types, hg, htypes, of_decide_eq_true hbases,
    of_decide_eq_true hextends⟩

end SchemaTypings
