import SchemaTypings.Proofs.FinishedOperations
import SchemaTypings.Proofs.History
import SchemaTypings.Proofs.MergedClasses
import SchemaTypings.Proofs.SingleDeclaration

/-! # Optimizing what is optimized

A second run changes nothing exactly when simplification leaves the graph as it is and no class is
left to merge.  Where operations read finished types only, the first run leaves every operation
flat; what is left to ask is that merging makes no texts alike that simplification told apart.
-/
namespace SchemaTypings
namespace TypeGraph

variable {g h : TypeGraph} {o : Options}

/-! ### Structures -/

/-- The structure of a type, as a text to compare. -/
def structureOf (g : TypeGraph) (o : Options) (id : TypeId) : String :=
  ((g.structureText o id).run {}).1

/-- **No two classes are left to merge**: two named classes of one structure are one. -/
def ClassesApart (g : TypeGraph) (o : Options) : Prop :=
  ∀ c d, g.Reached c → g.Reached d → (g.name? c).isSome → (g.name? d).isSome →
    (g.kind c).isRecord = true → (g.kind d).isRecord = true →
    g.structureOf o c = g.structureOf o d → c = d

theorem CyclesNamed.steady_structureText (hg : g.CyclesNamed) (o : Options) (id : TypeId) :
    g.Steady o (g.structureText o id) := by
  unfold structureText
  split
  · exact .pure _
  · refine (Steady.mapM fun base _ => hg.steady_render o base).bind fun bases => ?_
    exact (hg.steady_renderRaw o id).bind fun body => .pure _
  · exact hg.steady_renderRaw o id

/-- The structure of a class is made from its own text and the texts of its bases. -/
theorem CyclesNamed.structureOf_record (hg : g.CyclesNamed) (o : Options) {id : TypeId}
    {members : List Member} {bases : List TypeId} (hkind : g.kind id = .record members bases) :
    g.structureOf o id = "class " ++ g.ownText o id ++ " extends " ++
      ", ".intercalate (bases.map (g.usedText o)) :=
  (hg.after_structureText o hkind (recalls_nil g o)).2

theorem mem_classBearers {b : Bearer} (h : b ∈ g.classBearers o) :
    g.Reached b.id ∧ (g.kind b.id).isRecord = true ∧ g.name? b.id = some b.name := by
  obtain ⟨hmem, hname⟩ := mem_bearersOf h
  obtain ⟨hreached, hrecord⟩ := List.mem_filter.1 hmem
  exact ⟨(mem_reachable_iff g b.id).1 hreached, hrecord, hname⟩

/-- Every named class that is reached is among the bearers. -/
theorem exists_classBearer (o : Options) {id : TypeId} {name : String} (hid : g.Reached id)
    (hrecord : (g.kind id).isRecord = true) (hname : g.name? id = some name) :
    ∃ b ∈ g.classBearers o, b.id = id ∧ b.name = name := by
  have hmem : (id, name) ∈ (g.classBearers o).map fun b => (b.id, b.name) := by
    rw [classBearers, map_bearersOf, List.mem_filterMap]
    refine ⟨id, List.mem_filter.2 ⟨(mem_reachable_iff g id).2 hid, hrecord⟩, ?_⟩
    rw [hname]
    rfl
  obtain ⟨b, hb, heq⟩ := List.mem_map.1 hmem
  cases heq
  exact ⟨b, hb, rfl, rfl⟩

/-- Nothing is merged by structure where bearers of one structure have one name. -/
theorem duplicates_eq_nil_iff {bs : List Bearer} :
    duplicates [] bs = [] ↔ ∀ b ∈ bs, ∀ c ∈ bs, b.shape = c.shape → b.name = c.name := by
  have hfind : ∀ b ∈ bs, ∃ first ∈ bs, bs.find? (fun a => a.shape = b.shape) = some first ∧
      first.shape = b.shape := by
    intro b hb
    cases hfirst : bs.find? (fun a => a.shape = b.shape) with
    | none => exact absurd (List.find?_eq_none.1 hfirst b hb) (by simp)
    | some first =>
      exact ⟨first, List.mem_of_find?_eq_some hfirst, rfl, by simpa using List.find?_some hfirst⟩
  constructor
  · intro hnil
    have hsame : ∀ b ∈ bs, ∀ first, bs.find? (fun a => a.shape = b.shape) = some first →
        first.name = b.name := by
      intro b hb first hfirst
      by_contra hne
      have hmem : (⟨b.id, first.name⟩ : Replacement) ∈ duplicates [] bs :=
        (mem_duplicates _).2 ⟨b, hb, first.name, by rw [firstName?, hfirst]; rfl, hne, rfl⟩
      rw [hnil] at hmem
      cases hmem
    intro b hb c hc hshape
    obtain ⟨first, -, hfirst, -⟩ := hfind b hb
    have hb' := hsame b hb first hfirst
    rw [hshape] at hfirst
    exact hb'.symm.trans (hsame c hc first hfirst)
  · intro hsame
    refine List.eq_nil_iff_forall_not_mem.2 fun r hr => ?_
    obtain ⟨b, hb, name, hname, hne, -⟩ := (mem_duplicates r).1 hr
    obtain ⟨first, hmem, hfirst, hshape⟩ := hfind b hb
    rw [firstName?, hfirst] at hname
    exact hne ((Option.some.inj hname).symm.trans (hsame first hmem b hb hshape))

/-- **What merging classes leaves alone**: classes of one structure that have one name. -/
theorem CyclesNamed.classReplacements_eq_nil_iff (hg : g.CyclesNamed) :
    g.classReplacements o = [] ↔ (o.deduplicateClasses = true →
      ∀ c d, g.Reached c → g.Reached d → (g.name? c).isSome → (g.name? d).isSome →
        (g.kind c).isRecord = true → (g.kind d).isRecord = true →
        g.structureOf o c = g.structureOf o d → g.name? c = g.name? d) := by
  have hshape : ∀ b ∈ g.classBearers o, b.shape = g.structureOf o b.id :=
    (after_bearersOf (g := g) (o := o) (I := g.Recalls o)
      (Q := fun id text => text = g.structureOf o id)
      (fun id _ _ _ _ hs => ((hg.steady_structureText o id).run_eq hs).symm) (recalls_nil g o)).2
  unfold classReplacements
  by_cases hdedup : o.deduplicateClasses = true
  · rw [if_pos hdedup, duplicates_eq_nil_iff]
    constructor
    · intro hsame _ c d hc hd hcname hdname hcrecord hdrecord hstructure
      obtain ⟨name, hname⟩ := Option.isSome_iff_exists.1 hcname
      obtain ⟨name', hname'⟩ := Option.isSome_iff_exists.1 hdname
      obtain ⟨b, hb, rfl, rfl⟩ := exists_classBearer o hc hcrecord hname
      obtain ⟨b', hb', rfl, rfl⟩ := exists_classBearer o hd hdrecord hname'
      rw [hname, hname', hsame b hb b' hb' (by rw [hshape b hb, hshape b' hb', hstructure])]
    · intro hsame b hb c hc heq
      obtain ⟨hbreached, hbrecord, hbname⟩ := mem_classBearers hb
      obtain ⟨hcreached, hcrecord, hcname⟩ := mem_classBearers hc
      have hnames := hsame hdedup b.id c.id hbreached hcreached (by rw [hbname]; rfl)
        (by rw [hcname]; rfl) hbrecord hcrecord (by rw [← hshape b hb, ← hshape c hc, heq])
      rw [hbname, hcname] at hnames
      exact Option.some.inj hnames
  · rw [if_neg hdedup]
    exact ⟨fun _ h => absurd h hdedup, fun _ => rfl⟩

/-- In a graph of distinct names, classes are left alone that are apart. -/
theorem CyclesNamed.classReplacements_eq_nil_iff_classesApart (hg : g.CyclesNamed)
    (hnames : ∀ id other name, g.Reached id → g.Reached other → g.name? id = some name →
      g.name? other = some name → id = other) :
    g.classReplacements o = [] ↔ (o.deduplicateClasses = true → g.ClassesApart o) := by
  rw [hg.classReplacements_eq_nil_iff]
  refine imp_congr_right fun _ => ⟨fun h c d hc hd hcname hdname hcrecord hdrecord heq => ?_,
    fun h c d hc hd hcname hdname hcrecord hdrecord heq => ?_⟩
  · obtain ⟨name, hname⟩ := Option.isSome_iff_exists.1 hcname
    refine hnames c d name hc hd hname ?_
    rw [← h c d hc hd hcname hdname hcrecord hdrecord heq, hname]
  · rw [h c d hc hd hcname hdname hcrecord hdrecord heq]

/-! ### A second run -/

/-- Names are merged into references to the names that the types had. -/
theorem name?_of_mem_nameReplacements {r : Replacement} (hr : r ∈ g.nameReplacements o) :
    g.name? r.id = some r.target := by
  unfold nameReplacements at hr
  split at hr
  · next rs hrs =>
    obtain ⟨b, hb, rfl, -⟩ := (mem_of_repeats_eq_ok (nodup_bearers g o) hrs r).1 hr
    exact (reached_of_mem_bearers hb).2
  · cases hr

/-- Only named types are replaced. -/
theorem isSome_name?_of_mem_replacements {r : Replacement} (hr : r ∈ g.replacements o) :
    (g.name? r.id).isSome := by
  rcases List.mem_append.1 hr with hr | hr
  · rw [name?_of_mem_nameReplacements hr]
    rfl
  · have hnamed := name?_of_mem_classReplacements hr
    cases hname : g.name? r.id with
    | some name => rfl
    | none =>
      rw [name?_foldl_replace_of_none hname] at hnamed
      cases hnamed

/-- **When optimizing changes nothing**, in a graph of distinct names: when simplification changes
nothing and no classes are left to merge. -/
theorem CyclesNamed.optimize_eq_self_iff (hg : g.CyclesNamed)
    (hnames : ∀ id other name, g.Reached id → g.Reached other → g.name? id = some name →
      g.name? other = some name → id = other) :
    g.optimize o = .ok g ↔ g.simplify o = g ∧ (o.deduplicateClasses = true → g.ClassesApart o) := by
  have hclasses := hg.classReplacements_eq_nil_iff_classesApart (o := o) hnames
  rw [optimize_eq_ok_iff]
  constructor
  · rintro ⟨-, hself⟩
    -- what is replaced has a name before and none after
    have hnil : (g.simplify o).replacements o = [] := by
      refine List.eq_nil_iff_forall_not_mem.2 fun r hr => ?_
      have hnamed := isSome_name?_of_mem_replacements hr
      rw [name?_simplify, hself, name?_foldl_replace_of_replaced ⟨r, hr, rfl⟩] at hnamed
      cases hnamed
    have hsimple : g.simplify o = g := by
      rw [hnil, List.foldl_nil] at hself
      exact hself.symm
    rw [hsimple, replacements, List.append_eq_nil_iff] at hnil
    rw [hnil.1, List.foldl_nil] at hnil
    exact ⟨hsimple, hclasses.1 hnil.2⟩
  · rintro ⟨hsimple, happart⟩
    have hrepeats : repeats g [] (g.bearers o) = .ok [] :=
      repeats_bearers_eq_nil o hnames
    have hnone : g.nameReplacements o = [] := by rw [nameReplacements, hrepeats]
    rw [hsimple]
    refine ⟨⟨[], hrepeats⟩, ?_⟩
    rw [replacements, hnone, List.nil_append, List.foldl_nil, hclasses.2 happart, List.foldl_nil]

/-! ### Graphs with references in the place of types -/

section Replacing

variable {rs : List Replacement}

/-- A type in range is replaced by a reference, or stays as it is. -/
theorem kind_foldl_replace_cases {id : TypeId} (hid : id < g.size) :
    (IsReplaced rs id ∧ ∃ target, (rs.foldl replace g).kind id = .reference target) ∨
      (¬ IsReplaced rs id ∧ (rs.foldl replace g).kind id = g.kind id) := by
  by_cases hreplaced : IsReplaced rs id
  · obtain ⟨r, -, -, hkind⟩ := kind_foldl_replace_of_replaced hid hreplaced
    exact Or.inl ⟨hreplaced, r.target, hkind⟩
  · exact Or.inr ⟨hreplaced, kind_foldl_replace_of_not hreplaced⟩

/-- A type with parts is not replaced. -/
theorem not_isReplaced_of_mem_children {id part : TypeId}
    (h : part ∈ (rs.foldl replace g).children id) : ¬ IsReplaced rs id := by
  have hlt := lt_size_of_mem_children h
  rw [size_foldl_replace] at hlt
  rcases kind_foldl_replace_cases hlt with ⟨-, target, hkind⟩ | ⟨hnot, -⟩
  · rw [children, hkind] at h
    cases h
  · exact hnot

/-- An operation is not replaced, and was one before. -/
theorem operands_foldl_replace {id : TypeId} {isUnion : Bool} {members : List TypeId}
    (h : ((rs.foldl replace g).kind id).operands? = some (isUnion, members)) :
    ¬ IsReplaced rs id ∧ (g.kind id).operands? = some (isUnion, members) := by
  have hlt : id < (rs.foldl replace g).size := lt_size_of_kind_ne fun hany => by
    rw [hany] at h
    cases h
  rw [size_foldl_replace] at hlt
  rcases kind_foldl_replace_cases hlt with ⟨-, target, hkind⟩ | ⟨hnot, hkind⟩
  · rw [hkind] at h
    cases h
  · exact ⟨hnot, hkind ▸ h⟩

/-- **Replacing makes no cycle of unnamed types**: what is replaced has no parts. -/
theorem CyclesNamed.foldl_replace (hg : g.CyclesNamed) (rs : List Replacement) :
    (rs.foldl replace g).CyclesNamed := by
  have hpath : ∀ {a b}, Relation.TransGen (rs.foldl replace g).UnnamedStep a b →
      ¬ IsReplaced rs b → Relation.TransGen g.UnnamedStep a b := by
    have hstep : ∀ {a b}, (rs.foldl replace g).UnnamedStep a b → ¬ IsReplaced rs b →
        g.UnnamedStep a b := by
      intro a b ⟨ha, hab, hb⟩ hbnot
      have hanot := not_isReplaced_of_mem_children hab
      rw [name?_foldl_replace_of_not hanot] at ha
      rw [name?_foldl_replace_of_not hbnot] at hb
      rw [children, kind_foldl_replace_of_not hanot] at hab
      exact ⟨ha, hab, hb⟩
    intro a b hab
    induction hab with
    | single h => exact fun hnot => .single (hstep h hnot)
    | tail _ h ih => exact fun hnot => .tail (ih (not_isReplaced_of_mem_children h.2.1)) (hstep h hnot)
  intro id hcycle
  obtain ⟨b, hfirst, -⟩ := Relation.TransGen.head'_iff.1 hcycle
  exact hg id (hpath hcycle (not_isReplaced_of_mem_children hfirst.2.1))

/-- **Operations stay flat**: a reference is none, and neither absorbs nor vanishes. -/
theorem Flat.foldl_replace (hg : g.Flat) (rs : List Replacement) : (rs.foldl replace g).Flat := by
  intro id isUnion members hid hoperands
  rw [reached_foldl_replace_iff] at hid
  have hflat := hg id isUnion members hid.reached (operands_foldl_replace hoperands).2
  have hlt : ∀ m ∈ members, m < g.size := fun m hm => lt_size_of_kind_ne (hflat.known m hm).1
  constructor
  case nested =>
    intro m hm hname inner hinner
    obtain ⟨hnot, hinner⟩ := operands_foldl_replace hinner
    rw [name?_foldl_replace_of_not hnot] at hname
    exact hflat.nested m hm hname inner hinner
  case known =>
    intro m hm
    rcases kind_foldl_replace_cases (hlt m hm) with ⟨-, target, hkind⟩ | ⟨-, hkind⟩
    · rw [hkind]
      exact ⟨nofun, nofun⟩
    · rw [hkind]
      exact hflat.known m hm
  case narrow =>
    intro hinter m hm hobject other hother
    rcases kind_foldl_replace_cases (hlt m hm) with ⟨-, target, hkind⟩ | ⟨-, hkind⟩
    · rw [hkind] at hobject
      cases hobject
    rcases kind_foldl_replace_cases (hlt other hother) with ⟨-, target, hkind'⟩ | ⟨-, hkind'⟩
    · rw [hkind']
      rfl
    · rw [hkind']
      exact hflat.narrow hinter m hm (hkind ▸ hobject) other hother

end Replacing

/-! ### Texts after merging names -/

section MergingNames

variable {rs : List Replacement} (hg : g.CyclesNamed)
  (hrs : ∀ r ∈ rs, g.name? r.id = some r.target)
include hg hrs

/-- **A type that becomes a reference to its own name is written as before**, and so is all that
shows it. -/
theorem usedText_foldl_replace (o : Options) (id : TypeId) :
    (rs.foldl replace g).usedText o id = g.usedText o id := by
  obtain ⟨rank, -, hrank⟩ := hg.exists_rank
  have hmerged := hg.foldl_replace rs
  have hnamed : ∀ {id name}, g.name? id = some name →
      (rs.foldl replace g).usedText o id = name := by
    intro id name hname
    have hlt := lt_size_of_name? hname
    by_cases hreplaced : IsReplaced rs id
    · obtain ⟨r, hr, rfl, hkind⟩ := kind_foldl_replace_of_replaced hlt hreplaced
      rw [usedText_of_none (name?_foldl_replace_of_replaced hreplaced),
        hmerged.ownText_eq o (by rw [size_foldl_replace]; exact hlt), hkind]
      exact Option.some.inj ((hrs r hr).symm.trans hname)
    · exact usedText_of_name ((name?_foldl_replace_of_not hreplaced).trans hname)
  have hunnamed : ∀ n id, rank id < n → g.name? id = none →
      (rs.foldl replace g).usedText o id = g.usedText o id := by
    intro n
    induction n with
    | zero => exact fun id hn => absurd hn (Nat.not_lt_zero _)
    | succ n ih =>
      intro id hn hname
      rw [usedText_of_none hname, usedText_of_none (name?_foldl_replace_of_none hname)]
      by_cases hlt : id < g.size
      · have hnot : ¬ IsReplaced rs id := by
          rintro ⟨r, hr, rfl⟩
          rw [hrs r hr] at hname
          cases hname
        rw [hmerged.ownText_eq o (by rw [size_foldl_replace]; exact hlt), hg.ownText_eq o hlt,
          kind_foldl_replace_of_not hnot]
        refine textFrom_congr fun c hc => ?_
        cases hcname : g.name? c with
        | some name => rw [hnamed hcname, usedText_of_name hcname]
        | none =>
          by_cases hclt : c < g.size
          · have hdown := hrank id c hclt ⟨hname, mem_children_of_mem_shown hc, hcname⟩
            exact ih c (by omega) hcname
          · have hle := Nat.not_lt.1 hclt
            rw [usedText_of_none hcname, usedText_of_none (name?_foldl_replace_of_none hcname),
              ownText_of_size_le hle, ownText_of_size_le (by rw [size_foldl_replace]; exact hle)]
      · have hle := Nat.not_lt.1 hlt
        rw [ownText_of_size_le hle, ownText_of_size_le (by rw [size_foldl_replace]; exact hle)]
  cases hname : g.name? id with
  | some name => rw [hnamed hname, usedText_of_name hname]
  | none => exact hunnamed _ id (Nat.lt_succ_self _) hname

theorem ownText_foldl_replace (o : Options) {id : TypeId} (hid : id < g.size)
    (hnot : ¬ IsReplaced rs id) : (rs.foldl replace g).ownText o id = g.ownText o id := by
  rw [(hg.foldl_replace rs).ownText_eq o (by rw [size_foldl_replace]; exact hid),
    hg.ownText_eq o hid, kind_foldl_replace_of_not hnot]
  exact textFrom_congr fun c _ => usedText_foldl_replace hg hrs o c

/-- A class that stays has the structure that it had. -/
theorem structureOf_foldl_replace (o : Options) {id : TypeId} (hid : id < g.size)
    (hnot : ¬ IsReplaced rs id) (hrecord : (g.kind id).isRecord = true) :
    (rs.foldl replace g).structureOf o id = g.structureOf o id := by
  obtain ⟨members, bases, hkind⟩ := TypeKind.eq_record hrecord
  have hkind' := (kind_foldl_replace_of_not (g := g) hnot).trans hkind
  rw [(hg.foldl_replace rs).structureOf_record o hkind', hg.structureOf_record o hkind,
    ownText_foldl_replace hg hrs o hid hnot,
    List.map_congr_left fun base _ => usedText_foldl_replace hg hrs o base]

end MergingNames

/-! ### One run is enough -/

/-- **Nothing looks alike**: the members of every operation that is reached are apart, and so are
the classes, if classes are merged. -/
structure TellsApart (g : TypeGraph) (o : Options) : Prop where
  members : g.Apart o
  classes : o.deduplicateClasses = true → g.ClassesApart o

/-- **Merging makes nothing look alike**, of a simplified graph: no intersection has lost all its
members, no named member is written as the name of another one that merging takes away, and classes
of one structure have one name, if classes are merged. -/
structure MergesQuietly (g : TypeGraph) (o : Options) : Prop where
  nonempty : ∀ id, g.Reached id → g.kind id ≠ .intersection []
  names : ∀ id isUnion members, g.Reached id → (g.kind id).operands? = some (isUnion, members) →
    ∀ k ∈ members, ∀ l ∈ members, IsReplaced (g.nameReplacements o) k → (g.name? l).isSome →
      g.usedText o k ≠ g.ownText o l
  classes : o.deduplicateClasses = true → ∀ c d, g.Reached c → g.Reached d →
    (g.name? c).isSome → (g.name? d).isSome → (g.kind c).isRecord = true →
    (g.kind d).isRecord = true → g.structureOf o c = g.structureOf o d → g.name? c = g.name? d

/-- Where merging is quiet, only names are merged. -/
theorem MergesQuietly.classReplacements_eq_nil (hquiet : g.MergesQuietly o) (hg : g.CyclesNamed) :
    ((g.nameReplacements o).foldl replace g).classReplacements o = [] := by
  refine (hg.foldl_replace _).classReplacements_eq_nil_iff.2 fun hdedup c d hc hd => ?_
  have hbefore : ∀ {c}, ((g.nameReplacements o).foldl replace g).Reached c →
      (((g.nameReplacements o).foldl replace g).name? c).isSome →
      ¬ IsReplaced (g.nameReplacements o) c ∧ g.Reached c := by
    intro c hc hname
    refine ⟨fun hreplaced => ?_, ((reached_foldl_replace_iff g _ c).1 hc).reached⟩
    rw [name?_foldl_replace_of_replaced hreplaced] at hname
    cases hname
  intro hcname hdname hcrecord hdrecord hstructure
  obtain ⟨hcnot, hcreached⟩ := hbefore hc hcname
  obtain ⟨hdnot, hdreached⟩ := hbefore hd hdname
  rw [kind_foldl_replace_of_not hcnot] at hcrecord
  rw [kind_foldl_replace_of_not hdnot] at hdrecord
  have hrs := fun r hr => name?_of_mem_nameReplacements (g := g) (o := o) (r := r) hr
  rw [structureOf_foldl_replace hg hrs o hcreached.lt_size hcnot hcrecord,
    structureOf_foldl_replace hg hrs o hdreached.lt_size hdnot hdrecord] at hstructure
  rw [name?_foldl_replace_of_not hcnot] at hcname ⊢
  rw [name?_foldl_replace_of_not hdnot] at hdname ⊢
  exact hquiet.classes hdedup c d hcreached hdreached hcname hdname hcrecord hdrecord hstructure

/-- **Quiet merging keeps the members of operations apart.** -/
theorem MergesQuietly.apart (hquiet : g.MergesQuietly o) (hg : g.CyclesNamed)
    (hapart : ∀ id isUnion members, g.Reached id →
      (g.kind id).operands? = some (isUnion, members) →
      (members.map (g.usedText o)).Nodup ∧
        ∀ x ∈ members, ∀ k ∈ members, ¬ g.SpellsOut o x k) :
    ((g.nameReplacements o).foldl replace g).Apart o := by
  have hrs := fun r hr => name?_of_mem_nameReplacements (g := g) (o := o) (r := r) hr
  intro id isUnion members hid hoperands
  rw [reached_foldl_replace_iff] at hid
  obtain ⟨-, hbefore⟩ := operands_foldl_replace hoperands
  obtain ⟨htexts, hspelled⟩ := hapart id isUnion members hid.reached hbefore
  constructor
  case texts =>
    rwa [List.map_congr_left fun m _ => usedText_foldl_replace hg hrs o m]
  case spelled =>
    intro x hx k hk hspells
    have hknot : ¬ IsReplaced (g.nameReplacements o) k := by
      intro hreplaced
      have hnamed := hspells.named
      rw [name?_foldl_replace_of_replaced hreplaced] at hnamed
      cases hnamed
    have hnamed := hspells.named
    rw [name?_foldl_replace_of_not hknot] at hnamed
    obtain ⟨name, hname⟩ := Option.isSome_iff_exists.1 hnamed
    have htext := hspells.text_eq
    rw [usedText_foldl_replace hg hrs o x,
      ownText_foldl_replace hg hrs o (lt_size_of_name? hname) hknot] at htext
    by_cases hreplaced : IsReplaced (g.nameReplacements o) x
    · exact hquiet.names id isUnion members hid.reached hbefore x hx k hk hreplaced hnamed htext
    · have hunnamed := hspells.unnamed
      rw [name?_foldl_replace_of_not hreplaced] at hunnamed
      exact hspelled x hx k hk ⟨hunnamed, hnamed, htext⟩
  case nonempty =>
    rintro rfl rfl
    exact hquiet.nonempty id hid.reached (TypeKind.eq_of_operands hbefore rfl)

/-- **Optimizing reaches its normal form in one run.**  Let every cycle of a graph pass a type with
a name, and let its operations read finished types only.  Then every operation that is left is flat.
A second run changes nothing exactly when nothing is left that looks alike; and so it is where
merging is quiet. -/
theorem optimize_optimize (hcycles : g.CyclesNamed) (hreads : g.ReadsFinished o)
    (hok : g.optimize o = .ok h) :
    h.Flat ∧ (h.optimize o = .ok h ↔ h.TellsApart o) ∧
      ((g.simplify o).MergesQuietly o → h.optimize o = .ok h) := by
  have hsimple : (g.simplify o).CyclesNamed := (IsStage.simplify g o).cyclesNamed hcycles
  have hnames : ∀ id other name, h.Reached id → h.Reached other → h.name? id = some name →
      h.name? other = some name → id = other :=
    fun id other name => eq_of_name?_optimize hok
  have hmerged := ((optimize_eq_ok_iff g h o).1 hok).2
  have hflat : h.Flat := hmerged ▸ (hreads.flat_simplify hcycles).foldl_replace _
  have hh : h.CyclesNamed := hmerged ▸ hsimple.foldl_replace _
  have hiff : h.optimize o = .ok h ↔ h.TellsApart o := by
    rw [hh.optimize_eq_self_iff hnames, hh.simplify_eq_self_iff hflat]
    exact ⟨fun ⟨happart, hclasses⟩ => ⟨happart, hclasses⟩, fun hapart => ⟨hapart.1, hapart.2⟩⟩
  refine ⟨hflat, hiff, fun hquiet => hiff.2 ?_⟩
  have hnone := hquiet.classReplacements_eq_nil hsimple
  rw [replacements, hnone, List.append_nil] at hmerged
  constructor
  case members =>
    rw [hmerged]
    exact hquiet.apart hsimple fun id isUnion members hid => hreads.apart_simplify hcycles hid
  case classes =>
    refine (hh.classReplacements_eq_nil_iff_classesApart hnames).1 ?_
    rw [hmerged]
    exact hnone

/-! ### A graph that is optimized in one run -/

/-- Options under which classes are merged. -/
abbrev merging : Options := { deduplicateClasses := true }

/-- A class of trees with a choice between a tree, `null` and strings, nested in a choice; the class
once more; and an intersection of `object` with it. -/
def grove : TypeGraph where
  nodes := #[
    { kind := .record [{ key := "tree", type := 1 }, { key := "twin", type := 4 },
        { key := "kept", type := 7 }] [], name := some "Grove" },
    { kind := .record [{ key := "next", type := 2 }] [], name := some "Tree" },
    { kind := .union [1, 3] },
    { kind := .union [5, 6] },
    { kind := .record [{ key := "next", type := 2 }] [], name := some "Tree" },
    { kind := .null },
    { kind := .string },
    { kind := .intersection [8, 1] },
    { kind := .object }]
  root := 0

/-- What the operations of the grove read. -/
def groveReads : TypeId → List TypeId
  | 2 => [1, 3, 5, 6]
  | 3 => [5, 6]
  | 7 => [8, 1]
  | _ => []

theorem cyclesNamed_grove : grove.CyclesNamed := by
  have hlooks : ∀ a < grove.size, grove.name? a = none →
      ∀ b ∈ grove.children a, grove.name? b = none → a < b := by decide +kernel
  exact cyclesNamed_of_lt fun a b hab =>
    hlooks a (lt_size_of_mem_children hab.2.1) hab.1 b hab.2.1 hab.2.2

theorem readsFinished_grove : grove.ReadsFinished merging := by
  have hmembers : ∀ a < grove.size, ∀ operation ∈ (grove.kind a).operands?,
      ∀ b ∈ operation.2, b ∈ groveReads a := by decide +kernel
  have hclosed : ∀ a < grove.size, ∀ b ∈ groveReads a, grove.name? b = none →
      ∀ c ∈ (grove.kind b).shown, c ∈ groveReads a := by decide +kernel
  have hfinished : ∀ a < grove.size, ∀ b ∈ groveReads a,
      grove.reachable.idxOf a < grove.reachable.idxOf b ∨
        ((grove.simplify merging).kind b).operands? = (grove.kind b).operands? := by decide +kernel
  have hspelled : ∀ a < grove.size, ∀ k ∈ groveReads a, ∀ x ∈ groveReads a,
      (grove.simplify merging).name? x = none → ((grove.simplify merging).name? k).isSome →
      (grove.simplify merging).usedText merging x ≠ (grove.simplify merging).ownText merging k := by
    decide +kernel
  have hlists : ∀ a < grove.size, (∀ b, grove.Takes a b → b ∈ groveReads a) ∧
      ∀ b, grove.Reads a b → b ∈ groveReads a := by
    intro a ha
    refine mem_of_closed (fun b hb => ?_) (hclosed a ha)
    obtain ⟨isUnion, members, hoperands, hb⟩ := hb
    exact hmembers a ha (isUnion, members) hoperands b hb
  constructor
  case members =>
    intro a b ha hb
    exact (hfinished a ha.lt_size b ((hlists a ha.lt_size).2 b hb)).imp_right
      kind_simplify_of_operands
  case structures =>
    intro a k ha hk hnamed
    refine Or.inr fun x hx hspells => ?_
    exact hspelled a ha.lt_size k ((hlists a ha.lt_size).1 k hk) x ((hlists a ha.lt_size).1 x hx)
      hspells.unnamed hspells.named hspells.text_eq

theorem mergesQuietly_grove : (grove.simplify merging).MergesQuietly merging := by
  have hkinds : ∀ id < grove.size,
      ((grove.simplify merging).kind id).operands? ≠ some (false, []) := by decide +kernel
  have hnames : ∀ id < grove.size,
      ∀ operation ∈ ((grove.simplify merging).kind id).operands?, ∀ k ∈ operation.2,
        ∀ r ∈ (grove.simplify merging).nameReplacements merging, r.id ≠ k := by decide +kernel
  have hclasses : ∀ c < grove.size, (grove.kind c).isRecord = true →
      ∀ d < grove.size, (grove.kind d).isRecord = true → grove.name? c = grove.name? d ∨
        (grove.simplify merging).structureOf merging c ≠
          (grove.simplify merging).structureOf merging d := by decide +kernel
  have hlt : ∀ {id}, (grove.simplify merging).Reached id → id < grove.size :=
    fun hid => size_simplify grove _ ▸ hid.lt_size
  constructor
  case nonempty =>
    intro id hid hkind
    have hoperands := hkinds id (hlt hid)
    rw [hkind] at hoperands
    exact hoperands rfl
  case names =>
    intro id isUnion members hid hoperands k hk _ _ hreplaced
    obtain ⟨r, hr, hrk⟩ := hreplaced
    exact absurd hrk (hnames id (hlt hid) _ hoperands k hk r hr)
  case classes =>
    intro _ c d hc hd _ _ hcrecord hdrecord hstructure
    have hrecord : ∀ {id}, ((grove.simplify merging).kind id).isRecord = true →
        (grove.kind id).isRecord = true := by
      intro id h
      obtain ⟨members, bases, hkind⟩ := TypeKind.eq_record h
      rw [kind_of_simplify_record hkind]
      rfl
    rw [name?_simplify, name?_simplify]
    exact (hclasses c (hlt hc) (hrecord hcrecord) d (hlt hd) (hrecord hdrecord)).resolve_right
      fun hne => hne hstructure

/-- The choice takes in the nested one, the second class of trees becomes a reference to the first,
and the intersection loses `object`; another run changes nothing. -/
theorem optimize_optimize_grove :
    ∃ h, grove.optimize merging = .ok h ∧ (h.kind 2).operands? = some (true, [1, 5, 6]) ∧
      h.name? 4 = none ∧
      (h.kind 7).operands? = some (false, [1]) ∧ h.Flat ∧
      h.optimize merging = .ok h := by
  have hrun : (grove.optimize merging).toOption.any (fun h =>
      decide ((h.kind 2).operands? = some (true, [1, 5, 6]) ∧ h.name? 4 = none ∧
        (h.kind 7).operands? = some (false, [1]))) = true := by decide +kernel
  obtain ⟨h, hok, hchecks⟩ := exists_ok_of_any hrun
  obtain ⟨hunion, hname, hinter⟩ := of_decide_eq_true hchecks
  obtain ⟨hflat, -, hquiet⟩ := optimize_optimize cyclesNamed_grove readsFinished_grove hok
  exact ⟨h, hok, hunion, hname, hinter, hflat, hquiet mergesQuietly_grove⟩

/-! ### What the conditions exclude -/

/-- A second run changes the operands or the name of some type. -/
def changesAgain (o : Options) (id : TypeId) (g : TypeGraph) : Bool :=
  (g.optimize o).toOption.any fun h => (h.optimize o).toOption.any fun k =>
    decide ((k.kind id).operands? ≠ (h.kind id).operands? ∨ k.name? id ≠ h.name? id)

theorem exists_of_changesAgain (id : TypeId) (hrun : changesAgain o id g = true) :
    ∃ h, g.optimize o = .ok h ∧ h.optimize o ≠ .ok h := by
  obtain ⟨h, hok, hagain⟩ := exists_ok_of_any hrun
  refine ⟨h, hok, fun hself => ?_⟩
  rw [hself] at hagain
  simp [Except.toOption] at hagain

/-- A choice within two others: the second one comes behind the first in the walk, takes it in
before its turn, and keeps what it has not taken in yet. -/
def sharedChoice : TypeGraph where
  nodes := #[
    { kind := .record [{ key := "a", type := 1 }, { key := "b", type := 4 }] []
      name := some "Root" },
    { kind := .union [2, 3] },
    { kind := .union [5, 6] },
    { kind := .string },
    { kind := .union [1, 7] },
    { kind := .null },
    { kind := .boolean },
    { kind := .number }]
  root := 0

/-- An unnamed union that is its own member. -/
def endlessChoice : TypeGraph where
  nodes := #[{ kind := .union [0, 1] }, { kind := .string }]
  root := 0

/-- An intersection of which both members are dropped, each for the other. -/
def emptiedChoice : TypeGraph where
  nodes := #[{ kind := .intersection [2, 1] }, { kind := .union [1], name := some "A" },
    { kind := .union [1] }]
  root := 0

/-- A type that is written as the name of a class, beside another class of this name. -/
def renamedClass : TypeGraph where
  nodes := #[
    { kind := .record [{ key := "a", type := 1 }, { key := "b", type := 2 }] []
      name := some "Root" },
    { kind := .record [] [], name := some "N" },
    { kind := .union [3, 4] },
    { kind := .union [1], name := some "M" },
    { kind := .record [] [], name := some "N" }]
  root := 0

/-- Two classes that differ in a member only, of which the types are classes of one structure. -/
def likeClasses : TypeGraph where
  nodes := #[
    { kind := .record [{ key := "a", type := 1 }, { key := "b", type := 2 }] []
      name := some "Root" },
    { kind := .record [{ key := "x", type := 3 }] [], name := some "A" },
    { kind := .record [{ key := "x", type := 4 }] [], name := some "B" },
    { kind := .record [] [], name := some "P" },
    { kind := .record [] [], name := some "Q" }]
  root := 0

/-- **None of the conditions can be left out**: operations may be taken in before their turn, an
unnamed union may be its own member, an intersection may lose all its members, and merging names or
classes may make texts alike. -/
theorem optimize_needs_second_run :
    (∃ h, sharedChoice.optimize {} = .ok h ∧ h.optimize {} ≠ .ok h) ∧
      (∃ h, endlessChoice.optimize {} = .ok h ∧ ¬ h.Flat) ∧
      (∃ h, emptiedChoice.optimize {} = .ok h ∧ h.optimize {} ≠ .ok h) ∧
      (∃ h, renamedClass.optimize {} = .ok h ∧ h.optimize {} ≠ .ok h) ∧
      ∃ h, likeClasses.optimize merging = .ok h ∧
        h.optimize merging ≠ .ok h := by
  refine ⟨exists_of_changesAgain 4 (by decide +kernel), ?_,
    exists_of_changesAgain 0 (by decide +kernel),
    exists_of_changesAgain 2 (by decide +kernel),
    exists_of_changesAgain 2 (by decide +kernel)⟩
  have hrun : (endlessChoice.optimize {}).toOption.any (fun h =>
      decide (0 ∈ h.reachable ∧ h.name? 0 = none ∧
        (h.kind 0).operands? = some (true, [0, 1]))) = true := by decide +kernel
  obtain ⟨h, hok, hchecks⟩ := exists_ok_of_any hrun
  obtain ⟨hreached, hname, hoperands⟩ := of_decide_eq_true hchecks
  refine ⟨h, hok, fun hflat => ?_⟩
  have hroot := hflat 0 true [0, 1] ((mem_reachable_iff h 0).1 hreached) hoperands
  exact hroot.nested 0 (by decide) hname [0, 1] hoperands

end TypeGraph
end SchemaTypings
