import SchemaTypings.Proofs.Checking
import SchemaTypings.Proofs.PlainGraphs

/-! # When optimizing keeps what types admit

Optimizing compares types by their texts.  In a describable graph texts that are equal belong to
types that admit the same values, but for what no text shows: the bases of a class that is written
out.  So all types of the graph admit the same values after optimizing as before, as long as every
step compares plain texts; and each of the other conditions is needed.
-/
namespace SchemaTypings
namespace TypeGraph

variable {g h : TypeGraph} {o : Options}

/-- **Optimizing keeps what types admit**: the root stays, and every type admits the values that it
admitted before. -/
theorem values_optimize (hg : g.Describable) (hsteps : RegularSteps o g g.reachable.reverse)
    (hmerge : (g.simplify o).MergesPlainly o) (hok : g.optimize o = .ok h) :
    h.root = g.root ∧ ∀ id, h.values id = g.values id := by
  obtain ⟨hsimple, hvalues⟩ := hg.values_foldl_simplifyAt hsteps
  change (g.simplify o).Describable at hsimple
  change ∀ id, (g.simplify o).values id = g.values id at hvalues
  have hh := ((optimize_eq_ok_iff g h o).1 hok).2
  rw [replacements, hsimple.nameReplacements_eq_nil, List.foldl_nil, List.nil_append] at hh
  rw [hh]
  refine ⟨?_, fun id => ?_⟩
  · rw [root_foldl_replace, root_simplify]
  · rw [hsimple.values_mergeClasses hmerge, hvalues]

/-- A graph of distinct names is optimized without a collision. -/
theorem Ordinary.exists_optimize_eq_ok (hg : g.Ordinary) (o : Options) :
    ∃ h, g.optimize o = .ok h := by
  cases hrs : repeats (g.simplify o) [] ((g.simplify o).bearers o) with
  | ok rs => exact ⟨_, (optimize_eq_ok_iff g _ o).2 ⟨⟨rs, hrs⟩, rfl⟩⟩
  | error e =>
    exfalso
    rcases conflicts_of_repeats_eq_error hrs with ⟨b, -, known, hknown, -⟩ | ⟨b, hb, c, hc, hconflict⟩
    · cases hknown
    · have hname := (reached_of_mem_bearers hb).2
      have hname' := (reached_of_mem_bearers hc).2
      rw [name?_simplify] at hname hname'
      have hid := hg.distinct b.id c.id b.name hname (hconflict.1 ▸ hname')
      exact hconflict.2 (congrArg Bearer.shape
        (List.inj_on_of_nodup_map (nodup_bearers _ o) hb hc hid))

/-! ### A graph that is optimized -/

/-- A class with a base, a union of a named class, of two unnamed ones that repeat it and of a
union, and two classes of one structure. -/
def stable : TypeGraph where
  nodes := #[
    { kind := .record [{ key := "pet", type := 1 }, { key := "place", type := 3 }] []
      name := some "Stable" },
    { kind := .record [{ key := "x", type := 8 }] [2], name := some "Dog" },
    { kind := .record [{ key := "y", type := 8 }] [], name := some "Animal" },
    { kind := .union [4, 5, 6] },
    { kind := .record [{ key := "y", type := 8 }] [], name := some "Point" },
    { kind := .record [{ key := "y", type := 8 }] [] },
    { kind := .union [7, 9] },
    { kind := .record [{ key := "y", type := 8 }] [] },
    { kind := .string },
    { kind := .number }]
  root := 0

theorem describable_stable : stable.Describable :=
  (ordinary_of_looks (by decide)).describable (by decide)

theorem plain_stable : stable.Plain := plain_of_looks (by decide)

/-- Optimizing drops what repeats `Point`, merges `Point` into `Animal`, and changes no values. -/
theorem values_optimize_stable :
    ∃ h, stable.optimize { deduplicateClasses := true } = .ok h ∧
      (h.kind 3).operands? = some (true, [4, 9]) ∧ (h.kind 4).target? = some "Animal" ∧
      h.root = stable.root ∧ ∀ id, h.values id = stable.values id := by
  have hrun : (stable.optimize { deduplicateClasses := true }).toOption.any (fun h =>
      decide ((h.kind 3).operands? = some (true, [4, 9]) ∧
        (h.kind 4).target? = some "Animal")) = true := by decide +kernel
  obtain ⟨h, hok, hkinds⟩ := exists_ok_of_any hrun
  obtain ⟨hunion, htarget⟩ := of_decide_eq_true hkinds
  obtain ⟨hsteps, hplain⟩ := plain_stable.regularSteps (o := { deduplicateClasses := true })
    describable_stable stable.reachable.reverse
  have hreferences : ∀ id target, stable.kind id ≠ .reference target := by
    intro id target hkind
    have hnone : ∀ id < stable.size, (stable.kind id).target? = none := by decide
    have hid : id < stable.size := Nat.lt_of_not_le fun hle => by
      rw [kind_of_size_le hle] at hkind
      cases hkind
    have htarget := hnone id hid
    rw [hkind] at htarget
    cases htarget
  have hmerge := hplain.mergesPlainly { deduplicateClasses := true } fun id target hkind =>
    hreferences id target (kind_of_simplify_reference hkind)
  exact ⟨h, hok, hunion, htarget, values_optimize describable_stable hsteps hmerge hok⟩

/-! ### What the conditions exclude -/

/-- Optimizing changes what a type admits that is still reached. -/
def ChangesValues (g : TypeGraph) (o : Options) : Prop :=
  ∃ h, g.optimize o = .ok h ∧ ∃ id, h.Reached id ∧ h.values id ≠ g.values id

/-- Where nothing is merged, optimizing is simplifying. -/
theorem optimize_eq_simplify (hok : (g.optimize o).toOption.isSome = true)
    (hnone : (g.simplify o).replacements o = []) : g.optimize o = .ok (g.simplify o) := by
  cases hrun : g.optimize o with
  | error e =>
    rw [hrun] at hok
    cases hok
  | ok h =>
    have hh := ((optimize_eq_ok_iff g h o).1 hrun).2
    rw [hnone, List.foldl_nil] at hh
    rw [hh]

theorem mem_values_iff (isUnion : Bool) (members : List TypeId) {id : TypeId}
    (h : (g.kind id).operands? = some (isUnion, members)) (v : Json) :
    v ∈ g.values id ↔ v ∈ operationValues isUnion g.values members := by
  rw [← meaning_values, meaning, kindValues_of_operands h]

/-- Optimizing merges nothing in the graph, and leaves these operands to its root. -/
def LeavesRoot (g : TypeGraph) (operands : Bool × List TypeId) : Prop :=
  (g.optimize {}).toOption.isSome = true ∧ (g.simplify {}).replacements {} = [] ∧
    ((g.simplify {}).kind g.root).operands? = some operands

instance (g : TypeGraph) (operands : Bool × List TypeId) : Decidable (g.LeavesRoot operands) :=
  inferInstanceAs (Decidable (_ ∧ _ ∧ _))

/-- A graph changes where its root and what is left of it do not admit the same. -/
theorem LeavesRoot.changesValues {isUnion : Bool} {kept : List TypeId} {v : Json}
    (h : g.LeavesRoot (isUnion, kept))
    (hv : ¬ (v ∈ operationValues isUnion (g.simplify {}).values kept ↔ v ∈ g.values g.root)) :
    g.ChangesValues {} := by
  obtain ⟨hok, hnone, hkept⟩ := h
  have hroot : (g.simplify {}).root = g.root := root_simplify ..
  have hsize : g.root < (g.simplify {}).size := by
    by_contra hle
    rw [kind_of_size_le (Nat.le_of_not_lt hle)] at hkept
    cases hkept
  refine ⟨_, optimize_eq_simplify hok hnone, g.root, hroot ▸ .root (hroot ▸ hsize), ?_⟩
  intro heq
  refine hv ?_
  rw [← heq]
  exact (mem_values_iff isUnion kept hkept v).symm

/-- A union of two types. -/
def choice (first second : TypeNode) : TypeGraph where
  nodes := #[{ kind := .union [1, 2] }, first, second]
  root := 0

/-- A class of the name `string` beside all strings. -/
def keywordName : TypeGraph :=
  choice { kind := .record [] [], name := some "string" } { kind := .string }

/-- A class of the name `1` beside the literal. -/
def numeralName : TypeGraph :=
  choice { kind := .record [] [], name := some "1" } { kind := .literal (.ofNat 1) }

/-- A reference to the name `string`, which no type has, beside all strings. -/
def keywordTarget : TypeGraph := choice { kind := .reference "string" } { kind := .string }

/-- An enumeration of the empty object beside all objects. -/
def objectEntry : TypeGraph :=
  choice { kind := .enumeration [⟨"empty", .object []⟩] } { kind := .record [] [] }

/-- A class with a base, beside an unnamed class of the same members. -/
def spelledOut : TypeGraph where
  nodes := #[
    { kind := .union [1, 2] },
    { kind := .record [{ key := "x", type := 4 }] [3], name := some "Dog" },
    { kind := .record [{ key := "x", type := 4 }] [] },
    { kind := .record [{ key := "y", type := 4, isRequired := true }] [], name := some "Animal" },
    { kind := .string }]
  root := 0

/-- An intersection of a type that is only another name for itself and of one that spells it
out. -/
def aliasCycle : TypeGraph where
  nodes := #[{ kind := .intersection [2, 1] }, { kind := .union [1], name := some "A" },
    { kind := .union [1] }]
  root := 0

/-- The unions keep their first member, and the intersection keeps none. -/
theorem leavesRoot_examples : ∀ g ∈ [(keywordName, true, [1]), (numeralName, true, [1]),
    (keywordTarget, true, [1]), (objectEntry, true, [1]), (spelledOut, true, [1]),
    (aliasCycle, false, [])], LeavesRoot g.1 g.2 := by
  decide +kernel

/-- A union changes where its second member is dropped and admits something that the first one does
not. -/
theorem changesValues_choice {first second : TypeNode} {v : Json}
    (h : (choice first second).LeavesRoot (true, [1])) (hplain : first.kind.operands? = none)
    (hsecond : v ∈ (choice first second).values 2)
    (hfirst : ∀ P, v ∉ kindValues (((choice first second).simplify {}).bearing P) P first.kind) :
    ChangesValues (choice first second) {} := by
  refine h.changesValues (v := v) fun hiff => ?_
  have hbefore : v ∈ (choice first second).values 0 :=
    (mem_values_iff true [1, 2] rfl v).2 ⟨2, by simp, hsecond⟩
  obtain ⟨m, hm, hv⟩ := hiff.2 hbefore
  rw [List.mem_singleton.1 hm, ← meaning_values, meaning] at hv
  have hkind : ((choice first second).simplify {}).kind 1 = first.kind := by
    rcases kind_simplify (choice first second) {} 1 with hsame | ⟨hsome, -⟩
    · exact hsame
    · change first.kind.operands?.isSome = true at hsome
      rw [hplain] at hsome
      cases hsome
  rw [hkind] at hv
  exact hfirst _ hv

theorem changesValues_keywordName : keywordName.Ordinary ∧ keywordName.ChangesValues {} := by
  refine ⟨ordinary_of_looks (by decide), changesValues_choice (v := .string "")
    (leavesRoot_examples (keywordName, true, [1]) (by simp)) rfl ?_ fun P hv => ?_⟩
  · rw [← meaning_values]
    rfl
  · obtain ⟨⟨entries, heq, -⟩, -⟩ := hv
    cases heq

theorem changesValues_numeralName : numeralName.Ordinary ∧ numeralName.ChangesValues {} := by
  refine ⟨ordinary_of_looks (by decide), changesValues_choice (v := .ofNat 1)
    (leavesRoot_examples (numeralName, true, [1]) (by simp)) rfl ?_ fun P hv => ?_⟩
  · rw [← meaning_values]
    rfl
  · obtain ⟨⟨entries, heq, -⟩, -⟩ := hv
    cases heq

theorem changesValues_keywordTarget : keywordTarget.Ordinary ∧ keywordTarget.ChangesValues {} := by
  refine ⟨ordinary_of_looks (by decide), changesValues_choice (v := .string "")
    (leavesRoot_examples (keywordTarget, true, [1]) (by simp)) rfl ?_ fun P hv => ?_⟩
  · rw [← meaning_values]
    rfl
  · obtain ⟨id, hname, -⟩ := hv
    rw [name?_simplify] at hname
    have hunnamed : ∀ id < keywordTarget.size, keywordTarget.name? id = none := by decide
    have hnone := hunnamed id (lt_size_of_name? hname)
    cases hnone.symm.trans hname

theorem changesValues_objectEntry : objectEntry.Ordinary ∧ objectEntry.ChangesValues {} := by
  refine ⟨ordinary_of_looks (by decide), changesValues_choice (v := .object [("a", .null)])
    (leavesRoot_examples (objectEntry, true, [1]) (by simp)) rfl ?_ fun P hv => ?_⟩
  · rw [← meaning_values]
    exact ⟨⟨_, rfl, fun f hf => absurd hf List.not_mem_nil⟩, fun b hb => absurd hb List.not_mem_nil⟩
  · obtain ⟨entry, hentry, heq⟩ := hv
    rw [List.mem_singleton.1 hentry] at heq
    cases heq

/-- The unnamed class is dropped, although the named one asks for more. -/
theorem changesValues_spelledOut : spelledOut.Ordinary ∧ spelledOut.ChangesValues {} := by
  refine ⟨ordinary_of_looks (by decide), (leavesRoot_examples (spelledOut, true, [1])
    (by simp)).changesValues (v := .object []) fun hiff => ?_⟩
  have hbefore : Json.object [] ∈ spelledOut.values 0 := by
    refine (mem_values_iff true [1, 2] rfl _).2 ⟨2, by simp, ?_⟩
    rw [← meaning_values]
    refine ⟨⟨[], rfl, fun f hf => ?_⟩, fun b hb => absurd hb List.not_mem_nil⟩
    rw [List.mem_singleton.1 hf]
    constructor
    · intro json hget
      cases hget
    · intro hrequired
      cases hrequired
  have hclass : ∀ id members bases, spelledOut.kind id = .record members bases →
      (spelledOut.simplify {}).kind id = .record members bases := by
    intro id members bases hkind
    rcases kind_simplify spelledOut {} id with hsame | ⟨hsome, -⟩
    · rw [hsame, hkind]
    · rw [hkind] at hsome
      cases hsome
  obtain ⟨m, hm, hv⟩ := hiff.2 hbefore
  rw [List.mem_singleton.1 hm, ← meaning_values, meaning, hclass 1 _ _ rfl] at hv
  have hbase := hv.2 3 (List.mem_singleton_self 3)
  rw [← meaning_values, meaning, hclass 3 _ _ rfl] at hbase
  obtain ⟨⟨entries, hentries, hfields⟩, -⟩ := hbase
  cases hentries
  exact absurd ((hfields _ (List.mem_singleton_self _)).2 rfl) (by decide)

/-- Both members are dropped, so that the intersection admits everything. -/
theorem changesValues_aliasCycle : aliasCycle.Ordinary ∧ aliasCycle.ChangesValues {} := by
  have hordinary : aliasCycle.Ordinary := ordinary_of_looks (by decide)
  refine ⟨hordinary, (leavesRoot_examples (aliasCycle, false, []) (by simp)).changesValues
    (v := .null) fun hiff => ?_⟩
  have hafter : Json.null ∈ operationValues false (aliasCycle.simplify {}).values [] :=
    fun m hm => absurd hm List.not_mem_nil
  have hbefore : Json.null ∈ aliasCycle.values 0 := hiff.1 hafter
  rw [mem_values_iff false [2, 1] rfl] at hbefore
  exact (hordinary.describable (by decide)).not_renames_self (hbefore 1 (by simp))
    (.single (Or.inl rfl))

/-- Two classes of one structure, and a reference to the name of the second one. -/
def mergedTarget : TypeGraph where
  nodes := #[
    { kind := .record [{ key := "a", type := 1 }, { key := "b", type := 2 },
        { key := "c", type := 3 }] [] },
    { kind := .record [] [], name := some "A" },
    { kind := .record [] [], name := some "B" },
    { kind := .reference "B" }]
  root := 0

/-- The second class loses its name, so that nothing is left that the reference stands for. -/
theorem changesValues_mergedTarget :
    mergedTarget.Ordinary ∧ mergedTarget.ChangesValues { deduplicateClasses := true } := by
  have hrun : (mergedTarget.optimize { deduplicateClasses := true }).toOption.any (fun h =>
      decide ((h.kind 3).target? = some "B" ∧ (∀ id < h.size, h.name? id ≠ some "B") ∧
        3 ∈ h.reachable)) = true := by decide +kernel
  obtain ⟨h, hok, hchecks⟩ := exists_ok_of_any hrun
  obtain ⟨htarget, hnames, hreached⟩ := of_decide_eq_true hchecks
  refine ⟨ordinary_of_looks (by decide), h, hok, 3, (mem_reachable_iff _ _).1 hreached,
    fun heq => ?_⟩
  have hbefore : Json.object [] ∈ mergedTarget.values 3 := by
    rw [← meaning_values]
    refine ⟨2, rfl, ?_⟩
    rw [← meaning_values]
    exact ⟨⟨[], rfl, fun f hf => absurd hf List.not_mem_nil⟩, fun b hb => absurd hb List.not_mem_nil⟩
  have hkind : h.kind 3 = .reference "B" := by
    cases hkind : h.kind 3 with
    | reference target =>
      rw [hkind] at htarget
      cases htarget
      rfl
    | _ =>
      rw [hkind] at htarget
      cases htarget
  rw [← heq, ← meaning_values, meaning, hkind] at hbefore
  obtain ⟨id, hname, -⟩ := hbefore
  exact hnames id (lt_size_of_name? hname) hname

/-- **None of the conditions can be left out**: a class with bases may be spelled out by another
member, a type may be only another name for itself, names may be words of other types, enumerations
may hold objects, and a reference may stand for a class that is merged. -/
theorem ordinary_changesValues :
    (spelledOut.Ordinary ∧ spelledOut.ChangesValues {}) ∧
      (aliasCycle.Ordinary ∧ aliasCycle.ChangesValues {}) ∧
      (keywordName.Ordinary ∧ keywordName.ChangesValues {}) ∧
      (numeralName.Ordinary ∧ numeralName.ChangesValues {}) ∧
      (keywordTarget.Ordinary ∧ keywordTarget.ChangesValues {}) ∧
      (objectEntry.Ordinary ∧ objectEntry.ChangesValues {}) ∧
      (mergedTarget.Ordinary ∧ mergedTarget.ChangesValues { deduplicateClasses := true }) :=
  ⟨changesValues_spelledOut, changesValues_aliasCycle, changesValues_keywordName,
    changesValues_numeralName, changesValues_keywordTarget, changesValues_objectEntry,
    changesValues_mergedTarget⟩

end TypeGraph
end SchemaTypings

