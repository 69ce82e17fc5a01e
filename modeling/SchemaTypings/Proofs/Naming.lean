import SchemaTypings.Proofs.Normalizing

/-! # Which schemas get a name

Naming goes over the graph several times and changes nothing but names.  A schema is named when it
has a name of its own, which is decided schema by schema, or when it is picked to break a recorded
cycle, which is decided cycle by cycle in the order of recording.
-/
namespace SchemaTypings
namespace SchemaGraph

/-- Whether the path of keys leaves a name for a schema. -/
def hasUsableHint (g : SchemaGraph) (id : SchemaId) : Bool :=
  (((g.node id).nameHint.map Identifier.ofText).bind Identifier.nonEmpty).isSome

/-- Whether a schema is a class or an enumeration by its shape. -/
def isShaped (g : SchemaGraph) (id : SchemaId) : Bool :=
  (g.node id).isClassShaped || (g.node id).isEnumShaped

/-- **Whether a schema has a name of its own**: the root by its own means, any other schema from
what it says of itself or what leads to it, and classes and enumerations from the path of keys. -/
def hasOwnName (g : SchemaGraph) (rootName : String) (id : SchemaId) : Bool :=
  id < g.size && ((id = g.root && (g.derivableName? id rootName).isSome) ||
    (id ≠ g.root && (g.explicitName? id).isSome) || (g.isShaped id && g.hasUsableHint id))

/-- The members picked to break cycles none of whose members is named before: the first of each
that has a usable hint. -/
def breakersFrom (g : SchemaGraph) : (SchemaId → Bool) → List (List SchemaId) → List SchemaId
  | _, [] => []
  | named, cycle :: rest =>
    if cycle.any named then breakersFrom g named rest
    else
      match cycle.find? g.hasUsableHint with
      | none => breakersFrom g named rest
      | some id => id :: breakersFrom g (fun other => named other || other = id) rest

/-- **The schemas that are named only to break a recorded cycle.** -/
def breakers (g : SchemaGraph) (rootName : String) : List SchemaId :=
  g.breakersFrom (g.hasOwnName rootName) g.cycles

/-! ### Changing names alone -/

/-- The same graph up to standalone names. -/
structure Renames (g h : SchemaGraph) : Prop where
  size : h.size = g.size
  root : h.root = g.root
  cycles : h.cycles = g.cycles
  texts : h.referenceTexts = g.referenceTexts
  node : ∀ id, h.node id = { g.node id with standaloneName := (h.node id).standaloneName }

namespace Renames

variable {g h k : SchemaGraph}

theorem refl (g : SchemaGraph) : Renames g g := ⟨rfl, rfl, rfl, rfl, fun _ => rfl⟩

theorem trans (hgh : Renames g h) (hhk : Renames h k) : Renames g k where
  size := hhk.size.trans hgh.size
  root := hhk.root.trans hgh.root
  cycles := hhk.cycles.trans hgh.cycles
  texts := hhk.texts.trans hgh.texts
  node := fun id => by rw [hhk.node id, hgh.node id]

theorem children (hgh : Renames g h) (id : SchemaId) : h.children id = g.children id := by
  rw [SchemaGraph.children, hgh.node id]
  rfl

theorem hasUsableHint (hgh : Renames g h) (id : SchemaId) :
    h.hasUsableHint id = g.hasUsableHint id := by
  rw [SchemaGraph.hasUsableHint, hgh.node id]
  rfl

theorem isShaped (hgh : Renames g h) (id : SchemaId) : h.isShaped id = g.isShaped id := by
  rw [SchemaGraph.isShaped, hgh.node id]
  rfl

theorem explicitName? (hgh : Renames g h) (id : SchemaId) :
    h.explicitName? id = g.explicitName? id := by
  rw [SchemaGraph.explicitName?, SchemaGraph.referenceName?, hgh.node id, hgh.texts]
  rfl

theorem derivableName? (hgh : Renames g h) (id : SchemaId) (rootName : String) :
    h.derivableName? id rootName = g.derivableName? id rootName := by
  rw [SchemaGraph.derivableName?, hgh.explicitName?, hgh.node id, hgh.root]
  rfl

end Renames

namespace Naming

variable {g : SchemaGraph} {n : Naming}

theorem renames_assign (n : Naming) (id : SchemaId) (name : String) :
    Renames n.graph (n.assign id name).graph where
  size := size_modifyNode ..
  root := rfl
  cycles := rfl
  texts := rfl
  node := by
    intro other
    simp only [assign, SchemaGraph.modifyNode, SchemaGraph.node, Array.getElem?_modify]
    by_cases hid : id = other
    · cases n.graph.nodes[other]? <;> simp [hid]
    · simp [hid]

theorem isNamed_assign (n : Naming) (id : SchemaId) (name : String) (other : SchemaId) :
    (n.assign id name).isNamed other =
      (n.isNamed other || (id = other && other < n.graph.size)) := by
  simp only [isNamed, assign, SchemaGraph.modifyNode, SchemaGraph.node, Array.getElem?_modify,
    SchemaGraph.size]
  by_cases hid : id = other
  · by_cases hlt : other < n.graph.nodes.size
    · simp [hid, hlt]
    · simp [hid, hlt]
  · simp [hid]

theorem lt_size_of_hasUsableHint {id : SchemaId} (h : g.hasUsableHint id = true) :
    id < g.size := by
  refine Nat.not_le.1 fun hle => ?_
  rw [hasUsableHint, SchemaGraph.node, Array.getElem?_eq_none hle] at h
  cases h

/-- Names in use decide which name a hint gives, but not whether it gives one. -/
theorem isSome_hintName? (n : Naming) (id : SchemaId) :
    (n.hintName? id).isSome = n.graph.hasUsableHint id := by
  unfold hintName? hasUsableHint
  split
  · next hnone => rw [hnone]
  · next hint hsome =>
    rw [hsome]
    split
    · split <;> rfl
    · rfl

theorem renames_synthesize (n : Naming) (id : SchemaId) :
    Renames n.graph (n.synthesize id).graph := by
  unfold synthesize
  split
  · exact renames_assign ..
  · exact .refl _

theorem isNamed_synthesize (n : Naming) (id other : SchemaId) :
    (n.synthesize id).isNamed other =
      (n.isNamed other || (id = other && n.graph.hasUsableHint id)) := by
  have hsome := n.isSome_hintName? id
  unfold synthesize
  split
  · next name hname =>
    rw [hname] at hsome
    have hlt := lt_size_of_hasUsableHint hsome.symm
    rw [isNamed_assign, ← hsome]
    by_cases hid : id = other
    · simp [hid, hid ▸ hlt]
    · simp [hid]
  · next hname =>
    rw [hname] at hsome
    simp [← hsome]

/-! ### The passes -/

theorem renames_nameRoot (rootName : String) (n : Naming) :
    Renames n.graph (n.nameRoot rootName).graph := by
  unfold nameRoot
  split
  · exact renames_assign ..
  · exact .refl _

theorem isNamed_nameRoot (rootName : String) (n : Naming) (other : SchemaId) :
    (n.nameRoot rootName).isNamed other =
      (n.isNamed other || (other < n.graph.size && (other = n.graph.root &&
        (n.graph.derivableName? other rootName).isSome))) := by
  unfold nameRoot
  by_cases hroot : n.graph.root = other
  · subst hroot
    cases hname : n.graph.derivableName? n.graph.root rootName with
    | none => simp
    | some name => simp [isNamed_assign]
  · have hroot' : ¬ other = n.graph.root := fun h => hroot h.symm
    split
    · simp [isNamed_assign, hroot, hroot']
    · simp [hroot']

theorem foldl_assign (pairs : List (SchemaId × String)) (n : Naming) :
    Renames n.graph (pairs.foldl (fun n (id, name) => n.assign id name) n).graph ∧
      ∀ other, (pairs.foldl (fun n (id, name) => n.assign id name) n).isNamed other =
        (n.isNamed other || (other < n.graph.size && pairs.any fun pair => pair.1 = other)) := by
  induction pairs generalizing n with
  | nil => exact ⟨.refl _, fun other => by simp⟩
  | cons pair rest ih =>
    obtain ⟨hrenames, hnamed⟩ := ih (n.assign pair.1 pair.2)
    have hstep := n.renames_assign pair.1 pair.2
    refine ⟨hstep.trans hrenames, fun other => ?_⟩
    rw [List.foldl_cons, hnamed, isNamed_assign, hstep.size, List.any_cons]
    by_cases hlt : other < n.graph.size <;> simp [hlt, Bool.or_assoc]

theorem nameExplicit_spec (n : Naming) :
    Renames n.graph n.nameExplicit.graph ∧ ∀ other, n.nameExplicit.isNamed other =
      (n.isNamed other || (other < n.graph.size && (other ≠ n.graph.root &&
        (n.graph.explicitName? other).isSome))) := by
  have hfold := foldl_assign ((n.graph.ids.filter (· ≠ n.graph.root)).filterMap fun id =>
    (n.graph.explicitName? id).map fun name => (id, name)) n
  refine ⟨hfold.1, fun other => ?_⟩
  have hother := hfold.2 other
  unfold nameExplicit
  rw [hother, Bool.eq_iff_iff]
  simp only [Bool.or_eq_true, Bool.and_eq_true, decide_eq_true_eq, List.any_eq_true,
    List.mem_filterMap, List.mem_filter, ids, List.mem_range, Option.map_eq_some_iff,
    Option.isSome_iff_exists]
  constructor
  · rintro (h | ⟨hlt, ⟨pair, ⟨id, ⟨-, hne⟩, name, hname, rfl⟩, rfl⟩⟩)
    · exact Or.inl h
    · exact Or.inr ⟨hlt, hne, name, hname⟩
  · rintro (h | ⟨hlt, hne, name, hname⟩)
    · exact Or.inl h
    · exact Or.inr ⟨hlt, (other, name), ⟨other, ⟨hlt, hne⟩, name, hname, rfl⟩, rfl⟩

theorem nameIfShaped_spec {g : SchemaGraph} {n : Naming} (hn : Renames g n.graph)
    (id : SchemaId) :
    Renames g (n.nameIfShaped id).graph ∧ ∀ other, (n.nameIfShaped id).isNamed other =
      (n.isNamed other || (id = other && (g.isShaped other && g.hasUsableHint other))) := by
  have hshape : ((n.graph.node id).isClassShaped || (n.graph.node id).isEnumShaped) =
      g.isShaped id := hn.isShaped id
  simp only [nameIfShaped, hshape]
  split
  · next hskip =>
    refine ⟨hn, fun other => ?_⟩
    by_cases hid : id = other
    · subst hid
      have hskip : n.isNamed id = true ∨ g.isShaped id = false := by
        simpa [isNamed] using hskip
      rcases hskip with h | h <;> simp [h]
    · simp [hid]
  · next hopen =>
    refine ⟨hn.trans (n.renames_synthesize id), fun other => ?_⟩
    rw [isNamed_synthesize, hn.hasUsableHint]
    by_cases hid : id = other
    · subst hid
      have hshaped : g.isShaped id = true := by
        by_contra hnot
        exact hopen (by simp [hnot])
      simp [hshaped]
    · simp [hid]

theorem nameShaped_spec {g : SchemaGraph} {n : Naming} (hn : Renames g n.graph) :
    Renames g n.nameShaped.graph ∧ ∀ other, n.nameShaped.isNamed other =
      (n.isNamed other || (g.isShaped other && g.hasUsableHint other)) := by
  -- by induction on the ids that are left to visit
  have hfold : ∀ (ids : List SchemaId) (m : Naming), Renames g m.graph →
      Renames g (ids.foldl nameIfShaped m).graph ∧
        ∀ other, (ids.foldl nameIfShaped m).isNamed other =
          (m.isNamed other || (ids.contains other &&
            (g.isShaped other && g.hasUsableHint other))) := by
    intro ids
    induction ids with
    | nil => exact fun m hm => ⟨hm, fun other => by simp⟩
    | cons id rest ih =>
      intro m hm
      obtain ⟨hstep, hstepNamed⟩ := nameIfShaped_spec hm id
      obtain ⟨hrenames, hnamed⟩ := ih _ hstep
      refine ⟨hrenames, fun other => ?_⟩
      rw [List.foldl_cons, hnamed, hstepNamed, List.contains_cons, Bool.or_assoc,
        ← Bool.and_or_distrib_right]
      congr 3
      rw [Bool.eq_iff_iff, beq_iff_eq, decide_eq_true_iff]
      exact eq_comm
  obtain ⟨hrenames, hnamed⟩ := hfold n.graph.ids n hn
  refine ⟨hrenames, fun other => (hnamed other).trans ?_⟩
  -- a schema with a usable hint is among the ids
  cases hhint : g.hasUsableHint other with
  | false => simp
  | true =>
    have hmem : n.graph.ids.contains other = true := by
      simpa [ids, hn.size] using lt_size_of_hasUsableHint hhint
    rw [hmem, Bool.true_and]

/-- One cycle: its first member with a usable hint is named. -/
theorem nameFirst_spec {g : SchemaGraph} {n : Naming} (hn : Renames g n.graph)
    (cycle : List SchemaId) :
    Renames g (n.nameFirst cycle).graph ∧ ∀ other, (n.nameFirst cycle).isNamed other =
      (n.isNamed other || cycle.find? g.hasUsableHint = some other) := by
  induction cycle with
  | nil => exact ⟨hn, fun other => by simp [nameFirst]⟩
  | cons id rest ih =>
    have hsome := n.isSome_hintName? id
    rw [hn.hasUsableHint] at hsome
    unfold nameFirst
    split
    · next name hname =>
      rw [hname] at hsome
      refine ⟨hn.trans (n.renames_assign id name), fun other => ?_⟩
      rw [isNamed_assign, List.find?_cons_of_pos hsome.symm, hn.size]
      by_cases hid : id = other
      · simp [hid, hid ▸ lt_size_of_hasUsableHint hsome.symm]
      · simp [hid]
    · next hname =>
      rw [hname] at hsome
      rw [List.find?_cons_of_neg (by simp [← hsome])]
      exact ih

theorem nameCycles_spec {g : SchemaGraph} {n : Naming} (hn : Renames g n.graph) :
    Renames g n.nameCycles.graph ∧ ∀ other, n.nameCycles.isNamed other =
      (n.isNamed other || (g.breakersFrom n.isNamed g.cycles).contains other) := by
  -- by induction on the cycles that are left to look at
  have hfold : ∀ (cycles : List (List SchemaId)) (m : Naming), Renames g m.graph →
      Renames g (cycles.foldl breakCycle m).graph ∧
        ∀ other, (cycles.foldl breakCycle m).isNamed other =
          (m.isNamed other || (g.breakersFrom m.isNamed cycles).contains other) := by
    intro cycles
    induction cycles with
    | nil => exact fun m hm => ⟨hm, fun other => by simp [breakersFrom]⟩
    | cons cycle rest ih =>
      intro m hm
      rw [List.foldl_cons, breakCycle]
      unfold breakersFrom
      split
      · exact ih m hm
      · obtain ⟨hfirst, hfirstNamed⟩ := nameFirst_spec hm cycle
        obtain ⟨hrenames, hnamed⟩ := ih _ hfirst
        refine ⟨hrenames, fun other => ?_⟩
        rw [hnamed, hfirstNamed]
        split
        · next hnone =>
          have heq : (m.nameFirst cycle).isNamed = m.isNamed := by
            funext other
            rw [hfirstNamed, hnone]
            simp
          simp [heq, hnone]
        · next id hsome =>
          have heq : (m.nameFirst cycle).isNamed =
              fun other => m.isNamed other || other = id := by
            funext other
            rw [hfirstNamed, hsome]
            simp [eq_comm]
          rw [heq, hsome, List.contains_cons, Bool.or_assoc]
          congr 2
          rw [Bool.eq_iff_iff, beq_iff_eq, decide_eq_true_iff, Option.some.injEq]
          exact eq_comm
  unfold nameCycles
  rw [hn.cycles]
  exact hfold g.cycles n hn

end Naming

/-- Naming changes nothing but names. -/
theorem renames_assignNames (rootName : String) (g : SchemaGraph) :
    Renames g (g.assignNames rootName) := by
  have hroot := Naming.renames_nameRoot rootName ⟨g, []⟩
  have hexplicit := hroot.trans (Naming.nameRoot rootName ⟨g, []⟩).nameExplicit_spec.1
  exact (Naming.nameCycles_spec (Naming.nameShaped_spec hexplicit).1).1

/-- **Which schemas are named**: those that have a name of their own, and those that are picked to
break a recorded cycle. -/
theorem isSome_standaloneName_assignNames {g : SchemaGraph}
    (hg : ∀ id, (g.node id).standaloneName = none) (rootName : String) (id : SchemaId) :
    ((g.assignNames rootName).node id).standaloneName.isSome =
      (g.hasOwnName rootName id || (g.breakers rootName).contains id) := by
  have hroot := Naming.renames_nameRoot rootName ⟨g, []⟩
  obtain ⟨hexplicit, hexplicitNamed⟩ := (Naming.nameRoot rootName ⟨g, []⟩).nameExplicit_spec
  obtain ⟨hshaped, hshapedNamed⟩ := Naming.nameShaped_spec (hroot.trans hexplicit)
  obtain ⟨-, hnamed⟩ := Naming.nameCycles_spec hshaped
  have hown : (Naming.nameRoot rootName ⟨g, []⟩).nameExplicit.nameShaped.isNamed =
      g.hasOwnName rootName := by
    funext other
    have hstart : Naming.isNamed ⟨g, []⟩ other = false := by simp [Naming.isNamed, hg]
    rw [hshapedNamed, hexplicitNamed, Naming.isNamed_nameRoot, hstart, hroot.size, hroot.root,
      hroot.explicitName?]
    unfold hasOwnName
    by_cases hlt : other < g.size
    · simp [hlt]
    · have hhint : g.hasUsableHint other = false := by
        by_contra h
        exact hlt (Naming.lt_size_of_hasUsableHint (by simpa using h))
      simp [hlt, hhint]
  rw [hown] at hnamed
  exact hnamed id

end SchemaGraph
end SchemaTypings
