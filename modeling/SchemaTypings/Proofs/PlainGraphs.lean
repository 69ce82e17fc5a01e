import SchemaTypings.Proofs.MergedClasses
import SchemaTypings.Proofs.Preservation

/-! # Graphs that are optimized without loss

Where every class with bases has a name, and the named members of unions and intersections are
classes without bases, the texts that optimizing compares say all that the types ask for.
-/
namespace SchemaTypings
namespace TypeGraph

/-- **A graph whose texts leave nothing out** where optimizing compares them. -/
structure Plain (g : TypeGraph) : Prop where
  named : ∀ id, g.name? id = none → (g.kind id).bases = []
  members : ∀ id isUnion members, (g.kind id).operands? = some (isUnion, members) →
    ∀ m ∈ members, g.name? m ≠ none → (g.kind m).isRecord = true ∧ (g.kind m).bases = []

variable {g : TypeGraph} {o : Options} {id : TypeId}

/-- A graph is plain where each of its types looks so. -/
theorem plain_of_looks (h : ∀ id < g.size, (g.name? id = none → (g.kind id).bases = []) ∧
    ∀ operation ∈ (g.kind id).operands?, ∀ m ∈ operation.2, g.name? m ≠ none →
      (g.kind m).isRecord = true ∧ (g.kind m).bases = []) : g.Plain := by
  refine ⟨fun id hname => ?_, fun id isUnion members hoperands => ?_⟩
  · rcases Nat.lt_or_ge id g.size with hlt | hle
    · exact (h id hlt).1 hname
    · rw [kind_of_size_le hle]
      rfl
  · refine (h id (Nat.lt_of_not_le fun hle => ?_)).2 _ hoperands
    rw [kind_of_size_le hle] at hoperands
    cases hoperands

theorem Plain.not_hidesBases (h : g.Plain) {m : TypeId} (hm : g.name? m = none) :
    ¬ g.HidesBases m :=
  fun ⟨n, hn, hbases⟩ => hbases (h.named n (unnamedStep_of_writesOut hm hn).1)

theorem Plain.not_hidesBases_of_bases (h : g.Plain) {m : TypeId} (hm : (g.kind m).bases = []) :
    ¬ g.HidesBases m := by
  rintro ⟨n, hn, hbases⟩
  rcases Relation.reflTransGen_iff_eq_or_transGen.1 hn with rfl | hn
  · exact hbases hm
  · exact hbases (h.named n (name?_of_inlined hn))

/-- The named members that are left after flattening are classes without bases. -/
theorem Plain.of_mem_flatMembers (h : g.Plain) {m : TypeId} (hm : m ∈ g.flatMembers id)
    (hname : g.name? m ≠ none) : (g.kind m).isRecord = true ∧ (g.kind m).bases = [] := by
  cases hoperands : (g.kind id).operands? with
  | none =>
    rw [flatMembers, hoperands] at hm
    cases hm
  | some operation =>
    obtain ⟨isUnion, members⟩ := operation
    rcases mem_flatMembers hoperands hm with hm | ⟨n, -, -, -, hinner, hm⟩
    · exact h.members id isUnion members hoperands m hm hname
    · exact h.members n isUnion _ hinner m hm hname

/-- A class is no other name for a type. -/
theorem not_renames_of_isRecord {k l : TypeId} (h : (g.kind k).isRecord = true) :
    ¬ g.Renames k l := by
  obtain ⟨members, bases, hkind⟩ := TypeKind.eq_record h
  rintro (hunion | hintersection | ⟨name, hreference, -⟩)
  · rw [hkind] at hunion
    cases hunion
  · rw [hkind] at hintersection
    cases hintersection
  · rw [hkind] at hreference
    cases hreference

theorem Plain.regular (h : g.Plain) (o : Options) (id : TypeId) : g.Regular o id := by
  have hnamed : ∀ {k}, (g.name? k).isSome = true → g.name? k ≠ none := fun hsome hnone => by
    rw [hnone] at hsome
    cases hsome
  constructor
  case alike => exact fun x _ _ _ _ _ hname => h.not_hidesBases hname
  case spelled =>
    intro x _ k hk hspells
    have hplain := h.of_mem_flatMembers (sievedMembers_subset hk) (hnamed hspells.named)
    exact ⟨h.not_hidesBases hspells.unnamed, h.not_hidesBases_of_bases hplain.2⟩
  case grounded =>
    intro _ _ x _ k hk hspells hcycle
    have hplain := h.of_mem_flatMembers (sievedMembers_subset hk) (hnamed hspells.named)
    obtain ⟨l, hkl, -⟩ := Relation.TransGen.head'_iff.1 hcycle
    exact not_renames_of_isRecord hplain.1 hkl

theorem Plain.setKind (h : g.Plain) {kind : TypeKind} (hkind : g.Simplifies o id kind) :
    (g.setKind id kind).Plain := by
  have hchildren := hkind.mem_flatMembers
  have hplain : kind.bases = [] := by
    cases hkind <;> rfl
  have hoperation : (g.kind id).isRecord = false := by
    cases hkind with
    | absorbed h | union h | vanished h | intersection h =>
      rw [h]
      rfl
  -- a class is not touched
  have hrecord : ∀ m, (g.kind m).isRecord = true → (g.setKind id kind).kind m = g.kind m := by
    intro m hm
    rw [kind_setKind, if_neg]
    rintro ⟨rfl, -⟩
    rw [hoperation] at hm
    cases hm
  constructor
  case named =>
    intro m hm
    rw [name?_setKind] at hm
    rw [kind_setKind]
    split
    · exact hplain
    · exact h.named m hm
  case members =>
    intro a isUnion members hoperands m hm hname
    rw [name?_setKind] at hname
    have hbefore : (g.kind m).isRecord = true ∧ (g.kind m).bases = [] := by
      rw [kind_setKind] at hoperands
      split at hoperands
      · refine h.of_mem_flatMembers (hchildren m ?_) hname
        cases kind with
        | union _ | intersection _ =>
          cases hoperands
          exact hm
        | _ => cases hoperands
      · exact h.members a isUnion members hoperands m hm hname
    rw [hrecord m hbefore.1]
    exact hbefore

/-- **A plain graph is simplified regularly** and stays plain. -/
theorem Plain.regularSteps (h : g.Plain) (hg : g.Describable) (ids : List TypeId) :
    RegularSteps o g ids ∧ (ids.foldl (simplifyAt o) g).Plain := by
  induction ids generalizing g with
  | nil => exact ⟨trivial, h⟩
  | cons id rest ih =>
    have hstep : (simplifyAt o g id).Plain ∧ (simplifyAt o g id).Describable := by
      rcases hg.simplifyAt_cases o id with hsame | ⟨kind, hset, -, hkind⟩
      · rw [hsame]
        exact ⟨h, hg⟩
      · rw [hset]
        exact ⟨h.setKind hkind, hg.setKind hkind⟩
    obtain ⟨hrest, hplain⟩ := ih hstep.1 hstep.2
    exact ⟨⟨h.regular o id, hrest⟩, hplain⟩

/-- In a plain graph without references merging loses nothing. -/
theorem Plain.mergesPlainly (h : g.Plain) (o : Options)
    (hreferences : ∀ id target, g.kind id ≠ .reference target) : g.MergesPlainly o where
  shown := fun _ _ _ _ =>
    ⟨fun m hm => h.named m (name?_of_inlined hm), fun _ _ hname => h.not_hidesBases hname⟩
  unreferenced := fun _ _ name _ id => hreferences id name

end TypeGraph
end SchemaTypings
