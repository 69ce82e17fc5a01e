import SchemaTypings.Proofs.Reachability
import SchemaTypings.Proofs.Sieve
import SchemaTypings.Proofs.Simplification

/-! # Operations that simplification leaves alone

A union or intersection is settled when nothing can be taken into it, nothing in it absorbs or
vanishes, and no two of its members are written alike.  Simplification leaves a graph as it is
exactly when this holds of every operation that is reached: the sieve brings its members apart in
one go, and drops nothing from members that are apart.
-/
namespace SchemaTypings
namespace TypeGraph

/-- **Nothing is left to take into an operation**: it has no unnamed member of its own kind, none
that absorbs it or vanishes, and no `object` beside a class in an intersection. -/
structure IsFlat (g : TypeGraph) (isUnion : Bool) (members : List TypeId) : Prop where
  nested : ∀ m ∈ members, g.name? m = none → ∀ inner, (g.kind m).operands? ≠ some (isUnion, inner)
  known : ∀ m ∈ members, g.kind m ≠ .any ∧ g.kind m ≠ .unknown
  narrow : isUnion = false → ∀ m ∈ members, g.kind m = .object →
    ∀ other ∈ members, (g.kind other).isRecord = false

/-- **The members of an operation are apart**: no two are written alike, none without a name is
written as the structure of one with a name, and an intersection has some. -/
structure AreApart (g : TypeGraph) (o : Options) (isUnion : Bool) (members : List TypeId) :
    Prop where
  texts : (members.map (g.usedText o)).Nodup
  spelled : ∀ x ∈ members, ∀ k ∈ members, ¬ g.SpellsOut o x k
  nonempty : isUnion = false → members ≠ []

/-- Every operation that is reached is flat. -/
def Flat (g : TypeGraph) : Prop :=
  ∀ id isUnion members, g.Reached id → (g.kind id).operands? = some (isUnion, members) →
    g.IsFlat isUnion members

/-- The members of every operation that is reached are apart. -/
def Apart (g : TypeGraph) (o : Options) : Prop :=
  ∀ id isUnion members, g.Reached id → (g.kind id).operands? = some (isUnion, members) →
    g.AreApart o isUnion members

variable {g : TypeGraph} {o : Options} {id : TypeId} {isUnion : Bool} {members : List TypeId}

/-! ### Flattening and narrowing -/

/-- What flattening takes in is all of an unnamed operation of the same kind. -/
theorem flattenMember_of_nested {m : TypeId} {inner : List TypeId} (hne : m ≠ id)
    (hname : g.name? m = none) (hinner : (g.kind m).operands? = some (isUnion, inner)) :
    flattenMember g id isUnion m = inner := by
  unfold flattenMember
  cases hkind : g.kind m with
  | union _ | intersection _ =>
    rw [hkind] at hinner
    cases hinner
    simp [hne, hname]
  | _ =>
    rw [hkind] at hinner
    cases hinner

/-- Flattening keeps any other member. -/
theorem flattenMember_of_flat {m : TypeId}
    (h : g.name? m = none → ∀ inner, (g.kind m).operands? ≠ some (isUnion, inner)) :
    flattenMember g id isUnion m = [m] := by
  rcases flattenMember_cases g id isUnion m with hself | ⟨-, hname, hinner⟩
  · exact hself
  · exact absurd hinner (h hname _)

/-- **What flattening brings** is a member that is not taken apart, or a member of one that is. -/
theorem flat_cases (h : (g.kind id).operands? = some (isUnion, members)) {m : TypeId}
    (hm : m ∈ g.flatMembers id) :
    (m ∈ members ∧ (m ≠ id → g.name? m = none →
      ∀ inner, (g.kind m).operands? ≠ some (isUnion, inner))) ∨
    ∃ n ∈ members, n ≠ id ∧ g.name? n = none ∧
      ∃ inner, (g.kind n).operands? = some (isUnion, inner) ∧ m ∈ inner := by
  rw [flatMembers_eq h] at hm
  obtain ⟨n, hn, hm⟩ := List.mem_flatMap.1 hm
  by_cases htaken : n ≠ id ∧ g.name? n = none ∧
      ∃ inner, (g.kind n).operands? = some (isUnion, inner)
  · obtain ⟨hne, hname, inner, hinner⟩ := htaken
    rw [flattenMember_of_nested hne hname hinner] at hm
    exact Or.inr ⟨n, hn, hne, hname, inner, hinner, hm⟩
  · left
    rcases flattenMember_cases g id isUnion n with hself | ⟨hne, hname, hinner⟩
    · rw [hself, List.mem_singleton] at hm
      subst hm
      exact ⟨hn, fun hne hname inner hinner => htaken ⟨hne, hname, inner, hinner⟩⟩
    · exact absurd ⟨hne, hname, _, hinner⟩ htaken

theorem IsFlat.flatMembers_eq (hflat : g.IsFlat isUnion members)
    (h : (g.kind id).operands? = some (isUnion, members)) : g.flatMembers id = members := by
  rw [TypeGraph.flatMembers_eq h]
  have hself : ∀ m ∈ members, flattenMember g id isUnion m = [m] :=
    fun m hm => flattenMember_of_flat (hflat.nested m hm)
  rw [List.flatMap_congr hself, List.flatMap_singleton']

theorem IsFlat.narrowMembers_eq (hflat : g.IsFlat false members) :
    narrowMembers g members = members := by
  refine List.filter_eq_self.2 fun m hm => ?_
  have hunknown : (g.kind m).isUnknown = false :=
    Bool.eq_false_iff.2 fun h => (hflat.known m hm).2 (TypeKind.eq_unknown h)
  rw [hunknown, Bool.not_false, Bool.true_and, Bool.not_eq_true', Bool.and_eq_false_iff]
  by_cases hobject : (g.kind m).isObject = true
  · right
    refine List.any_eq_false.2 fun other hother => ?_
    rw [hflat.narrow rfl m hm (TypeKind.eq_object hobject) other hother]
    exact Bool.false_ne_true
  · exact Or.inl (Bool.eq_false_iff.2 hobject)

theorem IsFlat.sievedMembers_eq (hflat : g.IsFlat isUnion members)
    (h : (g.kind id).operands? = some (isUnion, members)) : g.sievedMembers id = members := by
  rw [sievedMembers, h]
  cases isUnion with
  | true => exact hflat.flatMembers_eq h
  | false =>
    change narrowMembers g (g.flatMembers id) = members
    rw [hflat.flatMembers_eq h, hflat.narrowMembers_eq]

/-! ### The sieve -/

/-- **What the sieve keeps is apart**, and members that are apart are all kept. -/
theorem CyclesNamed.after_distinctMembers_apart (hg : g.CyclesNamed) {named : List String}
    {members : List TypeId} : ∀ (seen : List String) {s : Texts}, g.Recalls o s →
      After (distinctMembers g o named seen members) s fun kept t => g.Recalls o t ∧
        (kept.map (g.usedText o)).Nodup ∧
        (∀ m ∈ kept, g.usedText o m ∉ seen ∧ ¬ (g.name? m = none ∧ g.usedText o m ∈ named)) ∧
        ((members.map (g.usedText o)).Nodup →
          (∀ m ∈ members, g.usedText o m ∉ seen ∧ ¬ (g.name? m = none ∧ g.usedText o m ∈ named)) →
          kept = members) := by
  induction members with
  | nil =>
    intro seen s hs
    rw [distinctMembers, after_pure]
    exact ⟨hs, List.nodup_nil, fun m hm => absurd hm List.not_mem_nil, fun _ _ => rfl⟩
  | cons member rest ih =>
    intro seen s hs
    rw [distinctMembers, after_bind]
    refine (hg.after_render o member hs).mono ?_
    rintro text t ⟨ht, rfl⟩
    split
    · next hseen =>
      rw [List.contains_iff_mem] at hseen
      refine (ih seen ht).mono ?_
      rintro kept u ⟨hu, hnodup, hkept, -⟩
      refine ⟨hu, hnodup, hkept, fun _ hall => ?_⟩
      exact absurd hseen (hall member (List.mem_cons_self ..)).1
    · next hseen =>
      rw [List.contains_iff_mem] at hseen
      rw [after_bind]
      refine (ih (g.usedText o member :: seen) ht).mono ?_
      rintro kept u ⟨hu, hnodup, hkept, hall⟩
      have hkept' : ∀ m ∈ kept, g.usedText o m ≠ g.usedText o member ∧
          g.usedText o m ∉ seen := fun m hm => by
        have hnot := (hkept m hm).1
        rw [List.mem_cons, not_or] at hnot
        exact hnot
      -- all of the rest are kept, where they are apart from the first as well
      have hrest : ((member :: rest).map (g.usedText o)).Nodup →
          (∀ m ∈ member :: rest, g.usedText o m ∉ seen ∧
            ¬ (g.name? m = none ∧ g.usedText o m ∈ named)) → kept = rest := by
        intro htexts hmembers
        rw [List.map_cons, List.nodup_cons] at htexts
        refine hall htexts.2 fun m hm => ⟨?_, (hmembers m (List.mem_cons_of_mem _ hm)).2⟩
        rw [List.mem_cons, not_or]
        refine ⟨fun heq => htexts.1 ?_, (hmembers m (List.mem_cons_of_mem _ hm)).1⟩
        rw [← heq]
        exact List.mem_map_of_mem hm
      split
      · next hdrop =>
        rw [Bool.and_eq_true, Option.isNone_iff_eq_none, List.contains_iff_mem] at hdrop
        refine after_pure.2 ⟨hu, hnodup, fun m hm => ⟨(hkept' m hm).2, (hkept m hm).2⟩,
          fun _ hmembers => ?_⟩
        exact absurd hdrop (hmembers member (List.mem_cons_self ..)).2
      · next hkeep =>
        rw [Bool.and_eq_true, Option.isNone_iff_eq_none, List.contains_iff_mem] at hkeep
        refine after_pure.2 ⟨hu, ?_, ?_, fun htexts hmembers => ?_⟩
        · rw [List.map_cons, List.nodup_cons]
          refine ⟨fun hmem => ?_, hnodup⟩
          obtain ⟨m, hm, heq⟩ := List.mem_map.1 hmem
          exact (hkept' m hm).1 heq
        · intro m hm
          rcases List.mem_cons.1 hm with rfl | hm
          · exact ⟨hseen, hkeep⟩
          · exact ⟨(hkept' m hm).2, (hkept m hm).2⟩
        · rw [hrest htexts hmembers]

/-- A member spells out a named one exactly when the sieve finds its text among the structures. -/
theorem spellsOut_iff {x : TypeId} :
    (g.name? x = none ∧ g.usedText o x ∈
      (members.filter fun m => (g.name? m).isSome).map (g.ownText o)) ↔
    ∃ k ∈ members, g.SpellsOut o x k := by
  constructor
  · rintro ⟨hname, hmem⟩
    obtain ⟨k, hk, heq⟩ := List.mem_map.1 hmem
    obtain ⟨hk, hnamed⟩ := List.mem_filter.1 hk
    exact ⟨k, hk, hname, hnamed, heq.symm⟩
  · rintro ⟨k, hk, hspells⟩
    exact ⟨hspells.unnamed,
      List.mem_map.2 ⟨k, List.mem_filter.2 ⟨hk, hspells.named⟩, hspells.text_eq.symm⟩⟩

/-- **One go of the sieve is enough**: what it keeps is apart, also from the members that it drops,
and it keeps all of what is apart. -/
theorem CyclesNamed.dedupeMembers_apart (hg : g.CyclesNamed) (o : Options)
    (members : List TypeId) :
    ((dedupeMembers g o members).map (g.usedText o)).Nodup ∧
      (∀ x ∈ dedupeMembers g o members, ∀ k ∈ members, ¬ g.SpellsOut o x k) ∧
      ((members.map (g.usedText o)).Nodup →
        (∀ x ∈ members, ∀ k ∈ members, ¬ g.SpellsOut o x k) →
        dedupeMembers g o members = members) := by
  have hrun : After (namedStructures g o members >>= fun named =>
      distinctMembers g o named [] members) {} fun kept _ =>
      (kept.map (g.usedText o)).Nodup ∧ (∀ x ∈ kept, ∀ k ∈ members, ¬ g.SpellsOut o x k) ∧
      ((members.map (g.usedText o)).Nodup →
        (∀ x ∈ members, ∀ k ∈ members, ¬ g.SpellsOut o x k) → kept = members) := by
    refine after_bind.2 ((hg.after_namedStructures (recalls_nil g o)).mono
      fun named t ⟨ht, hnamed⟩ => ?_)
    subst hnamed
    refine (hg.after_distinctMembers_apart [] ht).mono
      fun kept _ ⟨_, hnodup, hkept, hall⟩ => ?_
    refine ⟨hnodup, fun x hx k hk hspells => ?_, fun htexts hspelled => ?_⟩
    · exact (hkept x hx).2 (spellsOut_iff.2 ⟨k, hk, hspells⟩)
    · refine hall htexts fun x hx => ⟨List.not_mem_nil, fun hfound => ?_⟩
      obtain ⟨k, hk, hspells⟩ := spellsOut_iff.1 hfound
      exact hspelled x hx k hk hspells
  exact hrun

/-! ### The simpler kind of an operation -/

/-- **How a type comes to be an operation**: it was one, nothing absorbed it, and it has the members
that the sieve keeps. -/
theorem operands_of_simplerKind? {kind : TypeKind} {kept : List TypeId}
    (h : simplerKind? g o id = some kind) (hkept : kind.operands? = some (isUnion, kept)) :
    ∃ members, (g.kind id).operands? = some (isUnion, members) ∧
      kept = dedupeMembers g o (g.sievedMembers id) ∧
      (∀ m ∈ g.flatMembers id, g.kind m ≠ .any) ∧
      (isUnion = true → ∀ m ∈ g.flatMembers id, g.kind m ≠ .unknown) ∧
      (isUnion = false → g.sievedMembers id ≠ []) := by
  obtain ⟨other, members, hoperands, hbecomes⟩ := exists_operands_of_simplerKind? h
  cases hbecomes with
  | any | absorbed | vanished => cases hkept
  | kept hany hunknown hnonempty hkind =>
    cases hkind.symm.trans hkept
    exact ⟨members, hoperands, rfl, hany, hunknown, hnonempty⟩

/-- **The simpler kind of a flat operation** has the members that the sieve keeps, but for an
intersection without members. -/
theorem IsFlat.operands_simplerKind? (hflat : g.IsFlat isUnion members)
    (h : (g.kind id).operands? = some (isUnion, members)) (o : Options) :
    (isUnion = false ∧ members = [] ∧ simplerKind? g o id = some .unknown) ∨
      ((isUnion = false → members ≠ []) ∧ ∃ kind, simplerKind? g o id = some kind ∧
        kind.operands? = some (isUnion, dedupeMembers g o members)) := by
  have hmembers := hflat.flatMembers_eq h
  obtain ⟨kind, hkind, hbecomes⟩ := exists_becomes h o
  cases hbecomes with
  | any hm hany => exact absurd hany (hflat.known _ (hmembers ▸ hm)).1
  | absorbed hm hunknown => exact absurd hunknown (hflat.known _ (hmembers ▸ hm)).2
  | vanished hempty =>
    rw [hflat.sievedMembers_eq h] at hempty
    exact Or.inl ⟨rfl, hempty, hkind⟩
  | kept _ _ hnonempty hkept =>
    rw [hflat.sievedMembers_eq h] at hnonempty hkept
    exact Or.inr ⟨hnonempty, kind, hkind, hkept⟩

/-- **A flat operation is its own simpler kind exactly when its members are apart.** -/
theorem CyclesNamed.simplerKind?_eq_self_iff (hg : g.CyclesNamed)
    (hflat : g.IsFlat isUnion members) (h : (g.kind id).operands? = some (isUnion, members)) :
    simplerKind? g o id = some (g.kind id) ↔ g.AreApart o isUnion members := by
  obtain ⟨htexts, hspelled, hall⟩ := hg.dedupeMembers_apart o members
  rcases hflat.operands_simplerKind? h o with ⟨hinter, hempty, hunknown⟩ | ⟨hne, kind, hkind, hkept⟩
  · constructor
    · intro hself
      rw [hunknown, Option.some.injEq] at hself
      rw [← hself] at h
      cases h
    · exact fun hapart => absurd hempty (hapart.nonempty hinter)
  · rw [hkind, Option.some.injEq]
    constructor
    · rintro rfl
      have hmembers : dedupeMembers g o members = members := by
        rw [h, Option.some.injEq, Prod.mk.injEq] at hkept
        exact hkept.2.symm
      rw [hmembers] at htexts hspelled
      exact ⟨htexts, hspelled, hne⟩
    · intro hapart
      rw [hall hapart.texts hapart.spelled] at hkept
      exact TypeKind.eq_of_operands hkept h

/-! ### The whole graph -/

@[simp] theorem setKind_kind (g : TypeGraph) (id : TypeId) : g.setKind id (g.kind id) = g := by
  have hnodes : (g.setKind id (g.kind id)).nodes = g.nodes := by
    refine Array.ext_getElem? fun other => ?_
    rw [setKind, modifyNode, Array.getElem?_modify]
    split
    · next heq =>
      subst heq
      rw [TypeGraph.kind, node]
      cases g.nodes[id]? <;> rfl
    · rfl
  cases g
  exact congrArg (TypeGraph.mk · _) hnodes

theorem kind_simplifyAt_of_ne (o : Options) (g : TypeGraph) {id other : TypeId} (h : other ≠ id) :
    (simplifyAt o g id).kind other = g.kind other := by
  unfold simplifyAt
  split
  · rw [kind_setKind, if_neg fun heq => h heq.1.symm]
  · rfl

theorem kind_simplifyAt_self (o : Options) (g : TypeGraph) {id : TypeId} (hid : id < g.size) :
    (simplifyAt o g id).kind id = (simplerKind? g o id).getD (g.kind id) := by
  unfold simplifyAt
  split
  · next kind hkind => rw [kind_setKind, if_pos ⟨rfl, hid⟩, hkind]; rfl
  · next hnone => rw [hnone]; rfl

/-- Types whose turn does not come keep their kinds. -/
theorem kind_foldl_simplifyAt (o : Options) {ids : List TypeId} {other : TypeId}
    (h : other ∉ ids) (g : TypeGraph) : (ids.foldl (simplifyAt o) g).kind other = g.kind other := by
  induction ids generalizing g with
  | nil => rfl
  | cons id rest ih =>
    rw [List.mem_cons, not_or] at h
    rw [List.foldl_cons, ih h.2, kind_simplifyAt_of_ne o g h.1]

/-- **Steps that lead back change nothing**: each type has one turn, and its kind stays after it. -/
theorem simplifyAt_eq_self_of_foldl {ids : List TypeId} (hnodup : ids.Nodup)
    (h : ids.foldl (simplifyAt o) g = g) : ∀ id ∈ ids, simplifyAt o g id = g := by
  induction ids with
  | nil => exact fun id hid => absurd hid List.not_mem_nil
  | cons first rest ih =>
    rw [List.nodup_cons] at hnodup
    rw [List.foldl_cons] at h
    have hfirst : simplifyAt o g first = g := by
      have hkind : (simplifyAt o g first).kind first = g.kind first := by
        rw [← kind_foldl_simplifyAt o hnodup.1, h]
      unfold simplifyAt at hkind ⊢
      split
      · next kind hsimpler =>
        simp only [hsimpler] at hkind
        rw [kind_setKind] at hkind
        split at hkind
        · rw [hkind, setKind_kind]
        · next hout =>
          have hlt : first < g.size := lt_size_of_kind_ne fun hany => by
            rw [simplerKind?_eq_none_iff.2 (by rw [hany]; rfl)] at hsimpler
            cases hsimpler
          exact absurd ⟨rfl, hlt⟩ hout
      · rfl
    rw [hfirst] at h
    intro id hid
    rcases List.mem_cons.1 hid with rfl | hid
    · exact hfirst
    · exact ih hnodup.2 h id hid

/-- **Simplification leaves a flat graph as it is exactly when the members of its operations are
apart.** -/
theorem CyclesNamed.simplify_eq_self_iff (hg : g.CyclesNamed) (hflat : g.Flat) (o : Options) :
    g.simplify o = g ↔ g.Apart o := by
  constructor
  · intro hself id isUnion members hid hoperands
    have hstep := simplifyAt_eq_self_of_foldl (List.nodup_reverse.2 (nodup_reachable g)) hself id
      (List.mem_reverse.2 ((mem_reachable_iff g id).2 hid))
    refine (hg.simplerKind?_eq_self_iff (hflat id isUnion members hid hoperands) hoperands).1 ?_
    have hkind := kind_simplifyAt_self o g hid.lt_size
    rw [hstep] at hkind
    rcases (hflat id isUnion members hid hoperands).operands_simplerKind? hoperands o with
      ⟨-, -, hsome⟩ | ⟨-, kind, hsome, -⟩
    · rw [hsome] at hkind ⊢
      exact congrArg some hkind.symm
    · rw [hsome] at hkind ⊢
      exact congrArg some hkind.symm
  · intro hapart
    have hstep : ∀ id, g.Reached id → simplifyAt o g id = g := by
      intro id hid
      cases hoperands : (g.kind id).operands? with
      | none => rw [simplifyAt, simplerKind?_eq_none_iff.2 hoperands]
      | some operation =>
        obtain ⟨isUnion, members⟩ := operation
        have hself := (hg.simplerKind?_eq_self_iff (hflat id isUnion members hid hoperands)
          hoperands).2 (hapart id isUnion members hid hoperands)
        simp [simplifyAt, hself]
    have hfold : ∀ ids : List TypeId, (∀ id ∈ ids, g.Reached id) →
        ids.foldl (simplifyAt o) g = g := by
      intro ids
      induction ids with
      | nil => exact fun _ => rfl
      | cons id rest ih =>
        intro hids
        rw [List.foldl_cons, hstep id (hids id (List.mem_cons_self ..))]
        exact ih fun other hother => hids other (List.mem_cons_of_mem _ hother)
    exact hfold _ fun id hid => (mem_reachable_iff g id).1 (List.mem_reverse.1 hid)

end TypeGraph
end SchemaTypings
