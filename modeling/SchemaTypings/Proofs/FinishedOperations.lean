import SchemaTypings.Proofs.SettledOperations

/-! # Operations that read finished ones

Simplifying an operation reads others: the members that it takes in, and what is written out in its
members when the sieve compares them.  A type is finished before the turn of an operation when it
comes behind in the walk, or when simplification does not change it.  Where operations read finished
types only, each finds the members that it takes in as they will be in the end, and comes out flat
and with its members apart in one run.
-/
namespace SchemaTypings

theorem mapM_congr {σ α β : Type} {f f' : α → StateM σ β} {as : List α}
    (h : ∀ a ∈ as, f a = f' a) : as.mapM f = as.mapM f' := by
  induction as with
  | nil => rfl
  | cons a as ih =>
    rw [List.mapM_cons, List.mapM_cons, h a (List.mem_cons_self ..),
      ih fun a ha => h a (List.mem_cons_of_mem _ ha)]

namespace TypeGraph

variable {g h : TypeGraph} {o : Options} {id : TypeId}

/-! ### Texts in graphs that agree -/

/-- The text of a kind depends on how the parts that it shows are written. -/
theorem kindText_congr {use use' : TypeId → Rendering String} {kind : TypeKind}
    (h : ∀ c ∈ kind.shown, use c = use' c) : kindText o use kind = kindText o use' kind := by
  cases kind with
  | array element => rw [kindText, kindText, h element (List.mem_singleton_self _)]
  | tuple elements min max spread =>
    have helements : elements.mapM use = elements.mapM use' :=
      mapM_congr fun c hc => h c (List.mem_append_left _ hc)
    have hspread : spread.mapM use = spread.mapM use' := by
      cases spread with
      | none => rfl
      | some c =>
        rw [Option.mapM_some, Option.mapM_some,
          h c (List.mem_append_right _ (List.mem_singleton_self c))]
    rw [kindText, kindText, helements, hspread]
  | union members =>
    have hmembers : members.mapM use = members.mapM use' := mapM_congr h
    rw [kindText, kindText, hmembers]
  | intersection members =>
    have hmembers : members.mapM use = members.mapM use' := mapM_congr h
    rw [kindText, kindText, hmembers]
  | record members bases =>
    rw [kindText, kindText]
    refine congrArg _ (mapM_congr fun m hm => ?_)
    rw [h m.type (List.mem_map.2 ⟨m, hm, rfl⟩)]
  | _ => rfl

theorem useText_congr {raw raw' : TypeId → Rendering String} (hname : h.name? id = g.name? id)
    (hraw : g.name? id = none → raw id = raw' id) : useText h raw id = useText g raw' id := by
  unfold useText
  rw [hname]
  cases hid : g.name? id with
  | some name => rfl
  | none => simp only [hraw hid]

section Agreeing

variable (hsize : h.size = g.size) (hname : ∀ id, h.name? id = g.name? id) {D : TypeId → Prop}
  (hclosed : ∀ a, D a → ∀ b, g.Inlines a b → D b) (hkind : ∀ a, D a → h.kind a = g.kind a)
include hsize hname hclosed hkind

/-- **Graphs that agree on what is written out write it alike.** -/
theorem rawText_congr (o : Options) (active : List TypeId) {id : TypeId} (hid : D id) :
    rawText h o active id = rawText g o active id := by
  induction hn : (g.idle active).length using Nat.strong_induction_on generalizing active id with
  | _ n ih =>
    subst hn
    rw [rawText, rawText]
    by_cases hopen : id < g.size ∧ id ∉ active
    · rw [dif_pos hopen, dif_pos (by rw [hsize]; exact hopen), hkind id hid]
      refine kindText_congr fun c hc => useText_congr (hname c) fun hunnamed => ?_
      exact ih _ (length_idle_cons_lt hopen.1 hopen.2) _ (hclosed id hid c ⟨hc, hunnamed⟩) rfl
    · rw [dif_neg hopen, dif_neg (by rw [hsize]; exact hopen)]

end Agreeing

/-! ### What an operation reads -/

/-- A type is a member of an operation. -/
def HasOperand (g : TypeGraph) (a b : TypeId) : Prop :=
  ∃ isUnion members, (g.kind a).operands? = some (isUnion, members) ∧ b ∈ members

/-- **What an operation may come to have as a member**: its members, and those of unnamed operations
that it may come to have as members. -/
inductive Takes (g : TypeGraph) (a : TypeId) : TypeId → Prop where
  | member {b : TypeId} (h : g.HasOperand a b) : Takes g a b
  | nested {b c : TypeId} (hb : Takes g a b) (hname : g.name? b = none) (hc : g.HasOperand b c) :
    Takes g a c

/-- **What an operation reads**: the types that it may come to have as members, and what is written
out in those without names. -/
def Reads (g : TypeGraph) (a b : TypeId) : Prop :=
  ∃ m, g.Takes a m ∧ (b = m ∨ (g.name? m = none ∧ g.WritesOut m b))

/-- A type has its final kind when the turn of another one comes: it is behind that one in the walk,
or simplification does not change it. -/
def IsFinishedBefore (g : TypeGraph) (o : Options) (id other : TypeId) : Prop :=
  g.reachable.idxOf id < g.reachable.idxOf other ∨ (g.simplify o).kind other = g.kind other

/-- **Operations read finished types only.**  So do the comparisons with the structures of named
members, or the member is not spelled out by any other in the end. -/
structure ReadsFinished (g : TypeGraph) (o : Options) : Prop where
  members : ∀ id other, g.Reached id → g.Reads id other → g.IsFinishedBefore o id other
  structures : ∀ id k, g.Reached id → g.Takes id k → (g.name? k).isSome →
    (∀ other, g.WritesOut k other → g.IsFinishedBefore o id other) ∨
      ∀ x, g.Takes id x → ¬ (g.simplify o).SpellsOut o x k

theorem HasOperand.lt_size {a b : TypeId} (h : g.HasOperand a b) : a < g.size := by
  obtain ⟨isUnion, members, hoperands, -⟩ := h
  refine lt_size_of_kind_ne fun hany => ?_
  rw [hany] at hoperands
  cases hoperands

theorem HasOperand.mem_children {a b : TypeId} (h : g.HasOperand a b) : b ∈ g.children a := by
  obtain ⟨isUnion, members, hoperands, hb⟩ := h
  rw [children_of_operands hoperands]
  exact hb

/-- An operation shows its members. -/
theorem shown_of_operands {kind : TypeKind} {isUnion : Bool} {members : List TypeId}
    (h : kind.operands? = some (isUnion, members)) : kind.shown = members := by
  cases kind with
  | union _ | intersection _ =>
    cases h
    rfl
  | _ => cases h

theorem HasOperand.mem_shown {a b : TypeId} (h : g.HasOperand a b) : b ∈ (g.kind a).shown := by
  obtain ⟨isUnion, members, hoperands, hb⟩ := h
  rw [shown_of_operands hoperands]
  exact hb

namespace Takes

variable {a b c : TypeId}

theorem trans (hb : g.Takes a b) (hname : g.name? b = none) (hc : g.Takes b c) : g.Takes a c := by
  induction hc with
  | member h => exact .nested hb hname h
  | nested _ hname' h ih => exact .nested ih hname' h

/-- What an operation may take in is an operand of operands. -/
theorem hasOperand (h : g.Takes a b) : Relation.TransGen g.HasOperand a b := by
  induction h with
  | member h => exact .single h
  | nested _ _ h ih => exact ih.tail h

/-- An unnamed type that an operation may take in is written out in it. -/
theorem inlines (h : g.Takes a b) (hname : g.name? b = none) :
    Relation.TransGen g.Inlines a b := by
  induction h with
  | member h => exact .single ⟨h.mem_shown, hname⟩
  | nested _ hname' h ih => exact .tail (ih hname') ⟨h.mem_shown, hname⟩

/-- Between unnamed types this is a path of unnamed steps. -/
theorem unnamedSteps (h : g.Takes a b) (ha : g.name? a = none) (hb : g.name? b = none) :
    Relation.TransGen g.UnnamedStep a b := by
  induction h with
  | member h => exact .single ⟨ha, h.mem_children, hb⟩
  | nested _ hname h ih => exact .tail (ih hname) ⟨hname, h.mem_children, hb⟩

theorem reached (h : g.Takes a b) (ha : g.Reached a) (hb : b < g.size) : g.Reached b := by
  induction h with
  | member h => exact .part ha h.mem_children hb
  | nested _ _ h ih => exact .part (ih h.lt_size) h.mem_children hb

end Takes

/-- What an operation takes in and reads is in every list that has its members, and all that is
shown by the unnamed types in it. -/
theorem mem_of_closed {a : TypeId} {list : List TypeId} (hmembers : ∀ b, g.HasOperand a b → b ∈ list)
    (hclosed : ∀ b ∈ list, g.name? b = none → ∀ c ∈ (g.kind b).shown, c ∈ list) :
    (∀ b, g.Takes a b → b ∈ list) ∧ ∀ b, g.Reads a b → b ∈ list := by
  have htakes : ∀ b, g.Takes a b → b ∈ list := by
    intro b hb
    induction hb with
    | member h => exact hmembers _ h
    | nested _ hname h ih => exact hclosed _ ih hname _ h.mem_shown
  have hwritten : ∀ m ∈ list, g.name? m = none → ∀ b, g.WritesOut m b →
      b ∈ list ∧ g.name? b = none := by
    intro m hm hname b hb
    induction hb with
    | refl => exact ⟨hm, hname⟩
    | tail _ h ih => exact ⟨hclosed _ ih.1 ih.2 _ h.1, h.2⟩
  refine ⟨htakes, fun b hb => ?_⟩
  obtain ⟨m, hm, rfl | ⟨hname, hb⟩⟩ := hb
  · exact htakes _ hm
  · exact (hwritten m (htakes m hm) hname b hb).1

/-- A type keeps its kind that keeps its operands. -/
theorem kind_simplify_of_operands
    (h : ((g.simplify o).kind id).operands? = (g.kind id).operands?) :
    (g.simplify o).kind id = g.kind id := by
  rcases kind_simplify g o id with hsame | ⟨hsome, -⟩
  · exact hsame
  · obtain ⟨operation, hoperands⟩ := Option.isSome_iff_exists.1 hsome
    obtain ⟨isUnion, members⟩ := operation
    exact TypeKind.eq_of_operands (h.trans hoperands) hoperands

/-! ### States on the way -/

/-- **A state on the way through simplification**: its names are those of the graph, and its
operations have members that those of the graph may take in. -/
structure IsStage (g h : TypeGraph) : Prop where
  size : h.size = g.size
  root : h.root = g.root
  name : ∀ id, h.name? id = g.name? id
  operands : ∀ a b, h.HasOperand a b → g.Takes a b
  kind : ∀ id, h.kind id = g.kind id ∨ TypeKind.Simplified (h.kind id)

namespace IsStage

theorem refl (g : TypeGraph) : IsStage g g where
  size := rfl
  root := rfl
  name := fun _ => rfl
  operands := fun _ _ h => .member h
  kind := fun _ => Or.inl rfl

/-- What flattening brings may be taken in. -/
theorem takes (hh : IsStage g h) {a b : TypeId} (hb : b ∈ h.flatMembers a) : g.Takes a b := by
  cases hoperands : (h.kind a).operands? with
  | none =>
    rw [flatMembers, hoperands] at hb
    cases hb
  | some operation =>
    obtain ⟨isUnion, members⟩ := operation
    rcases flat_cases hoperands hb with ⟨hb, -⟩ | ⟨n, hn, -, hname, inner, hinner, hb⟩
    · exact hh.operands a b ⟨isUnion, members, hoperands, hb⟩
    · have hn' := hh.operands a n ⟨isUnion, members, hoperands, hn⟩
      exact hn'.trans (hh.name n ▸ hname) (hh.operands n b ⟨isUnion, inner, hinner, hb⟩)

/-- The parts of a type are its own still, or it may take them in. -/
theorem mem_children (hh : IsStage g h) {a b : TypeId} (hb : b ∈ h.children a) :
    b ∈ g.children a ∨ g.Takes a b := by
  rcases hh.kind a with hsame | hsimple
  · left
    rw [children, ← hsame]
    exact hb
  · right
    rw [children] at hb
    generalize hkind : h.kind a = kind at hb hsimple
    cases hsimple with
    | any | unknown => cases hb
    | union members | intersection members =>
      exact hh.operands a b ⟨_, members, by rw [hkind]; rfl, hb⟩

/-- **No stage has a cycle of unnamed types**, where the graph has none. -/
theorem cyclesNamed (hh : IsStage g h) (hg : g.CyclesNamed) : h.CyclesNamed := by
  have hstep : ∀ a b, h.UnnamedStep a b → Relation.TransGen g.UnnamedStep a b := by
    intro a b ⟨ha, hb, hbname⟩
    rw [hh.name] at ha hbname
    rcases hh.mem_children hb with hb | hb
    · exact .single ⟨ha, hb, hbname⟩
    · exact hb.unnamedSteps ha hbname
  exact fun id hcycle => hg id (Relation.TransGen.closed hstep id id hcycle)

/-- What a stage reaches was reached before. -/
theorem reached (hh : IsStage g h) {id : TypeId} (hid : h.Reached id) : g.Reached id := by
  induction hid with
  | root hlt =>
    rw [hh.root]
    exact .root (by rw [← hh.root, ← hh.size]; exact hlt)
  | part _ hpart hlt ih =>
    rw [hh.size] at hlt
    rcases hh.mem_children hpart with hpart | hpart
    · exact .part ih hpart hlt
    · exact hpart.reached ih hlt

/-- What is written out at a stage was written out before. -/
theorem inlines (hh : IsStage g h) {a b : TypeId} (hb : h.Inlines a b) : g.WritesOut a b := by
  obtain ⟨hshown, hname⟩ := hb
  rw [hh.name] at hname
  rcases hh.kind a with hsame | hsimple
  · rw [hsame] at hshown
    exact .single ⟨hshown, hname⟩
  · generalize hkind : h.kind a = kind at hshown hsimple
    cases hsimple with
    | any | unknown => cases hshown
    | union members | intersection members =>
      have hoperand : h.HasOperand a b := ⟨_, members, by rw [hkind]; rfl, hshown⟩
      exact ((hh.operands a b hoperand).inlines hname).to_reflTransGen

/-- **Stages that agree on what is written out in a type write it alike.** -/
theorem renderRaw_eq {k : TypeGraph} (hh : IsStage g h) (id : TypeId) (hk : IsStage g k)
    (hkind : ∀ b, g.WritesOut id b → h.kind b = k.kind b) (o : Options) :
    renderRaw h o id = renderRaw k o id := by
  refine rawText_congr (D := g.WritesOut id) ?_ (fun b => ?_) ?_ hkind o [] .refl
  · rw [hh.size, hk.size]
  · rw [hh.name, hk.name]
  · exact fun a ha b hb => ha.trans (hk.inlines hb)

/-- One turn leads from a stage to the next. -/
theorem simplifyAt (hh : IsStage g h) (o : Options) (id : TypeId) :
    IsStage g (simplifyAt o h id) where
  size := (size_simplifyAt o h id).trans hh.size
  root := (root_simplifyAt o h id).trans hh.root
  name := fun other => (name?_simplifyAt o h id other).trans (hh.name other)
  operands := by
    intro a b hab
    by_cases ha : a = id
    · subst ha
      have hlt := hab.lt_size
      rw [size_simplifyAt] at hlt
      obtain ⟨isUnion, members, hoperands, hb⟩ := hab
      rw [kind_simplifyAt_self o h hlt] at hoperands
      cases hsimpler : simplerKind? h o a with
      | none =>
        rw [hsimpler] at hoperands
        exact hh.operands a b ⟨isUnion, members, hoperands, hb⟩
      | some kind =>
        rw [hsimpler] at hoperands
        obtain ⟨-, -, rfl, -⟩ := operands_of_simplerKind? hsimpler hoperands
        exact hh.takes (sievedMembers_subset (mem_of_mem_dedupeMembers hb))
    · obtain ⟨isUnion, members, hoperands, hb⟩ := hab
      rw [kind_simplifyAt_of_ne o h ha] at hoperands
      exact hh.operands a b ⟨isUnion, members, hoperands, hb⟩
  kind := by
    intro other
    rcases kind_simplifyAt o h id other with hsame | ⟨-, hsimple⟩
    · rw [hsame]
      exact hh.kind other
    · exact Or.inr hsimple

theorem foldl (hh : IsStage g h) (o : Options) (ids : List TypeId) :
    IsStage g (ids.foldl (TypeGraph.simplifyAt o) h) := by
  induction ids generalizing h with
  | nil => exact hh
  | cons id rest ih => exact ih (hh.simplifyAt o id)

theorem simplify (g : TypeGraph) (o : Options) : IsStage g (g.simplify o) :=
  (refl g).foldl o _

end IsStage

/-! ### The turn of an operation -/

/-- **Every type that is reached has its turn**: it has kept its kind up to then, what is finished
before has the kind that it has in the end, and the type itself gets that kind now. -/
theorem exists_foldl_simplifyAt (o : Options) (hid : g.Reached id) :
    ∃ ids : List TypeId, (ids.foldl (simplifyAt o) g).kind id = g.kind id ∧
      (∀ other, g.IsFinishedBefore o id other →
        (ids.foldl (simplifyAt o) g).kind other = (g.simplify o).kind other) ∧
      (g.simplify o).kind id =
        (simplerKind? (ids.foldl (simplifyAt o) g) o id).getD (g.kind id) := by
  obtain ⟨before, behind, hsplit⟩ := List.append_of_mem ((mem_reachable_iff g id).2 hid)
  have hnodup := nodup_reachable g
  rw [hsplit, List.nodup_append] at hnodup
  obtain ⟨-, hnodup, hdisjoint⟩ := hnodup
  have hbefore : id ∉ before := fun hmem => hdisjoint id hmem id (List.mem_cons_self ..) rfl
  have hbehind : id ∉ behind := (List.nodup_cons.1 hnodup).1
  -- the turns of the types behind have come, and those of the types before have not
  let h := behind.reverse.foldl (simplifyAt o) g
  have hself : h.kind id = g.kind id :=
    kind_foldl_simplifyAt o (fun hmem => hbehind (List.mem_reverse.1 hmem)) g
  have hrest : g.simplify o = before.reverse.foldl (simplifyAt o) (simplifyAt o h id) := by
    simp only [simplify, hsplit, List.reverse_append, List.reverse_cons, List.foldl_append,
      List.foldl_cons, List.foldl_nil, h]
  have hlater : ∀ other, other ∉ before →
      (g.simplify o).kind other = (simplifyAt o h id).kind other := by
    intro other hother
    rw [hrest]
    exact kind_foldl_simplifyAt o (fun hmem => hother (List.mem_reverse.1 hmem)) _
  refine ⟨behind.reverse, hself, fun other hfinished => ?_, ?_⟩
  · by_cases hother : other ∈ before ∨ other = id
    · -- the turn of the type has not come, so that its kind is never changed
      have hnot : other ∉ behind := by
        rcases hother with hother | rfl
        · exact fun hmem => hdisjoint other hother other (List.mem_cons_of_mem _ hmem) rfl
        · exact hbehind
      have hkept : h.kind other = g.kind other :=
        kind_foldl_simplifyAt o (fun hmem => hnot (List.mem_reverse.1 hmem)) g
      rcases hfinished with hlt | hsame
      · exfalso
        rw [hsplit, List.idxOf_append_of_notMem hbefore, List.idxOf_cons_self, Nat.add_zero] at hlt
        rcases hother with hother | rfl
        · rw [List.idxOf_append_of_mem hother] at hlt
          exact Nat.lt_asymm hlt (List.idxOf_lt_length_of_mem hother)
        · rw [List.idxOf_append_of_notMem hbefore, List.idxOf_cons_self] at hlt
          exact Nat.lt_irrefl _ hlt
      · exact hkept.trans hsame.symm
    · rw [not_or] at hother
      rw [hlater other hother.1, kind_simplifyAt_of_ne o h hother.2]
  · rw [hlater id hbefore, kind_simplifyAt_self o h ?_, hself]
    rw [show h.size = g.size from size_foldl_simplifyAt o _ g]
    exact hid.lt_size

/-- **The graph when the turn of a type comes.** -/
structure IsTurn (g : TypeGraph) (o : Options) (id : TypeId) (h : TypeGraph) : Prop where
  stage : IsStage g h
  kind_self : h.kind id = g.kind id
  kind_finished : ∀ other, g.IsFinishedBefore o id other →
    h.kind other = (g.simplify o).kind other
  result : (g.simplify o).kind id = (simplerKind? h o id).getD (g.kind id)

theorem exists_turn (o : Options) (hid : g.Reached id) :
    ∃ h, IsTurn g o id h := by
  obtain ⟨ids, hself, hfinished, hresult⟩ := exists_foldl_simplifyAt o hid
  exact ⟨_, (IsStage.refl g).foldl o ids, hself, hfinished, hresult⟩

/-! ### Settled in one run -/

/-- **How an operation comes out**: `h` is the graph at its turn, in which the types that it reads
are as they are in the end. -/
structure IsOutcome (g : TypeGraph) (o : Options) (id : TypeId) (isUnion : Bool)
    (members kept : List TypeId) (h : TypeGraph) : Prop where
  turn : IsTurn g o id h
  before : (h.kind id).operands? = some (isUnion, members)
  kind : ∀ m, g.Takes id m → h.kind m = (g.simplify o).kind m
  kept : kept = dedupeMembers h o (h.sievedMembers id)
  noAny : ∀ m ∈ h.flatMembers id, h.kind m ≠ .any
  noUnknown : isUnion = true → ∀ m ∈ h.flatMembers id, h.kind m ≠ .unknown
  nonempty : isUnion = false → h.sievedMembers id ≠ []

/-- **An operation that reads finished ones** is simplified as it would be in the end. -/
theorem ReadsFinished.exists_outcome (hreads : g.ReadsFinished o) (hid : g.Reached id)
    {isUnion : Bool} {kept : List TypeId}
    (hkept : ((g.simplify o).kind id).operands? = some (isUnion, kept)) :
    ∃ members h, IsOutcome g o id isUnion members kept h := by
  obtain ⟨h, hturn⟩ := exists_turn o hid
  have hsimpler : ∃ kind, simplerKind? h o id = some kind ∧
      kind.operands? = some (isUnion, kept) := by
    have hresult := hturn.result
    cases hsome : simplerKind? h o id with
    | some kind =>
      rw [hsome] at hresult
      exact ⟨kind, rfl, by rw [← hkept, hresult]; rfl⟩
    | none =>
      rw [hsome] at hresult
      rw [hresult, Option.getD_none, ← hturn.kind_self] at hkept
      cases hkept.symm.trans (simplerKind?_eq_none_iff.1 hsome)
  obtain ⟨kind, hsome, hoperands⟩ := hsimpler
  obtain ⟨members, hbefore, hmembers, hany, hunknown, hempty⟩ :=
    operands_of_simplerKind? hsome hoperands
  refine ⟨members, h, hturn, hbefore, fun m hm => ?_, hmembers, hany, hunknown, hempty⟩
  exact hturn.kind_finished m (hreads.members id m hid ⟨m, hm, Or.inl rfl⟩)

namespace IsOutcome

variable {isUnion : Bool} {members kept : List TypeId}

theorem subset (hout : IsOutcome g o id isUnion members kept h) {m : TypeId} (hm : m ∈ kept) :
    m ∈ h.sievedMembers id := by
  rw [hout.kept] at hm
  exact mem_of_mem_dedupeMembers hm

/-- **An operation comes out flat**, where the unnamed operations that are taken into it have. -/
theorem isFlat (hout : IsOutcome g o id isUnion members kept h) (hg : g.CyclesNamed)
    (hnested : ∀ n ∈ members, g.name? n = none → n ≠ id → ∀ inner,
      ((g.simplify o).kind n).operands? = some (isUnion, inner) →
      (g.simplify o).IsFlat isUnion inner) :
    (g.simplify o).IsFlat isUnion kept := by
  have hfinal := IsStage.simplify g o
  have hstage := hout.turn.stage
  have hflat : ∀ m ∈ kept, m ∈ h.flatMembers id :=
    fun m hm => sievedMembers_subset (hout.subset hm)
  have hkind : ∀ m ∈ kept, (g.simplify o).kind m = h.kind m :=
    fun m hm => (hout.kind m (hstage.takes (hflat m hm))).symm
  have hnarrow : isUnion = false → h.sievedMembers id = narrowMembers h (h.flatMembers id) := by
    rintro rfl
    rw [sievedMembers, hout.before]
  constructor
  case nested =>
    intro m hm hname inner hinner
    rw [hfinal.name] at hname
    rcases flat_cases hout.before (hflat m hm) with ⟨hmem, htaken⟩ |
      ⟨n, hn, hne, hnname, inner', hinner', hm'⟩
    · by_cases heq : m = id
      · -- an unnamed operation that is its own member would be a cycle
        subst heq
        have hself := hstage.operands m m ⟨isUnion, members, hout.before, hmem⟩
        exact hg m (hself.unnamedSteps hname hname)
      · refine htaken heq ?_ inner ?_
        · rw [hstage.name, hname]
        · rw [← hkind m hm, hinner]
    · have htakes := hstage.operands id n ⟨isUnion, members, hout.before, hn⟩
      rw [hout.kind n htakes] at hinner'
      rw [hstage.name] at hnname
      refine (hnested n hn hnname hne inner' hinner').nested m hm' ?_ inner hinner
      rw [hfinal.name, hname]
  case known =>
    intro m hm
    rw [hkind m hm]
    refine ⟨hout.noAny m (hflat m hm), ?_⟩
    cases isUnion with
    | true => exact hout.noUnknown rfl m (hflat m hm)
    | false =>
      intro hunknown
      have hsieved := hout.subset hm
      rw [hnarrow rfl] at hsieved
      have hpasses := (List.mem_filter.1 hsieved).2
      rw [hunknown] at hpasses
      cases hpasses
  case narrow =>
    rintro rfl m hm hobject other hother
    have hsieved := hout.subset hm
    rw [hnarrow rfl] at hsieved
    have hpasses := (List.mem_filter.1 hsieved).2
    rw [hkind m hm] at hobject
    rw [hobject, Bool.and_eq_true, Bool.not_eq_true', Bool.not_eq_true'] at hpasses
    have hrecords := List.any_eq_false.1 hpasses.2 other (hflat other hother)
    rw [hkind other hother]
    exact Bool.eq_false_iff.2 hrecords

end IsOutcome

/-- **Every operation that is reached comes out flat.** -/
theorem ReadsFinished.flat_simplify (hreads : g.ReadsFinished o) (hg : g.CyclesNamed) :
    (g.simplify o).Flat := by
  obtain ⟨rank, -, hrank⟩ := exists_rank (E := Relation.TransGen g.UnnamedStep) g.size
    fun a hcycle => hg a (by rwa [Relation.transGen_eq_self] at hcycle)
  have hreached : ∀ {id}, (g.simplify o).Reached id → g.Reached id :=
    fun hid => (IsStage.simplify g o).reached hid
  have hlt : ∀ {m isUnion inner}, ((g.simplify o).kind m).operands? = some (isUnion, inner) →
      m < g.size := by
    intro m isUnion inner hinner
    rw [← size_simplify g o]
    refine lt_size_of_kind_ne fun hany => ?_
    rw [hany] at hinner
    cases hinner
  -- by the rank of the unnamed operations, as only these are taken into others
  have hunnamed : ∀ n id, rank id < n → g.name? id = none → g.Reached id → ∀ isUnion kept,
      ((g.simplify o).kind id).operands? = some (isUnion, kept) →
      (g.simplify o).IsFlat isUnion kept := by
    intro n
    induction n with
    | zero => exact fun id hn => absurd hn (Nat.not_lt_zero _)
    | succ n ih =>
      intro id hn hname hid isUnion kept hkept
      obtain ⟨members, h, hout⟩ := hreads.exists_outcome hid hkept
      refine hout.isFlat hg fun m hm hmname _ inner hinner => ?_
      have htakes := hout.turn.stage.operands id m ⟨isUnion, members, hout.before, hm⟩
      have hdown := hrank id m (hlt hinner) (htakes.unnamedSteps hname hmname)
      exact ih m (by omega) hmname (htakes.reached hid (hlt hinner)) isUnion inner hinner
  intro id isUnion kept hid hkept
  obtain ⟨members, h, hout⟩ := hreads.exists_outcome (hreached hid) hkept
  refine hout.isFlat hg fun m hm hmname _ inner hinner => ?_
  have htakes := hout.turn.stage.operands id m ⟨isUnion, members, hout.before, hm⟩
  exact hunnamed _ m (Nat.lt_succ_self _) hmname (htakes.reached (hreached hid) (hlt hinner))
    isUnion inner hinner

/-- **The members of every operation that is reached come out apart**, but for intersections that
lose all. -/
theorem ReadsFinished.apart_simplify (hreads : g.ReadsFinished o) (hg : g.CyclesNamed)
    {isUnion : Bool} {kept : List TypeId} (hid : (g.simplify o).Reached id)
    (hkept : ((g.simplify o).kind id).operands? = some (isUnion, kept)) :
    (kept.map ((g.simplify o).usedText o)).Nodup ∧
      ∀ x ∈ kept, ∀ k ∈ kept, ¬ (g.simplify o).SpellsOut o x k := by
  have hfinal := IsStage.simplify g o
  obtain ⟨members, h, hout⟩ := hreads.exists_outcome (hfinal.reached hid) hkept
  have hstage := hout.turn.stage
  obtain ⟨htexts, hspelled, -⟩ :=
    (hstage.cyclesNamed hg).dedupeMembers_apart o (h.sievedMembers id)
  rw [← hout.kept] at htexts hspelled
  have htakes : ∀ m ∈ kept, g.Takes id m :=
    fun m hm => hstage.takes (sievedMembers_subset (hout.subset hm))
  -- the members are used in the end as they were at the turn of the operation
  have hused : ∀ m ∈ kept, (g.simplify o).usedText o m = h.usedText o m := by
    intro m hm
    cases hname : g.name? m with
    | some name =>
      rw [usedText_of_name ((hfinal.name m).trans hname),
        usedText_of_name ((hstage.name m).trans hname)]
    | none =>
      rw [usedText_of_none ((hfinal.name m).trans hname),
        usedText_of_none ((hstage.name m).trans hname), ownText, ownText]
      have hraw := hfinal.renderRaw_eq m hstage (fun b hb =>
        (hout.turn.kind_finished b (hreads.members id b (hfinal.reached hid)
          ⟨m, htakes m hm, Or.inr ⟨hname, hb⟩⟩)).symm) o
      rw [hraw]
  refine ⟨by rwa [List.map_congr_left hused], fun x hx k hk hspells => ?_⟩
  have hnamed : (g.name? k).isSome := hfinal.name k ▸ hspells.named
  rcases hreads.structures id k (hfinal.reached hid) (htakes k hk) hnamed with hfinished | hnone
  · refine hspelled x hx k (hout.subset hk) ⟨?_, ?_, ?_⟩
    · rw [hstage.name, ← hfinal.name]
      exact hspells.unnamed
    · rw [hstage.name]
      exact hnamed
    · have hraw := hfinal.renderRaw_eq k hstage
        (fun b hb => (hout.turn.kind_finished b (hfinished b hb)).symm) o
      rw [← hused x hx, hspells.text_eq, ownText, ownText, hraw]
  · exact hnone x (htakes x hx) hspells

end TypeGraph
end SchemaTypings
