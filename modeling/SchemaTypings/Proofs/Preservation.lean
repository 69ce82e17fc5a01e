import SchemaTypings.Proofs.Sieve
import SchemaTypings.Proofs.Simplification

/-! # Simplification keeps what types admit

Simplifying one type changes one equation.  The old sets satisfy the new equation, so the new sets,
as the least ones, are no larger; and the new sets satisfy the old equation, so they are no smaller.
Both need that the sieve drops nothing that is written with less than it asks for: this is what
`Regular` says.
-/
namespace SchemaTypings
namespace TypeGraph

variable {g : TypeGraph} {o : Options} {id : TypeId}

/-! ### Graphs that differ in one kind -/

theorem bearing_setKind (g : TypeGraph) (id : TypeId) (kind : TypeKind) (P : TypeId → Set Json)
    (name : String) : (g.setKind id kind).bearing P name = g.bearing P name := by
  refine Set.ext fun v => ?_
  simp only [bearing, name?_setKind]

theorem meaning_setKind_of_ne (g : TypeGraph) {id m : TypeId} (kind : TypeKind)
    (P : TypeId → Set Json) (hm : m ≠ id) : (g.setKind id kind).meaning P m = g.meaning P m := by
  have hbearing : (g.setKind id kind).bearing P = g.bearing P :=
    funext (g.bearing_setKind id kind P)
  rw [meaning, hbearing, kind_setKind, if_neg fun h => hm h.1.symm, meaning]

theorem meaning_setKind_self (g : TypeGraph) {id : TypeId} (kind : TypeKind)
    (P : TypeId → Set Json) (hid : id < g.size) :
    (g.setKind id kind).meaning P id = kindValues (g.bearing P) P kind := by
  have hbearing : (g.setKind id kind).bearing P = g.bearing P :=
    funext (g.bearing_setKind id kind P)
  rw [meaning, hbearing, kind_setKind, if_pos ⟨rfl, hid⟩]

/-- Types admit no more, where the old sets are closed under the new equation. -/
theorem values_setKind_subset {kind : TypeKind} (hid : id < g.size)
    (h : kindValues (g.bearing g.values) g.values kind ⊆ g.values id) (m : TypeId) :
    (g.setKind id kind).values m ⊆ g.values m := by
  refine values_subset (fun m => ?_) m
  by_cases hm : m = id
  · rw [hm, meaning_setKind_self g kind g.values hid]
    exact h
  · rw [meaning_setKind_of_ne g kind g.values hm, meaning_values]

/-- The new sets satisfy the old equations of all other types. -/
theorem values_setKind_of_ne (g : TypeGraph) {id m : TypeId} (kind : TypeKind) (hm : m ≠ id) :
    (g.setKind id kind).values m = g.meaning (g.setKind id kind).values m := by
  rw [← meaning_values, meaning_setKind_of_ne g kind _ hm, ← meaning_setKind_of_ne g kind _ hm]

/-- Types admit no less, where the new sets are closed under the old equation. -/
theorem subset_values_setKind {kind : TypeKind}
    (h : g.meaning (g.setKind id kind).values id ⊆ (g.setKind id kind).values id) (m : TypeId) :
    g.values m ⊆ (g.setKind id kind).values m := by
  refine values_subset (fun m => ?_) m
  by_cases hm : m = id
  · exact hm ▸ h
  · rw [← values_setKind_of_ne g kind hm]

/-! ### What the sieve may drop -/

/-- **What is written alike among the members of an operation is alike**: a member without a name
that repeats another, or spells out a named one, is written with everything it asks for, and so is
the named one; and nothing that an intersection spells out is only another name for itself. -/
structure Regular (g : TypeGraph) (o : Options) (id : TypeId) : Prop where
  alike : ∀ x ∈ g.sievedMembers id, ∀ y ∈ g.sievedMembers id, x ≠ y →
    g.usedText o x = g.usedText o y → g.name? x = none → ¬ g.HidesBases x
  spelled : ∀ x ∈ g.sievedMembers id, ∀ k ∈ g.sievedMembers id, g.SpellsOut o x k →
    ¬ g.HidesBases x ∧ ¬ g.HidesBases k
  grounded : ∀ members, g.kind id = .intersection members →
    ∀ x ∈ g.sievedMembers id, ∀ k ∈ g.sievedMembers id, g.SpellsOut o x k →
      ¬ Relation.TransGen g.Renames k k

theorem Describable.lt_size_of_mem_sieved (hg : g.Describable) {m : TypeId}
    (hm : m ∈ g.sievedMembers id) : m < g.size :=
  lt_size_of_mem_flatMembers hg.parts (sievedMembers_subset hm)

/-- Members that are written alike admit the same, where the types written out in them satisfy their
equations. -/
theorem Regular.alike_values (h : g.Regular o id) (hg : g.Describable) {P : TypeId → Set Json}
    (hP : ∀ x ∈ g.sievedMembers id, g.name? x = none → ∀ m, g.WritesOut x m →
      P m = g.meaning P m) :
    ∀ x ∈ g.sievedMembers id, ∀ y ∈ g.sievedMembers id, g.usedText o x = g.usedText o y →
      P x = P y := by
  intro x hx y hy hxy
  by_cases hne : x = y
  · rw [hne]
  · have hphrase := (hg.legible.usePhrase_eq (hg.lt_size_of_mem_sieved hx)
      (hg.lt_size_of_mem_sieved hy)).1 hxy
    refine hg.eq_of_use_eq (fun hname m hm => ?_) (fun hname m hm => ?_) (congrArg _ hphrase)
    · exact fits_of_not_hidesBases (h.alike x hx y hy hne hxy hname) hm (hP x hx hname m hm)
    · exact fits_of_not_hidesBases (h.alike y hy x hx (Ne.symm hne) hxy.symm hname) hm
        (hP y hy hname m hm)

/-- A member that spells out a named one admits the same as that one. -/
theorem Regular.spelled_values (h : g.Regular o id) (hg : g.Describable) {P : TypeId → Set Json}
    {x k : TypeId} (hx : x ∈ g.sievedMembers id) (hk : k ∈ g.sievedMembers id)
    (hspells : g.SpellsOut o x k) (hPx : ∀ m, g.WritesOut x m → P m = g.meaning P m)
    (hPk : ∀ m, g.WritesOut k m → P m = g.meaning P m) : P x = P k := by
  obtain ⟨hxplain, hkplain⟩ := h.spelled x hx k hk hspells
  have hphrase := (hg.legible.usePhrase_eq_phrase (hg.lt_size_of_mem_sieved hx)
    (hg.lt_size_of_mem_sieved hk)).1 hspells.text_eq
  exact hg.eq_of_structure_eq (fun _ m hm => fits_of_not_hidesBases hxplain hm (hPx m hm))
    (fun m hm => fits_of_not_hidesBases hkplain hm (hPk m hm)) (congrArg _ hphrase)

/-! ### Unions -/

/-- Unnamed flattened members are behind steps from the operation. -/
theorem unnamedStep_of_mem_flatMembers {m : TypeId} (hid : g.name? id = none)
    (hm : m ∈ g.flatMembers id) (hname : g.name? m = none) :
    Relation.TransGen g.UnnamedStep id m := by
  cases h : (g.kind id).operands? with
  | none =>
    rw [flatMembers, h] at hm
    cases hm
  | some operation =>
    obtain ⟨isUnion, members⟩ := operation
    have hchildren := children_of_operands h
    rcases mem_flatMembers h hm with hm | ⟨n, hn, -, hnname, hinner, hm⟩
    · exact .single ⟨hid, hchildren ▸ hm, hname⟩
    · have hfirst : g.UnnamedStep id n := ⟨hid, hchildren ▸ hn, hnname⟩
      exact .tail (.single hfirst) ⟨hnname, children_of_operands hinner ▸ hm, hname⟩

/-- An operation is not written out in its members. -/
theorem Describable.ne_of_writesOut (hg : g.Describable) {x m : TypeId}
    (hx : x ∈ g.flatMembers id) (hname : g.name? x = none) (hm : g.WritesOut x m) : m ≠ id := by
  rintro rfl
  obtain ⟨hid, hpath⟩ := unnamedStep_of_writesOut hname hm
  exact hg.cycles _ ((unnamedStep_of_mem_flatMembers hid hx hname).trans_left hpath)

/-- A union is not written out in a named member that another member spells out. -/
theorem Describable.ne_of_writesOut_spelled (hg : g.Describable) {members : List TypeId}
    (hkind : g.kind id = .union members) {x k m : TypeId} (hx : x ∈ g.flatMembers id)
    (hk : k ∈ g.flatMembers id) (hspells : g.SpellsOut o x k) (hm : g.WritesOut k m) : m ≠ id := by
  rintro rfl
  have hne : x ≠ k := by
    rintro rfl
    have hnamed := hspells.named
    rw [hspells.unnamed] at hnamed
    cases hnamed
  have hphrase := (hg.legible.usePhrase_eq_phrase (lt_size_of_mem_flatMembers hg.parts hx)
    (lt_size_of_mem_flatMembers hg.parts hk)).1 hspells.text_eq
  have hle := hg.legible.weight_le_of_writesOut (o := o) hm
  have hlt := hg.legible.weight_lt_of_mem_flatMembers (o := o) hkind hx hk hne
  rw [hphrase] at hlt
  exact Nat.lt_irrefl _ (Nat.lt_of_lt_of_le hlt hle)

theorem Describable.ne_any_of_mem_flat (hg : g.Describable) {m : TypeId}
    (hm : m ∈ g.flatMembers id) : g.kind m ≠ .any :=
  (hg.known m (lt_size_of_mem_flatMembers hg.parts hm)).1

theorem sievedMembers_of_union {members : List TypeId} (hkind : g.kind id = .union members) :
    g.sievedMembers id = g.flatMembers id := by
  rw [sievedMembers, hkind]
  rfl

theorem sievedMembers_of_intersection {members : List TypeId}
    (hkind : g.kind id = .intersection members) :
    g.sievedMembers id = narrowMembers g (g.flatMembers id) := by
  rw [sievedMembers, hkind]
  rfl

/-- What a union and its flattened members admit. -/
theorem mem_union_iff {P : TypeId → Set Json} {members : List TypeId}
    (hkind : g.kind id = .union members)
    (hP : ∀ m, m ≠ id → g.name? m = none → P m = g.meaning P m) (v : Json) :
    v ∈ g.meaning P id ↔ ∃ m ∈ g.flatMembers id, v ∈ P m := by
  have hoperands : (g.kind id).operands? = some (true, members) := by rw [hkind]; rfl
  rw [meaning, kindValues_of_operands hoperands, ← values_flatMembers hP hoperands]
  rfl

theorem mem_intersection_iff {P : TypeId → Set Json} {members : List TypeId}
    (hkind : g.kind id = .intersection members)
    (hP : ∀ m, m ≠ id → g.name? m = none → P m = g.meaning P m) (v : Json) :
    v ∈ g.meaning P id ↔ ∀ m ∈ g.flatMembers id, v ∈ P m := by
  have hoperands : (g.kind id).operands? = some (false, members) := by rw [hkind]; rfl
  rw [meaning, kindValues_of_operands hoperands, ← values_flatMembers hP hoperands]
  rfl

theorem values_eq (g : TypeGraph) (m : TypeId) : g.values m = g.meaning g.values m :=
  (meaning_values g m).symm

/-- A union with an unknown member is unknown. -/
theorem values_absorbed {members : List TypeId} (hid : id < g.size)
    (hkind : g.kind id = .union members) {u : TypeId} (hu : u ∈ g.flatMembers id)
    (hunknown : g.kind u = .unknown) (m : TypeId) :
    (g.setKind id .unknown).values m = g.values m := by
  refine Set.Subset.antisymm (values_setKind_subset hid (fun v _ => ?_) m)
    (subset_values_setKind (fun v _ => ?_) m)
  · rw [values_eq g id, mem_union_iff hkind fun m _ _ => values_eq g m]
    refine ⟨u, hu, ?_⟩
    rw [values_eq g u, meaning, hunknown]
    trivial
  · rw [values_eq, meaning_setKind_self g .unknown _ hid]
    trivial

/-- An intersection of members that admit everything does so too. -/
theorem values_vanished {members : List TypeId} (hid : id < g.size)
    (hkind : g.kind id = .intersection members) (hempty : g.sievedMembers id = []) (m : TypeId) :
    (g.setKind id .unknown).values m = g.values m := by
  refine Set.Subset.antisymm (values_setKind_subset hid (fun v _ => ?_) m)
    (subset_values_setKind (fun v _ => ?_) m)
  · have hnarrow := values_narrowMembers (values_eq g) (g.flatMembers id)
    rw [← sievedMembers_of_intersection hkind, hempty] at hnarrow
    have hall : v ∈ operationValues false g.values (g.flatMembers id) := by
      rw [← hnarrow]
      exact fun m hm => absurd hm List.not_mem_nil
    rw [values_eq g id, mem_intersection_iff hkind fun m _ _ => values_eq g m]
    exact hall
  · rw [values_eq, meaning_setKind_self g .unknown _ hid]
    trivial

/-- **The members that a union drops are admitted by those that it keeps.** -/
theorem Describable.values_union (hg : g.Describable) (h : g.Regular o id) {members : List TypeId}
    (hid : id < g.size) (hkind : g.kind id = .union members) (m : TypeId) :
    (g.setKind id (.union (dedupeMembers g o (g.sievedMembers id)))).values m = g.values m := by
  let kind := TypeKind.union (dedupeMembers g o (g.sievedMembers id))
  have hsieved := sievedMembers_of_union hkind
  have hnew : ∀ m, m ≠ id → (g.setKind id kind).values m = g.meaning (g.setKind id kind).values m :=
    fun m hm => values_setKind_of_ne g kind hm
  have hle : ∀ m, (g.setKind id kind).values m ⊆ g.values m := by
    refine values_setKind_subset hid ?_
    rintro v ⟨y, hy, hv⟩
    rw [values_eq g id, mem_union_iff hkind fun m _ _ => values_eq g m]
    exact ⟨y, sievedMembers_subset (mem_of_mem_dedupeMembers hy), hv⟩
  refine Set.Subset.antisymm (hle m) (subset_values_setKind (fun v hv => ?_) m)
  rw [mem_union_iff hkind fun m hm _ => hnew m hm] at hv
  obtain ⟨x, hx, hv⟩ := hv
  -- the union is not written out in what the sieve compares, so that the old equations hold there
  have halike := h.alike_values hg fun x hx hname m hm =>
    hnew m (hg.ne_of_writesOut (sievedMembers_subset hx) hname hm)
  have hspelled : ∀ y ∈ g.sievedMembers id, ∀ k ∈ g.sievedMembers id, g.SpellsOut o y k →
      (g.setKind id kind).values y = (g.setKind id kind).values k := by
    intro y hy k hk hspells
    refine h.spelled_values hg hy hk hspells (fun m hm => hnew m ?_) fun m hm => hnew m ?_
    · exact hg.ne_of_writesOut (sievedMembers_subset hy) hspells.unnamed hm
    · exact hg.ne_of_writesOut_spelled hkind (hsieved ▸ hy) (hsieved ▸ hk) hspells hm
  obtain ⟨y, hy, hyx⟩ := hg.exists_kept (fun m hm => hg.lt_size_of_mem_sieved hm) (hsieved ▸ hx)
    halike hspelled fun _ _ k _ _ hkx => hg.not_renames_self (hle k (hkx ▸ hv))
  rw [values_eq, meaning_setKind_self g _ _ hid]
  exact ⟨y, hy, hyx ▸ hv⟩

/-- **The members that an intersection drops ask for no more than those that it keeps.** -/
theorem Describable.values_intersection (hg : g.Describable) (h : g.Regular o id)
    {members : List TypeId} (hid : id < g.size) (hkind : g.kind id = .intersection members)
    (m : TypeId) :
    (g.setKind id (.intersection (dedupeMembers g o (g.sievedMembers id)))).values m =
      g.values m := by
  let kind := TypeKind.intersection (dedupeMembers g o (g.sievedMembers id))
  refine Set.Subset.antisymm (values_setKind_subset hid (fun v hv => ?_) m)
    (subset_values_setKind (fun v hv => ?_) m)
  · have hnarrow := values_narrowMembers (values_eq g) (g.flatMembers id)
    rw [← sievedMembers_of_intersection hkind] at hnarrow
    have hall : v ∈ operationValues false g.values (g.sievedMembers id) := by
      intro x hx
      obtain ⟨y, hy, hyx⟩ := hg.exists_kept (fun m hm => hg.lt_size_of_mem_sieved hm) hx
        (h.alike_values hg fun x _ _ m _ => values_eq g m)
        (fun y hy k hk hspells => h.spelled_values hg hy hk hspells (fun m _ => values_eq g m)
          fun m _ => values_eq g m)
        (fun y hy k hk hspells _ => h.grounded members hkind y hy k hk hspells)
      exact hyx ▸ hv y hy
    rw [hnarrow] at hall
    rw [values_eq g id, mem_intersection_iff hkind fun m _ _ => values_eq g m]
    exact hall
  · rw [mem_intersection_iff hkind fun m hm _ => values_setKind_of_ne g _ hm] at hv
    rw [values_eq, meaning_setKind_self g _ _ hid]
    exact fun y hy => hv y (sievedMembers_subset (mem_of_mem_dedupeMembers hy))

/-- **One step keeps what all types admit.** -/
theorem Describable.values_setKind (hg : g.Describable) (h : g.Regular o id) {kind : TypeKind}
    (hid : id < g.size) (hkind : g.Simplifies o id kind) (m : TypeId) :
    (g.setKind id kind).values m = g.values m := by
  cases hkind with
  | absorbed hkind hu hunknown => exact values_absorbed hid hkind hu hunknown m
  | vanished hkind hempty => exact values_vanished hid hkind hempty m
  | union hkind => exact hg.values_union h hid hkind m
  | intersection hkind => exact hg.values_intersection h hid hkind m

/-! ### The whole pass -/

/-- The parts of a simpler kind are flattened members. -/
theorem Simplifies.mem_flatMembers {kind : TypeKind} (h : g.Simplifies o id kind) :
    ∀ c ∈ kind.children, c ∈ g.flatMembers id := by
  cases h with
  | absorbed | vanished => exact fun c hc => absurd hc List.not_mem_nil
  | union | intersection => exact fun c hc => sievedMembers_subset (mem_of_mem_dedupeMembers hc)

/-- **A simplified graph is as describable as before.** -/
theorem Describable.setKind (hg : g.Describable) {kind : TypeKind}
    (h : g.Simplifies o id kind) : (g.setKind id kind).Describable := by
  have hchildren := h.mem_flatMembers
  have hcases : ∀ m, (g.setKind id kind).kind m = g.kind m ∨
      (m = id ∧ (g.setKind id kind).kind m = kind) := by
    intro m
    rw [kind_setKind]
    split
    · next hm => exact Or.inr ⟨hm.1.symm, rfl⟩
    · exact Or.inl rfl
  have hplain : kind.literals = [] ∧ kind ≠ .any ∧ (∀ text, kind ≠ .custom text) ∧
      (∀ target, kind ≠ .reference target) ∧ ∀ entries, kind ≠ .enumeration entries := by
    cases h <;> simp [TypeKind.literals]
  have hstep : ∀ a b, (g.setKind id kind).UnnamedStep a b →
      Relation.TransGen g.UnnamedStep a b := by
    intro a b ⟨ha, hb, hbname⟩
    rw [name?_setKind] at ha hbname
    rcases hcases a with hsame | ⟨rfl, hnew⟩
    · rw [children, hsame] at hb
      exact .single ⟨ha, hb, hbname⟩
    · rw [children, hnew] at hb
      exact unnamedStep_of_mem_flatMembers ha (hchildren b hb) hbname
  refine ⟨?ordinary, ?names, ?targets, ?entries⟩
  case ordinary =>
    refine ⟨?parts, ?known, ?scalar, ?forms, ?distinct, ?cycles⟩
    case parts =>
      intro a part hpart
      rw [size_setKind]
      rcases hcases a with hsame | ⟨rfl, hnew⟩
      · rw [children, hsame] at hpart
        exact hg.parts a part hpart
      · rw [children, hnew] at hpart
        exact lt_size_of_mem_flatMembers hg.parts (hchildren part hpart)
    case known =>
      intro a ha
      rw [size_setKind] at ha
      rcases hcases a with hsame | ⟨-, hnew⟩
      · rw [hsame]
        exact hg.known a ha
      · rw [hnew]
        exact ⟨hplain.2.1, hplain.2.2.1⟩
    case scalar =>
      intro a value ha
      rcases hcases a with hsame | ⟨-, hnew⟩
      · exact hg.scalar a value (hsame ▸ ha)
      · have hnone := hplain.1
        rw [← hnew, ha] at hnone
        cases hnone
    case forms =>
      rintro v ⟨a, ha⟩
      rcases hcases a with hsame | ⟨-, hnew⟩
      · exact hg.forms v ⟨a, hsame ▸ ha⟩
      · rw [hnew, hplain.1] at ha
        exact absurd ha List.not_mem_nil
    case distinct =>
      intro a b name ha hb
      rw [name?_setKind] at ha hb
      exact hg.distinct a b name ha hb
    case cycles =>
      exact fun a hcycle => hg.cycles a (Relation.TransGen.closed hstep a a hcycle)
  case names =>
    intro a name ha
    rw [name?_setKind] at ha
    exact hg.names a name ha
  case targets =>
    intro a target ha
    rcases hcases a with hsame | ⟨-, hnew⟩
    · exact hg.targets a target (hsame ▸ ha)
    · exact absurd (hnew.symm.trans ha) (hplain.2.2.2.1 target)
  case entries =>
    intro a entries ha
    rcases hcases a with hsame | ⟨-, hnew⟩
    · exact hg.entries a entries (hsame ▸ ha)
    · exact absurd (hnew.symm.trans ha) (hplain.2.2.2.2 entries)

/-- One type is simplified, or the graph stays as it is. -/
theorem Describable.simplifyAt_cases (hg : g.Describable) (o : Options) (id : TypeId) :
    simplifyAt o g id = g ∨
      ∃ kind, simplifyAt o g id = g.setKind id kind ∧ id < g.size ∧ g.Simplifies o id kind := by
  unfold simplifyAt
  split
  · next kind hkind =>
    have hsimplifies := simplifies_of_simplerKind? (fun m hm => hg.ne_any_of_mem_flat hm) hkind
    refine Or.inr ⟨kind, rfl, Nat.lt_of_not_le fun hle => ?_, hsimplifies⟩
    have hany := kind_of_size_le hle
    cases hsimplifies with
    | absorbed h | union h | vanished h | intersection h =>
      rw [h] at hany
      cases hany
  · exact Or.inl rfl

/-- **Every step of simplification is regular**, from a graph on along a list of types. -/
def RegularSteps (o : Options) : TypeGraph → List TypeId → Prop
  | _, [] => True
  | g, id :: rest => g.Regular o id ∧ RegularSteps o (simplifyAt o g id) rest

/-- **Simplification keeps what all types admit**, where all its steps are regular. -/
theorem Describable.values_foldl_simplifyAt {ids : List TypeId} (hg : g.Describable)
    (h : RegularSteps o g ids) :
    (ids.foldl (simplifyAt o) g).Describable ∧
      ∀ id, (ids.foldl (simplifyAt o) g).values id = g.values id := by
  induction ids generalizing g with
  | nil => exact ⟨hg, fun _ => rfl⟩
  | cons id rest ih =>
    have hstep : (simplifyAt o g id).Describable ∧
        ∀ m, (simplifyAt o g id).values m = g.values m := by
      rcases hg.simplifyAt_cases o id with hsame | ⟨kind, hset, hid, hkind⟩
      · rw [hsame]
        exact ⟨hg, fun _ => rfl⟩
      · rw [hset]
        exact ⟨hg.setKind hkind, hg.values_setKind h.1 hid hkind⟩
    obtain ⟨hdescribable, hvalues⟩ := ih hstep.1 h.2
    exact ⟨hdescribable, fun m => (hvalues m).trans (hstep.2 m)⟩

end TypeGraph
end SchemaTypings
