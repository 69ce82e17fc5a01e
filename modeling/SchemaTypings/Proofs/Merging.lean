import Mathlib.Data.List.Nodup
import SchemaTypings.Proofs.Reachability
import SchemaTypings.Proofs.Stateful
import SchemaTypings.TypeGraph.Merge

/-! # What merging does

Merging first gathers the named types with their structures and then decides on that list alone:
`bearers` is the list, `repeats` the decision.  Of the bearers of one name the first stays and the
others are replaced by references to the name; two bearers that differ are a collision.  Classes of
one structure are merged in the same way under the first of their names.
-/
namespace SchemaTypings
namespace TypeGraph

/-! ### Replacing types -/

@[simp] theorem size_replace (g : TypeGraph) (r : Replacement) : (g.replace r).size = g.size :=
  size_modifyNode ..

@[simp] theorem root_replace (g : TypeGraph) (r : Replacement) : (g.replace r).root = g.root := rfl

theorem name?_replace (g : TypeGraph) (r : Replacement) (id : TypeId) :
    (g.replace r).name? id = if r.id = id then none else g.name? id := by
  simp only [name?, replace, node_modifyNode]
  by_cases hid : r.id = id
  · by_cases hlt : id < g.size
    · simp [hid, hlt]
    · simp only [hid, hlt, and_false, if_false, if_true]
      exact Option.eq_none_iff_forall_ne_some.2 fun name h => hlt (lt_size_of_name? h)
  · simp [hid]

theorem kind_replace (g : TypeGraph) (r : Replacement) (id : TypeId) :
    (g.replace r).kind id =
      if r.id = id ∧ id < g.size then .reference r.target else g.kind id := by
  simp only [TypeGraph.kind, replace, node_modifyNode]
  split <;> rfl

/-- Whether some replacement of a list is made at a type. -/
def IsReplaced (rs : List Replacement) (id : TypeId) : Prop := ∃ r ∈ rs, r.id = id

theorem isReplaced_cons {r : Replacement} {rs : List Replacement} {id : TypeId} :
    IsReplaced (r :: rs) id ↔ r.id = id ∨ IsReplaced rs id := by
  simp [IsReplaced]

theorem isReplaced_append {rs ss : List Replacement} {id : TypeId} :
    IsReplaced (rs ++ ss) id ↔ IsReplaced rs id ∨ IsReplaced ss id := by
  simp [IsReplaced, or_and_right, exists_or]

@[simp] theorem size_foldl_replace (g : TypeGraph) (rs : List Replacement) :
    (rs.foldl replace g).size = g.size := by
  induction rs generalizing g with
  | nil => rfl
  | cons r rs ih => rw [List.foldl_cons, ih, size_replace]

@[simp] theorem root_foldl_replace (g : TypeGraph) (rs : List Replacement) :
    (rs.foldl replace g).root = g.root := by
  induction rs generalizing g with
  | nil => rfl
  | cons r rs ih => rw [List.foldl_cons, ih, root_replace]

/-- A type that is not replaced keeps its name. -/
theorem name?_foldl_replace_of_not {g : TypeGraph} {rs : List Replacement} {id : TypeId}
    (h : ¬ IsReplaced rs id) : (rs.foldl replace g).name? id = g.name? id := by
  induction rs generalizing g with
  | nil => rfl
  | cons r rs ih =>
    rw [isReplaced_cons, not_or] at h
    rw [List.foldl_cons, ih h.2, name?_replace, if_neg h.1]

/-- A type without a name gets none. -/
theorem name?_foldl_replace_of_none {g : TypeGraph} {rs : List Replacement} {id : TypeId}
    (h : g.name? id = none) : (rs.foldl replace g).name? id = none := by
  induction rs generalizing g with
  | nil => exact h
  | cons r rs ih =>
    rw [List.foldl_cons]
    apply ih
    rw [name?_replace]
    split
    · rfl
    · exact h

/-- A type that is replaced loses its name. -/
theorem name?_foldl_replace_of_replaced {g : TypeGraph} {rs : List Replacement} {id : TypeId}
    (h : IsReplaced rs id) : (rs.foldl replace g).name? id = none := by
  induction rs generalizing g with
  | nil =>
    obtain ⟨r, hr, -⟩ := h
    cases hr
  | cons r rs ih =>
    rw [List.foldl_cons]
    rcases isReplaced_cons.1 h with hid | h
    · exact name?_foldl_replace_of_none (by rw [name?_replace, if_pos hid])
    · exact ih h

/-- The names that are left are those of the types that are not replaced. -/
theorem name?_foldl_replace_eq_some {g : TypeGraph} {rs : List Replacement} {id : TypeId}
    {name : String} :
    (rs.foldl replace g).name? id = some name ↔ ¬ IsReplaced rs id ∧ g.name? id = some name := by
  by_cases hreplaced : IsReplaced rs id
  · simp [name?_foldl_replace_of_replaced hreplaced, hreplaced]
  · simp [name?_foldl_replace_of_not hreplaced, hreplaced]

/-- A type that is not replaced keeps its kind. -/
theorem kind_foldl_replace_of_not {g : TypeGraph} {rs : List Replacement} {id : TypeId}
    (h : ¬ IsReplaced rs id) : (rs.foldl replace g).kind id = g.kind id := by
  induction rs generalizing g with
  | nil => rfl
  | cons r rs ih =>
    rw [isReplaced_cons, not_or] at h
    rw [List.foldl_cons, ih h.2, kind_replace, if_neg fun hc => h.1 hc.1]

/-- A type that is replaced becomes a reference that one of the replacements asks for. -/
theorem kind_foldl_replace_of_replaced {g : TypeGraph} {rs : List Replacement} {id : TypeId}
    (hid : id < g.size) (h : IsReplaced rs id) :
    ∃ r ∈ rs, r.id = id ∧ (rs.foldl replace g).kind id = .reference r.target := by
  induction rs generalizing g with
  | nil =>
    obtain ⟨r, hr, -⟩ := h
    cases hr
  | cons r rs ih =>
    rw [List.foldl_cons]
    by_cases hlater : IsReplaced rs id
    · obtain ⟨s, hs, hsid, hkind⟩ := ih (g := g.replace r) (by simpa using hid) hlater
      exact ⟨s, List.mem_cons_of_mem _ hs, hsid, hkind⟩
    · have hr : r.id = id := (isReplaced_cons.1 h).resolve_right hlater
      refine ⟨r, List.mem_cons_self .., hr, ?_⟩
      rw [kind_foldl_replace_of_not hlater, kind_replace, if_pos ⟨hr, hid⟩]

/-- **What is reached after replacing** is what was reached around the replaced types. -/
theorem reached_foldl_replace_iff (g : TypeGraph) (rs : List Replacement) (id : TypeId) :
    (rs.foldl replace g).Reached id ↔ g.ReachedAround (IsReplaced rs) id := by
  -- a replaced type out of range has no parts before and after
  refine reached_iff_reachedAround (root_foldl_replace ..) (size_foldl_replace ..) ?_ ?_ id
  · intro other hother
    rcases Nat.lt_or_ge other g.size with hlt | hle
    · obtain ⟨r, -, -, hkind⟩ := kind_foldl_replace_of_replaced hlt hother
      rw [children, hkind]
      rfl
    · refine List.eq_nil_iff_forall_not_mem.2 fun part hpart => ?_
      have hlt := lt_size_of_mem_children hpart
      rw [size_foldl_replace] at hlt
      exact absurd hlt (Nat.not_lt.2 hle)
  · intro other hother
    rw [children, children, kind_foldl_replace_of_not hother]

/-! ### The named types with their structures -/

/-- A named type with its structure. -/
structure Bearer where
  id : TypeId
  name : String
  shape : String

/-- The named types among `ids` with their structures, in one session. -/
def bearersOf (g : TypeGraph) (o : Options) : List TypeId → Rendering (List Bearer)
  | [] => return []
  | id :: rest =>
    match g.name? id with
    | none => bearersOf g o rest
    | some name => do
      let shape ← structureText g o id
      let later ← bearersOf g o rest
      return ⟨id, name, shape⟩ :: later

/-- **The named types that are reached, with their structures**, in the order of the walk. -/
def bearers (g : TypeGraph) (o : Options) : List Bearer := ((bearersOf g o g.reachable).run {}).1

/-- Two bearers of one name that differ in structure. -/
def Bearer.Conflicts (b c : Bearer) : Prop := b.name = c.name ∧ b.shape ≠ c.shape

/-- The bearers among `ids` are the named ones, in order. -/
theorem map_bearersOf (g : TypeGraph) (o : Options) (ids : List TypeId) (texts : Texts) :
    (((bearersOf g o ids).run texts).1).map (fun b => (b.id, b.name)) =
      ids.filterMap fun id => (g.name? id).map fun name => (id, name) := by
  induction ids generalizing texts with
  | nil => rfl
  | cons id rest ih =>
    unfold bearersOf
    cases h : g.name? id with
    | none => simpa [h] using ih texts
    | some name =>
      simp only [h, run_bind_eq, run_pure_eq, List.map_cons, ih, List.filterMap_cons,
        Option.map_some]

theorem map_bearers (g : TypeGraph) (o : Options) :
    (g.bearers o).map (fun b => (b.id, b.name)) =
      g.reachable.filterMap fun id => (g.name? id).map fun name => (id, name) :=
  map_bearersOf ..

/-- Every named type that is reached is a bearer. -/
theorem exists_bearer {g : TypeGraph} (o : Options) {id : TypeId} {name : String}
    (hid : g.Reached id) (hname : g.name? id = some name) :
    ∃ b ∈ g.bearers o, b.id = id ∧ b.name = name := by
  have hmem : (id, name) ∈ (g.bearers o).map fun b => (b.id, b.name) := by
    rw [map_bearers, List.mem_filterMap]
    exact ⟨id, (mem_reachable_iff g id).2 hid, by rw [hname]; rfl⟩
  obtain ⟨b, hb, heq⟩ := List.mem_map.1 hmem
  cases heq
  exact ⟨b, hb, rfl, rfl⟩

/-- A bearer among `ids` is one of them, and has its name. -/
theorem mem_bearersOf {g : TypeGraph} {o : Options} {ids : List TypeId} {texts : Texts}
    {b : Bearer} (h : b ∈ ((bearersOf g o ids).run texts).1) :
    b.id ∈ ids ∧ g.name? b.id = some b.name := by
  have hmem : (b.id, b.name) ∈ (((bearersOf g o ids).run texts).1).map
      fun b => (b.id, b.name) := List.mem_map.2 ⟨b, h, rfl⟩
  rw [map_bearersOf, List.mem_filterMap] at hmem
  obtain ⟨id, hid, heq⟩ := hmem
  obtain ⟨name, hname, heq⟩ := Option.map_eq_some_iff.1 heq
  cases heq
  exact ⟨hid, hname⟩

/-- What holds of the structure of each type holds of its bearer. -/
theorem after_bearersOf {g : TypeGraph} {o : Options} {I : Texts → Prop}
    {Q : TypeId → String → Prop} {ids : List TypeId}
    (h : ∀ id ∈ ids, ∀ name, g.name? id = some name → ∀ s, I s →
      After (structureText g o id) s fun text t => I t ∧ Q id text) {s : Texts} (hs : I s) :
    After (bearersOf g o ids) s fun bs t => I t ∧ ∀ b ∈ bs, Q b.id b.shape := by
  induction ids generalizing s with
  | nil => exact after_pure.2 ⟨hs, fun b hb => absurd hb List.not_mem_nil⟩
  | cons id rest ih =>
    have ih := @ih fun other hother => h other (List.mem_cons_of_mem _ hother)
    unfold bearersOf
    cases hname : g.name? id with
    | none => exact ih hs
    | some name =>
      refine after_bind.2 ((h id List.mem_cons_self name hname s hs).mono
        fun text t ⟨ht, htext⟩ => after_bind.2 ?_)
      refine (ih ht).mono fun bs u ⟨hu, hbs⟩ => after_pure.2 ⟨hu, fun b hb => ?_⟩
      rcases List.mem_cons.1 hb with rfl | hb
      · exact htext
      · exact hbs b hb

/-- A bearer is a type that is reached, with its name. -/
theorem reached_of_mem_bearers {g : TypeGraph} {o : Options} {b : Bearer} (h : b ∈ g.bearers o) :
    g.Reached b.id ∧ g.name? b.id = some b.name := by
  obtain ⟨hid, hname⟩ := mem_bearersOf h
  exact ⟨(mem_reachable_iff g _).1 hid, hname⟩

/-- Different bearers among different types are different types. -/
theorem nodup_bearersOf (g : TypeGraph) (o : Options) {ids : List TypeId} (h : ids.Nodup)
    (texts : Texts) : ((((bearersOf g o ids).run texts).1).map Bearer.id).Nodup := by
  have heq : (((bearersOf g o ids).run texts).1).map Bearer.id =
      ids.filter fun id => (g.name? id).isSome := by
    have h := congrArg (List.map Prod.fst) (map_bearersOf g o ids texts)
    rw [List.map_map, List.map_filterMap] at h
    rw [← List.filterMap_eq_filter]
    refine Eq.trans h (List.filterMap_congr fun id _ => ?_)
    cases hname : g.name? id <;> simp [Option.guard, hname]
  rw [heq]
  exact h.filter _

theorem nodup_bearers (g : TypeGraph) (o : Options) : ((g.bearers o).map Bearer.id).Nodup :=
  nodup_bearersOf g o (nodup_reachable g) _

/-! ### Merging names -/

/-- The bearers that repeat an earlier one of their name, or the collision of two that differ. -/
def repeats (g : TypeGraph) :
    FirstOfName → List Bearer → Except CompileError (List Replacement)
  | _, [] => .ok []
  | first, b :: rest =>
    match first.get? b.name with
    | none => repeats g (first.insert b.name (b.id, b.shape)) rest
    | some (earlier, shape) =>
      if shape = b.shape then (repeats g first rest).map (⟨b.id, b.name⟩ :: ·)
      else .error (.nameCollision b.name (originText g earlier) (originText g b.id))

/-- The decision of a session is the decision on its bearers. -/
theorem repeatedNames_run (g : TypeGraph) (o : Options) (first : FirstOfName) (ids : List TypeId)
    (texts : Texts) :
    ((repeatedNames g o first ids).run texts).1 =
      repeats g first ((bearersOf g o ids).run texts).1 := by
  induction ids generalizing first texts with
  | nil => rfl
  | cons id rest ih =>
    unfold repeatedNames bearersOf
    cases hname : g.name? id with
    | none => exact ih first texts
    | some name =>
      simp only [run_bind_eq, run_pure_eq]
      unfold repeats
      cases hfirst : first.get? name with
      | none => exact ih _ _
      | some earlier =>
        obtain ⟨earlier, shape⟩ := earlier
        by_cases hshape : shape = ((structureText g o id).run texts).1
        · simp only [hshape, if_true, run_bind_eq, run_pure_eq, ih]
        · simp only [hshape, if_false, run_pure_eq]

theorem mergeNames_eq (g : TypeGraph) (o : Options) :
    g.mergeNames o = (repeats g [] (g.bearers o)).map fun rs => rs.foldl replace g := by
  unfold mergeNames
  rw [repeatedNames_run]
  rfl

/-- Bearers of distinct names are not merged. -/
theorem repeats_eq_nil {g : TypeGraph} {bs : List Bearer} (hnames : (bs.map Bearer.name).Nodup)
    {first : FirstOfName} (hfirst : ∀ b ∈ bs, first.get? b.name = none) :
    repeats g first bs = .ok [] := by
  induction bs generalizing first with
  | nil => rfl
  | cons b rest ih =>
    rw [List.map_cons, List.nodup_cons] at hnames
    rw [repeats, hfirst b (List.mem_cons_self ..)]
    refine ih hnames.2 fun c hc => ?_
    have hne : b.name ≠ c.name := fun heq => hnames.1 (heq ▸ List.mem_map_of_mem hc)
    rw [Dict.get?_insert_of_ne _ _ hne]
    exact hfirst c (List.mem_cons_of_mem _ hc)

/-- **Types of distinct names are not merged by name.** -/
theorem repeats_bearers_eq_nil {g : TypeGraph} (o : Options)
    (hnames : ∀ id other name, g.Reached id → g.Reached other → g.name? id = some name →
      g.name? other = some name → id = other) : repeats g [] (g.bearers o) = .ok [] := by
  refine repeats_eq_nil ?_ fun _ _ => rfl
  refine List.Nodup.map_on (fun b hb c hc heq => ?_) (List.Nodup.of_map _ (nodup_bearers g o))
  obtain ⟨hbreached, hbname⟩ := reached_of_mem_bearers hb
  obtain ⟨hcreached, hcname⟩ := reached_of_mem_bearers hc
  have hid := hnames b.id c.id b.name hbreached hcreached hbname (heq ▸ hcname)
  exact List.inj_on_of_nodup_map (nodup_bearers g o) hb hc hid

/-- A refusal to merge is a collision. -/
theorem collision_of_repeats_eq_error {g : TypeGraph} {first : FirstOfName} {bs : List Bearer}
    {e : CompileError} (h : repeats g first bs = .error e) :
    ∃ name a b, e = .nameCollision name a b := by
  induction bs generalizing first with
  | nil => cases h
  | cons b rest ih =>
    unfold repeats at h
    split at h
    · exact ih h
    · split at h
      · cases hrest : repeats g _ rest with
        | error e' =>
          rw [hrest] at h
          cases h
          exact ih hrest
        | ok rs => rw [hrest] at h; cases h
      · cases h
        exact ⟨_, _, _, rfl⟩

theorem not_conflicts_cons {b : Bearer} {rest : List Bearer}
    (hb : ∀ c ∈ rest, b.name = c.name → b.shape = c.shape)
    (hrest : ∀ c ∈ rest, ∀ d ∈ rest, ¬ c.Conflicts d) :
    ∀ c ∈ b :: rest, ∀ d ∈ b :: rest, ¬ c.Conflicts d := by
  intro c hc d hd hconf
  rcases List.mem_cons.1 hc with rfl | hc'
  · rcases List.mem_cons.1 hd with rfl | hd'
    · exact hconf.2 rfl
    · exact hconf.2 (hb d hd' hconf.1)
  · rcases List.mem_cons.1 hd with rfl | hd'
    · exact hconf.2 (hb c hc' hconf.1.symm).symm
    · exact hrest c hc' d hd' hconf

/-- Where merging goes through, each bearer has the structure that is remembered for its name, and
no two bearers conflict. -/
theorem not_conflicts_of_repeats_eq_ok {g : TypeGraph} {first : FirstOfName} {bs : List Bearer}
    {rs : List Replacement} (h : repeats g first bs = .ok rs) :
    (∀ b ∈ bs, ∀ e, first.get? b.name = some e → e.2 = b.shape) ∧
      ∀ b ∈ bs, ∀ c ∈ bs, ¬ b.Conflicts c := by
  induction bs generalizing first rs with
  | nil => exact ⟨by simp, by simp⟩
  | cons b rest ih =>
    unfold repeats at h
    split at h
    · next hnone =>
      -- `b` is the first of its name: what follows is compared with it
      obtain ⟨hknown, hagree⟩ := ih h
      have hb : ∀ c ∈ rest, b.name = c.name → b.shape = c.shape := by
        intro c hc hname
        exact hknown c hc (b.id, b.shape) (hname ▸ Dict.get?_insert_self ..)
      refine ⟨?_, not_conflicts_cons hb hagree⟩
      · intro c hc e he
        rcases List.mem_cons.1 hc with rfl | hc
        · rw [hnone] at he; cases he
        · by_cases hname : b.name = c.name
          · rw [← hname, hnone] at he; cases he
          · exact hknown c hc e (by rw [Dict.get?_insert_of_ne _ _ hname]; exact he)
    · next earlier shape hsome =>
      split at h
      · next hshape =>
        cases hrest : repeats g first rest with
        | error e => rw [hrest] at h; cases h
        | ok later =>
          obtain ⟨hknown, hagree⟩ := ih hrest
          have hb : ∀ c ∈ rest, b.name = c.name → b.shape = c.shape := by
            intro c hc hname
            exact hshape.symm.trans (hknown c hc _ (hname ▸ hsome))
          refine ⟨?_, not_conflicts_cons hb hagree⟩
          · intro c hc e he
            rcases List.mem_cons.1 hc with rfl | hc
            · rw [hsome] at he; cases he; exact hshape
            · exact hknown c hc e he
      · cases h

/-- Where merging is refused, some bearer conflicts with what is remembered or with another. -/
theorem conflicts_of_repeats_eq_error {g : TypeGraph} {first : FirstOfName} {bs : List Bearer}
    {e : CompileError} (h : repeats g first bs = .error e) :
    (∃ b ∈ bs, ∃ e, first.get? b.name = some e ∧ e.2 ≠ b.shape) ∨
      ∃ b ∈ bs, ∃ c ∈ bs, b.Conflicts c := by
  induction bs generalizing first e with
  | nil => cases h
  | cons b rest ih =>
    unfold repeats at h
    split at h
    · next hnone =>
      rcases ih h with ⟨c, hc, known, hget, hne⟩ | ⟨c, hc, d, hd, hconf⟩
      · by_cases hname : b.name = c.name
        · rw [← hname, Dict.get?_insert_self] at hget
          cases hget
          exact Or.inr ⟨b, List.mem_cons_self .., c, List.mem_cons_of_mem _ hc, hname, hne⟩
        · rw [Dict.get?_insert_of_ne _ _ hname] at hget
          exact Or.inl ⟨c, List.mem_cons_of_mem _ hc, known, hget, hne⟩
      · exact Or.inr ⟨c, List.mem_cons_of_mem _ hc, d, List.mem_cons_of_mem _ hd, hconf⟩
    · next earlier shape hsome =>
      split at h
      · cases hrest : repeats g first rest with
        | error e' =>
          rcases ih hrest with ⟨c, hc, hknown⟩ | ⟨c, hc, d, hd, hconf⟩
          · exact Or.inl ⟨c, List.mem_cons_of_mem _ hc, hknown⟩
          · exact Or.inr ⟨c, List.mem_cons_of_mem _ hc, d, List.mem_cons_of_mem _ hd, hconf⟩
        | ok later => rw [hrest] at h; cases h
      · next hshape => exact Or.inl ⟨b, List.mem_cons_self .., _, hsome, hshape⟩

/-- A bearer repeats its name where the name is remembered, and where another bearer has it first. -/
def IsRepeated (first : FirstOfName) (bs : List Bearer) (b : Bearer) : Prop :=
  (first.get? b.name).isSome ∨ bs.find? (fun a => a.name = b.name) ≠ some b

theorem isRepeated_of_known {first : FirstOfName} {bs : List Bearer} {b : Bearer}
    {known : TypeId × String} (hsome : first.get? b.name = some known) : IsRepeated first bs b :=
  Or.inl (by rw [hsome]; rfl)

theorem not_isRepeated_self {first : FirstOfName} {bs : List Bearer} {b : Bearer}
    (hnone : first.get? b.name = none) : ¬ IsRepeated first (b :: bs) b := by
  rintro (hknown | hfind)
  · rw [hnone] at hknown
    cases hknown
  · exact hfind (List.find?_cons_of_pos (by simp))

/-- Remembering the name of the first bearer is having the bearer in the list. -/
theorem isRepeated_insert {first : FirstOfName} {bs : List Bearer} {b c : Bearer} (hne : b ≠ c)
    (known : TypeId × String) :
    IsRepeated (first.insert b.name known) bs c ↔ IsRepeated first (b :: bs) c := by
  by_cases hname : b.name = c.name
  · have hknown : (first.insert b.name known).get? c.name = some known := by
      rw [hname, Dict.get?_insert_self]
    refine iff_of_true (isRepeated_of_known hknown) (Or.inr ?_)
    rw [List.find?_cons_of_pos (by simpa using hname)]
    exact fun heq => hne (Option.some.inj heq)
  · rw [IsRepeated, IsRepeated, Dict.get?_insert_of_ne _ _ hname,
      List.find?_cons_of_neg (by simpa using hname)]

/-- Where its name is remembered, a bearer makes no other one repeat it. -/
theorem isRepeated_cons {first : FirstOfName} {bs : List Bearer} {b : Bearer}
    {known : TypeId × String} (hsome : first.get? b.name = some known) (c : Bearer) :
    IsRepeated first (b :: bs) c ↔ IsRepeated first bs c := by
  by_cases hname : b.name = c.name
  · rw [hname] at hsome
    exact iff_of_true (isRepeated_of_known hsome) (isRepeated_of_known hsome)
  · rw [IsRepeated, IsRepeated, List.find?_cons_of_neg (by simpa using hname)]

/-- The bearers that are replaced are those that repeat their name. -/
theorem mem_of_repeats_eq_ok {g : TypeGraph} {first : FirstOfName} {bs : List Bearer}
    {rs : List Replacement} (hnodup : (bs.map Bearer.id).Nodup) (h : repeats g first bs = .ok rs)
    (r : Replacement) : r ∈ rs ↔ ∃ b ∈ bs, r = ⟨b.id, b.name⟩ ∧ IsRepeated first bs b := by
  induction bs generalizing first rs with
  | nil => cases h; simp
  | cons b rest ih =>
    rw [List.map_cons, List.nodup_cons] at hnodup
    have hne : ∀ c ∈ rest, b ≠ c := fun c hc heq =>
      hnodup.1 (List.mem_map.2 ⟨c, hc, congrArg Bearer.id heq.symm⟩)
    unfold repeats at h
    rw [List.exists_mem_cons_iff]
    split at h
    · next hnone =>
      -- `b` is the first of its name, and is not replaced
      rw [ih hnodup.2 h]
      constructor
      · rintro ⟨c, hc, hr, hrepeated⟩
        exact Or.inr ⟨c, hc, hr, (isRepeated_insert (hne c hc) _).1 hrepeated⟩
      · rintro (⟨-, hrepeated⟩ | ⟨c, hc, hr, hrepeated⟩)
        · exact absurd hrepeated (not_isRepeated_self hnone)
        · exact ⟨c, hc, hr, (isRepeated_insert (hne c hc) _).2 hrepeated⟩
    · next earlier shape hsome =>
      split at h
      · cases hrest : repeats g first rest with
        | error e => rw [hrest] at h; cases h
        | ok later =>
          rw [hrest] at h
          cases h
          rw [List.mem_cons, ih hnodup.2 hrest]
          simp only [isRepeated_cons hsome]
          exact or_congr_left ⟨fun hr => ⟨hr, isRepeated_of_known hsome⟩, And.left⟩
      · cases h

/-- Replacements are made in the order of the bearers. -/
theorem sublist_of_repeats_eq_ok {g : TypeGraph} {first : FirstOfName} {bs : List Bearer}
    {rs : List Replacement} (h : repeats g first bs = .ok rs) :
    (rs.map Replacement.id).Sublist (bs.map Bearer.id) := by
  induction bs generalizing first rs with
  | nil =>
    cases h
    exact .slnil
  | cons b rest ih =>
    unfold repeats at h
    split at h
    · exact (ih h).cons _
    · split at h
      · cases hrest : repeats g first rest with
        | error e => rw [hrest] at h; cases h
        | ok later =>
          rw [hrest] at h
          cases h
          exact (ih hrest).cons_cons _
      · cases h

/-! ### Merging classes -/

/-- The named classes that are reached, with their structures, in the order of the walk. -/
def classBearers (g : TypeGraph) (o : Options) : List Bearer :=
  ((bearersOf g o (g.reachable.filter fun id => (g.kind id).isRecord)).run {}).1

/-- The bearers whose structure was first seen under another name; `first` holds the first name of
every structure. -/
def duplicates : Dict String → List Bearer → List Replacement
  | _, [] => []
  | first, b :: rest =>
    match first.get? b.shape with
    | none => duplicates (first.insert b.shape b.name) rest
    | some earlier =>
      if earlier ≠ b.name then ⟨b.id, earlier⟩ :: duplicates first rest else duplicates first rest

theorem repeatedClasses_run (g : TypeGraph) (o : Options) (first : Dict String)
    (ids : List TypeId) (texts : Texts) :
    ((repeatedClasses g o first ids).run texts).1 =
      duplicates first
        ((bearersOf g o (ids.filter fun id => (g.kind id).isRecord)).run texts).1 := by
  induction ids generalizing first texts with
  | nil => rfl
  | cons id rest ih =>
    unfold repeatedClasses
    rw [List.filter_cons]
    by_cases hrecord : (g.kind id).isRecord = true
    · rw [if_pos hrecord]
      unfold bearersOf
      cases hname : g.name? id with
      | none => exact ih first texts
      | some name =>
        simp only [hrecord, run_bind_eq, run_pure_eq]
        unfold duplicates
        cases hfirst : first.get? ((structureText g o id).run texts).1 with
        | none => exact ih _ _
        | some earlier => simp only [run_bind_eq, run_pure_eq, ih]
    · rw [if_neg hrecord]
      cases hname : g.name? id with
      | none => exact ih first texts
      | some name => simpa only [hrecord] using ih first texts

theorem mergeClasses_eq (g : TypeGraph) (o : Options) :
    g.mergeClasses o = (duplicates [] (g.classBearers o)).foldl replace g := by
  unfold mergeClasses
  rw [repeatedClasses_run]
  rfl

/-- The first name of a structure: the one remembered for it, or that of the first bearer in the
list. -/
def firstName? (first : Dict String) (bs : List Bearer) (shape : String) : Option String :=
  first.get? shape <|> (bs.find? fun a => a.shape = shape).map Bearer.name

theorem firstName?_self {first : Dict String} {b : Bearer} {bs : List Bearer}
    (hnone : first.get? b.shape = none) : firstName? first (b :: bs) b.shape = some b.name := by
  rw [firstName?, hnone, List.find?_cons_of_pos (by simp)]
  rfl

theorem firstName?_known {first : Dict String} {bs : List Bearer} {shape name : String}
    (hsome : first.get? shape = some name) : firstName? first bs shape = some name := by
  rw [firstName?, hsome]
  rfl

/-- Remembering the name of the first bearer is having the bearer in the list. -/
theorem firstName?_insert {first : Dict String} {b : Bearer} {bs : List Bearer}
    (hnone : first.get? b.shape = none) (shape : String) :
    firstName? (first.insert b.shape b.name) bs shape = firstName? first (b :: bs) shape := by
  by_cases hshape : b.shape = shape
  · rw [← hshape, firstName?_self hnone, firstName?_known (Dict.get?_insert_self ..)]
  · rw [firstName?, firstName?, Dict.get?_insert_of_ne _ _ hshape,
      List.find?_cons_of_neg (by simpa using hshape)]

/-- Where its structure has a name already, a bearer gives it none. -/
theorem firstName?_cons {first : Dict String} {b : Bearer} {bs : List Bearer} {earlier : String}
    (hsome : first.get? b.shape = some earlier) (shape : String) :
    firstName? first (b :: bs) shape = firstName? first bs shape := by
  by_cases hshape : b.shape = shape
  · rw [← hshape, firstName?_known hsome, firstName?_known hsome]
  · rw [firstName?, firstName?, List.find?_cons_of_neg (by simpa using hshape)]

/-- The bearers that are replaced: those whose structure has a first name that is not their own. -/
theorem mem_duplicates {first : Dict String} {bs : List Bearer} (r : Replacement) :
    r ∈ duplicates first bs ↔ ∃ b ∈ bs, ∃ name,
      firstName? first bs b.shape = some name ∧ name ≠ b.name ∧ r = ⟨b.id, name⟩ := by
  induction bs generalizing first with
  | nil => simp [duplicates]
  | cons b rest ih =>
    unfold duplicates
    rw [List.exists_mem_cons_iff]
    split
    · next hnone =>
      -- `b` gives its structure the first name, and is not replaced
      simp only [ih, firstName?_insert hnone, firstName?_self hnone]
      refine ⟨Or.inr, fun h => h.resolve_left ?_⟩
      rintro ⟨name, hname, hne, -⟩
      exact hne (Option.some.inj hname).symm
    · next earlier hsome =>
      simp only [firstName?_cons hsome, firstName?_known hsome]
      split
      · next hne =>
        rw [List.mem_cons, ih]
        refine or_congr_left ⟨fun hr => ⟨earlier, rfl, hne, hr⟩, ?_⟩
        rintro ⟨name, hname, -, hr⟩
        cases hname
        exact hr
      · next heq =>
        rw [ih]
        refine ⟨Or.inr, fun h => h.resolve_left ?_⟩
        rintro ⟨name, hname, hne, -⟩
        cases hname
        exact heq hne

theorem sublist_duplicates (first : Dict String) (bs : List Bearer) :
    ((duplicates first bs).map Replacement.id).Sublist (bs.map Bearer.id) := by
  induction bs generalizing first with
  | nil => exact .slnil
  | cons b rest ih =>
    unfold duplicates
    split
    · exact (ih _).cons _
    · split
      · exact (ih _).cons_cons _
      · exact (ih _).cons _

/-! ### Optimizing -/

/-- The replacements that merging names makes. -/
def nameReplacements (g : TypeGraph) (o : Options) : List Replacement :=
  match repeats g [] (g.bearers o) with
  | .ok rs => rs
  | .error _ => []

/-- The replacements that merging classes makes, if it is asked for. -/
def classReplacements (g : TypeGraph) (o : Options) : List Replacement :=
  if o.deduplicateClasses then duplicates [] (g.classBearers o) else []

/-- **All replacements that are made in a simplified graph.** -/
def replacements (g : TypeGraph) (o : Options) : List Replacement :=
  g.nameReplacements o ++
    ((g.nameReplacements o).foldl replace g).classReplacements o

/-- The outcome of optimizing: the collision that merging names finds, or the simplified graph with
all replacements made. -/
theorem optimize_eq_ok_iff (g h : TypeGraph) (o : Options) :
    g.optimize o = .ok h ↔
      (∃ rs, repeats (g.simplify o) [] ((g.simplify o).bearers o) = .ok rs) ∧
        h = ((g.simplify o).replacements o).foldl replace (g.simplify o) := by
  unfold optimize replacements nameReplacements classReplacements
  rw [mergeNames_eq]
  cases hrs : repeats (g.simplify o) [] ((g.simplify o).bearers o) with
  | error e =>
    constructor
    · intro hok; cases hok
    · rintro ⟨⟨rs, hok⟩, -⟩; cases hok
  | ok rs =>
    simp only [List.foldl_append]
    by_cases hdedup : o.deduplicateClasses = true
    · simp only [hdedup, if_true, ← mergeClasses_eq]
      constructor
      · intro hok; cases hok; exact ⟨⟨rs, rfl⟩, rfl⟩
      · rintro ⟨-, rfl⟩; rfl
    · simp only [hdedup]
      constructor
      · intro hok; cases hok; exact ⟨⟨rs, rfl⟩, rfl⟩
      · rintro ⟨-, rfl⟩; rfl

/-- **A class is replaced** by the first class of its structure, which has another name. -/
theorem exists_of_mem_classReplacements {g : TypeGraph} {o : Options} {r : Replacement}
    (h : r ∈ g.classReplacements o) : o.deduplicateClasses = true ∧
      ∃ b ∈ g.classBearers o, ∃ a ∈ g.classBearers o,
        (g.classBearers o).find? (fun c => c.shape = b.shape) = some a ∧ a.shape = b.shape ∧
          a.name ≠ b.name ∧ r = ⟨b.id, a.name⟩ := by
  unfold classReplacements at h
  split at h
  · next hdeduplicate =>
    obtain ⟨b, hb, name, hfirst, hne, rfl⟩ := (mem_duplicates r).1 h
    obtain ⟨a, hfind, rfl⟩ := Option.map_eq_some_iff.1 (hfirst : Option.map _ _ = _)
    exact ⟨hdeduplicate, b, hb, a, List.mem_of_find?_eq_some hfind, hfind,
      by simpa using List.find?_some hfind, hne, rfl⟩
  · cases h

/-- Merging classes replaces types that still have a name. -/
theorem name?_of_mem_classReplacements {g : TypeGraph} {o : Options} {r : Replacement}
    (h : r ∈ g.classReplacements o) : (g.name? r.id).isSome := by
  obtain ⟨-, b, hb, a, -, -, -, -, rfl⟩ := exists_of_mem_classReplacements h
  rw [(mem_bearersOf hb).2]
  rfl

/-- **No type is replaced twice.** -/
theorem nodup_replacements (g : TypeGraph) (o : Options) :
    ((g.replacements o).map Replacement.id).Nodup := by
  have hnames : ((g.nameReplacements o).map Replacement.id).Nodup := by
    unfold nameReplacements
    split
    · next rs hrs => exact (nodup_bearers g o).sublist (sublist_of_repeats_eq_ok hrs)
    · exact List.nodup_nil
  have hclasses : ∀ h : TypeGraph, ((h.classReplacements o).map Replacement.id).Nodup := by
    intro h
    unfold classReplacements
    split
    · exact (nodup_bearersOf h o ((nodup_reachable h).filter _) _).sublist
        (sublist_duplicates ..)
    · exact List.nodup_nil
  unfold replacements
  rw [List.map_append, List.nodup_append]
  refine ⟨hnames, hclasses _, ?_⟩
  intro id hid other hother heq
  subst heq
  obtain ⟨r, hr, rfl⟩ := List.mem_map.1 hid
  obtain ⟨r', hr', hsame⟩ := List.mem_map.1 hother
  have hnamed := name?_of_mem_classReplacements hr'
  rw [hsame, name?_foldl_replace_of_replaced ⟨r, hr, rfl⟩] at hnamed
  cases hnamed

/-- A type that is replaced becomes the reference that its replacement asks for. -/
theorem kind_of_mem_replacements {g : TypeGraph} {o : Options} {r : Replacement}
    (h : r ∈ g.replacements o) (hid : r.id < g.size) :
    ((g.replacements o).foldl replace g).kind r.id = .reference r.target := by
  obtain ⟨r', hr', hsame, hkind⟩ := kind_foldl_replace_of_replaced hid ⟨r, h, rfl⟩
  have heq : r' = r := List.inj_on_of_nodup_map (nodup_replacements g o) hr' h hsame
  rw [hkind, heq]

/-! ### First bearers -/

/-- The first type of a name, in the order of the walk. -/
def firstBearer? (g : TypeGraph) (name : String) : Option TypeId :=
  g.reachable.find? fun id => g.name? id = some name

theorem find?_bearers (g : TypeGraph) (o : Options) (name : String) :
    ((g.bearers o).find? fun b => b.name = name).map Bearer.id = g.firstBearer? name := by
  have hfind : ∀ ids : List TypeId,
      ((ids.filterMap fun id => (g.name? id).map fun name => (id, name)).find?
        fun pair => pair.2 = name).map Prod.fst = ids.find? fun id => g.name? id = some name := by
    intro ids
    induction ids with
    | nil => rfl
    | cons id rest ih =>
      cases hname : g.name? id with
      | none => simpa [hname] using ih
      | some other =>
        by_cases hother : other = name
        · simp [hname, hother]
        · simpa [hname, hother] using ih
  unfold firstBearer?
  rw [← hfind, ← map_bearers g o, List.find?_map, Option.map_map]
  rfl

/-- A type that keeps its name while names are merged is the first of its name. -/
theorem firstBearer?_eq_some {g : TypeGraph} {o : Options} {rs : List Replacement}
    (hrs : repeats g [] (g.bearers o) = .ok rs) {id : TypeId} {name : String}
    (hid : g.Reached id) (hname : g.name? id = some name) (hkept : ¬ IsReplaced rs id) :
    g.firstBearer? name = some id := by
  obtain ⟨b, hb, rfl, rfl⟩ := exists_bearer o hid hname
  rw [← find?_bearers g o]
  by_contra hnot
  refine hkept ⟨⟨b.id, b.name⟩, ?_, rfl⟩
  refine (mem_of_repeats_eq_ok (nodup_bearers g o) hrs _).2 ⟨b, hb, rfl, Or.inr fun hfind => ?_⟩
  exact hnot (by rw [hfind]; rfl)

end TypeGraph
end SchemaTypings
