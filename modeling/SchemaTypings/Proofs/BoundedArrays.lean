import SchemaTypings.Proofs.ClosedOutput
import SchemaTypings.Proofs.ItemBounds
import SchemaTypings.Proofs.MakingKinds
import SchemaTypings.Proofs.TupleSlots

/-! # Array types respect the bounds that were kept

The type of an array admits no array outside the bounds that normalization kept, but for two ways in
which a list of items can lose them.  Without a largest number and without further items, elements
that are needed but not described are filled in by a spread.  And further items that are described
make a spread that follows no bound: the largest number goes, and so does a least one beyond the
list.
-/
namespace SchemaTypings

/-- Whether further entries are described. -/
def Additional.describes : Option Additional → Bool
  | some (.allowed value) => value
  | some (.schema _) => true
  | none => false

namespace SchemaNode

/-! ### Bounds of normal schemas -/

/-- The bounds allow a number of items. -/
def Bounds.Allows (b : Bounds) (count : Nat) : Prop := b.min ≤ count ∧ ∀ max ∈ b.max, count ≤ max

/-- Whether a schema describes the items behind its list. -/
def describesFurther (n : SchemaNode) : Bool := Additional.describes n.additionalItems

/-- **Items in accord with bounds**: as normalization leaves them. -/
structure FitsBounds (o : Options) (n : SchemaNode) : Prop where
  le : ∀ max ∈ n.maxItems?, n.bounds.min ≤ max
  cut : ∀ ids, n.items = some (.tuple ids) → ∀ max ∈ n.maxItems?, ids.length ≤ max
  each : ∀ item, n.items = some (.each item) → n.bounds = ⟨0, none⟩
  ignored : o.ignoreItemBounds = true → n.bounds = ⟨0, none⟩

/-- The list of items is shorter than the least number, and nothing follows it and nothing limits
it: a spread stands for the elements that are missing. -/
def PadsItems (n : SchemaNode) : Prop :=
  ∃ ids, n.items = some (.tuple ids) ∧ n.describesFurther = false ∧ n.maxItems? = none ∧
    ids.length < n.bounds.min

/-- Further items are described beside a largest number, or beside a least number beyond the
list. -/
def OverridesBounds (n : SchemaNode) : Prop :=
  ∃ ids, n.items = some (.tuple ids) ∧ n.describesFurther = true ∧
    (n.maxItems?.isSome ∨ ids.length < n.bounds.min)

/-- A name changes no items. -/
theorem FitsBounds.named {o : Options} {n : SchemaNode} (h : n.FitsBounds o)
    (name : Option String) : FitsBounds o { n with standaloneName := name } :=
  ⟨h.le, h.cut, h.each, h.ignored⟩

theorem isArrayShaped_named (n : SchemaNode) (name : Option String) :
    { n with standaloneName := name }.isArrayShaped = n.isArrayShaped := rfl

section Lists

variable {n : SchemaNode} {ids : List SchemaId} (h : n.items = some (.tuple ids))

include h

theorem padsItems_iff : n.PadsItems ↔
    n.describesFurther = false ∧ n.maxItems? = none ∧ ids.length < n.bounds.min := by
  refine ⟨?_, fun hpads => ⟨ids, h, hpads⟩⟩
  rintro ⟨ids', h', hpads⟩
  cases h.symm.trans h'
  exact hpads

theorem overridesBounds_iff : n.OverridesBounds ↔
    n.describesFurther = true ∧ (n.maxItems?.isSome ∨ ids.length < n.bounds.min) := by
  refine ⟨?_, fun hoverrides => ⟨ids, h, hoverrides⟩⟩
  rintro ⟨ids', h', hoverrides⟩
  cases h.symm.trans h'
  exact hoverrides

end Lists

instance (n : SchemaNode) : Decidable n.PadsItems :=
  match h : n.items with
  | some (.tuple _) => decidable_of_iff _ (padsItems_iff h).symm
  | some (.each _) => isFalse fun ⟨_, hids, _⟩ => by rw [h] at hids; cases hids
  | none => isFalse fun ⟨_, hids, _⟩ => by rw [h] at hids; cases hids

instance (n : SchemaNode) : Decidable n.OverridesBounds :=
  match h : n.items with
  | some (.tuple _) => decidable_of_iff _ (overridesBounds_iff h).symm
  | some (.each _) => isFalse fun ⟨_, hids, _⟩ => by rw [h] at hids; cases hids
  | none => isFalse fun ⟨_, hids, _⟩ => by rw [h] at hids; cases hids

/-- **Normalization leaves items in accord with bounds** that are in order. -/
theorem fitsBounds_normalize (o : Options) (isRoot : Bool) {n : SchemaNode}
    (hn : n.isArrayShaped = true) (hle : ∀ max ∈ n.maxItems?, n.bounds.min ≤ max) :
    FitsBounds o (n.normalize o isRoot) := by
  cases hignore : o.ignoreItemBounds with
  | true =>
    obtain ⟨-, -, hbounds⟩ := normalize_of_ignored isRoot hn hignore
    have hmax : (n.normalize o isRoot).maxItems? = none := congrArg Bounds.max hbounds
    refine ⟨?_, ?_, fun _ _ => hbounds, fun _ => hbounds⟩
    · intro max h
      rw [hmax] at h
      cases h
    · intro ids _ max h
      rw [hmax] at h
      cases h
  | false =>
    obtain ⟨hitems, -, hbounds⟩ := normalize_of_kept isRoot hn hignore
    have hmax : (n.normalize o isRoot).maxItems? = (n.keptBounds o).max :=
      congrArg Bounds.max hbounds
    refine ⟨fun max h => ?_, fun ids h max hmem => ?_, fun item h => ?_, fun h => ?_⟩
    · rw [hmax] at h
      have hkept : n.keptBounds o = n.bounds := Bounds.capped_of_max h
      rw [hbounds, hkept]
      rw [hkept] at h
      exact hle max h
    · rw [hmax] at hmem
      rw [hitems] at h
      unfold Bounds.items at h
      rw [show (n.keptBounds o).max = some max from hmem] at h
      split at h
      · rw [if_pos (Or.inl (Option.isSome_some ..))] at h
        cases h
        simp
      · cases h
        simp
      · cases h
    · rw [hitems] at h
      unfold Bounds.items at h
      split at h
      · split at h
        · cases h
        · next hnone =>
          exact hbounds.trans (Bounds.eq_of_unbounded hnone)
      · cases h
      · cases h
    · rw [hignore] at h
      cases h

end SchemaNode

namespace TypeGraph

open SchemaNode (Bounds)

/-! ### Bounded arrays -/

section Tuples

variable {elements : List TypeId} {min : Nat} {max : Option Nat} {spread : Option TypeId}

/-- A bounded array has no longest length when something may follow its elements: a spread, or one
that is filled in. -/
def IsEndless (elements : List TypeId) (min : Nat) (max : Option Nat) (spread : Option TypeId) : Prop :=
  spread.isSome ∨ (max = none ∧ elements.length < min)

/-- **The lengths that a bounded array admits**, where its parts admit everything. -/
theorem mem_kindValues_tuple_univ {named : String → Set Json} {items : List Json} :
    Json.array items ∈ kindValues named (fun _ => Set.univ) (.tuple elements min max spread) ↔
      (min ≤ items.length ∨ longestLength elements max spread ≤ items.length) ∧
        (¬ IsEndless elements min max spread → items.length ≤ longestLength elements max spread) := by
  let P : TypeId → Set Json := fun _ => Set.univ
  have hrest : (slotsOf P elements min max spread).2 = none ↔ ¬ IsEndless elements min max spread := by
    cases spread <;> cases max <;> simp [slotsOf, longest, tupleSpread, IsEndless]
  have hall : ∀ i, ∀ S ∈ slot? (slotsOf P elements min max spread) i, S = Set.univ := by
    have hparts : ∀ part ∈ elements.map P, part = Set.univ := by simp [P]
    have hfurther : ∀ part ∈ spread.map P, part = Set.univ := by simp [P]
    obtain ⟨helements, hspread⟩ := forall_mem_tupleShapes (R := fun S => S = Set.univ) rfl hparts
      hfurther min max _ (longest_mem_tupleShapes ..)
    exact fun i S hS => (mem_of_mem_slot? hS).elim (helements S) (hspread S)
  rw [mem_kindValues_tuple, ← length_slotsOf P, ← hrest]
  constructor
  · rintro ⟨_, heq, henough, hfills⟩
    cases heq
    refine ⟨henough, fun hnone => ?_⟩
    have hclosed : FillsSlots ((slotsOf P elements min max spread).1, none) items :=
      hnone ▸ hfills
    exact hclosed.length_le
  · rintro ⟨henough, hclosed⟩
    refine ⟨items, rfl, henough, fun i item hitem => ?_⟩
    have hi := (List.getElem?_eq_some_iff.1 hitem).1
    cases hslot : slot? (slotsOf P elements min max spread) i with
    | some S => exact ⟨S, rfl, hall i S hslot ▸ Set.mem_univ item⟩
    | none =>
      rcases Nat.lt_or_ge i (slotsOf P elements min max spread).1.length with hlt | hge
      · rw [slot?_of_lt hlt] at hslot
        cases hslot
      · rw [slot?_of_le hge] at hslot
        exact absurd (hclosed hslot) (by omega)

/-- **When a bounded array keeps its bounds**: when it has no spread beside a largest number, and
all elements that are needed are described unless there is a largest number. -/
theorem forall_allows_tuple_iff (hle : ∀ limit ∈ max, min ≤ limit)
    (hcut : ∀ limit ∈ max, elements.length ≤ limit) :
    (∀ named P items, Json.array items ∈ kindValues named P (.tuple elements min max spread) →
      Bounds.Allows ⟨min, max⟩ items.length) ↔
      (spread.isSome → max = none) ∧ (max = none → min ≤ elements.length) := by
  constructor
  · intro h
    have hlengths : ∀ count, (min ≤ count ∨ longestLength elements max spread ≤ count) →
        (¬ IsEndless elements min max spread → count ≤ longestLength elements max spread) →
        Bounds.Allows ⟨min, max⟩ count := by
      intro count henough hclosed
      have hadmits := h (fun _ => ∅) _ (List.replicate count .null)
        (mem_kindValues_tuple_univ.2 (by simpa using ⟨henough, hclosed⟩))
      simpa using hadmits
    refine ⟨fun hspread => ?_, fun hnone => ?_⟩
    · cases max with
      | none => rfl
      | some limit =>
        -- one item more than the largest number is taken in by the spread
        have hmore := hlengths (limit + 1) (Or.inl (Nat.le_succ_of_le (hle limit rfl)))
          fun hclosed => absurd (Or.inl hspread) hclosed
        exact absurd (hmore.2 limit rfl) (Nat.not_succ_le_self limit)
    · have hleast := (hlengths _ (Or.inr (Nat.le_refl _)) fun _ => Nat.le_refl _).1
      rw [hnone] at hleast
      simpa [longestLength] using hleast
  · rintro ⟨hspread, hcount⟩ named P items hitems
    obtain ⟨henough, hclosed⟩ := mem_kindValues_tuple_univ.1
      (kindValues_mono (fun _ => Set.Subset.refl _) (fun _ => Set.subset_univ _) _ hitems)
    cases max with
    | none =>
      have hlength : longestLength elements none spread = elements.length := by
        simp [longestLength]
      rw [hlength] at henough
      exact ⟨henough.elim id (Nat.le_trans (hcount rfl)), by rintro _ ⟨⟩⟩
    | some limit =>
      have hnone : spread = none := by
        cases spread with
        | none => rfl
        | some _ => cases hspread rfl
      have hlength : longestLength elements (some limit) spread = limit := by
        have := hcut limit rfl
        simp only [longestLength, hnone, Option.isNone_none, if_true, Option.getD_some]
        omega
      rw [hlength] at henough hclosed
      refine ⟨henough.elim id (Nat.le_trans (hle limit rfl)), fun _ h => ?_⟩
      cases h
      exact hclosed (by simp [IsEndless, hnone])

end Tuples

/-! ### Kinds of arrays -/

section Kinds

variable {g : SchemaGraph} {s : Growth} {o : Options} {n : SchemaNode} {kind : TypeKind}

/-- Further items have a type when they are described. -/
theorem IsFurther.isSome {rest : Option Additional} {further : Option TypeId}
    (h : IsFurther s rest further) : further.isSome = Additional.describes rest := by
  match rest with
  | some (.allowed true) =>
    obtain ⟨_, -, rfl⟩ := h
    rfl
  | some (.schema _) =>
    obtain ⟨_, -, rfl⟩ := h
    rfl
  | some (.allowed false) =>
    cases h
    rfl
  | none =>
    cases h
    rfl

/-- **When the kind of an array keeps its bounds**: exactly when no element that is needed is left
open, and no further items override a bound. -/
theorem IsArrayKind.forall_allows_iff (hn : n.FitsBounds o) (hkind : IsArrayKind s o n kind) :
    (∀ named P items, Json.array items ∈ kindValues named P kind → n.bounds.Allows items.length) ↔
      ¬ n.PadsItems ∧ ¬ n.OverridesBounds := by
  have hfree : n.bounds = ⟨0, none⟩ → ∀ count, n.bounds.Allows count := by
    intro h count
    rw [h]
    exact ⟨Nat.zero_le _, by rintro _ ⟨⟩⟩
  -- without a list no items are left open or overridden
  have hunlisted : (∀ ids, n.items ≠ some (.tuple ids)) → ¬ n.PadsItems ∧ ¬ n.OverridesBounds :=
    fun h => ⟨fun ⟨ids, hids, _⟩ => h ids hids, fun ⟨ids, hids, _⟩ => h ids hids⟩
  unfold IsArrayKind at hkind
  split at hkind
  · next ids hitems =>
    obtain ⟨elements, spread, helements, hspread, rfl⟩ := hkind
    have hlength := helements.length_eq
    rw [SchemaNode.padsItems_iff hitems, SchemaNode.overridesBounds_iff hitems,
      SchemaNode.describesFurther, ← hspread.isSome]
    split
    · next hignore =>
      have hbounds := hn.ignored hignore
      have hmax : n.maxItems? = none := congrArg Bounds.max hbounds
      exact iff_of_true (fun _ _ _ _ => hfree hbounds _) (by simp [hmax, hbounds])
    · refine (forall_allows_tuple_iff hn.le ?_).trans ?_
      · exact fun limit hlimit => hlength ▸ hn.cut ids hitems limit hlimit
      · rw [← hlength]
        cases spread <;> cases n.maxItems? <;> simp [SchemaNode.bounds]
  · next item hitems =>
    have hbounds := hn.each item hitems
    exact iff_of_true (fun _ _ _ _ => hfree hbounds _)
      (hunlisted fun ids h => by rw [hitems] at h; cases h)
  · next hitems =>
    obtain ⟨any, -, rfl⟩ := hkind
    refine iff_of_true ?_ (hunlisted fun ids h => by rw [hitems] at h; cases h)
    split
    · refine (forall_allows_tuple_iff hn.le fun limit hlimit => ?_).2 ⟨?_, fun hnone => ?_⟩
      · have hle := hn.le limit hlimit
        rw [List.length_replicate, show n.maxItems? = some limit from hlimit]
        exact Nat.max_le.2 ⟨Nat.le_refl _, hle⟩
      · cases n.maxItems? <;> simp
      · rw [List.length_replicate]
        exact Nat.le_max_right ..
    · next hno =>
      refine fun _ _ _ _ => hfree ?_ _
      cases hignore : o.ignoreItemBounds with
      | true => exact hn.ignored hignore
      | false =>
        simp only [hignore, Bool.not_false, Bool.true_and, Bool.or_eq_true, decide_eq_true_eq,
          not_or, Nat.not_lt, Nat.le_zero, Bool.not_eq_true, Option.isSome_eq_false_iff,
          Option.isNone_iff_eq_none] at hno
        rw [SchemaNode.bounds, hno.1, hno.2]

end Kinds

/-! ### Schemas of arrays -/

/-- The names under `type` that say something. -/
def typeNames : List String :=
  ["string", "number", "integer", "boolean", "null", "object", "array"]

/-- **A schema of arrays**: it has the shape of one, its types are known by name, and it does not
say what it is by a truth value, a type text or a list of values. -/
structure SaysArrays (n : SchemaNode) : Prop where
  boolean : n.boolean = none
  custom : n.customType? = none
  values : n.isEnumShaped = false
  shaped : n.isArrayShaped = true
  types : ∀ name ∈ n.types, name ∈ typeNames

instance (n : SchemaNode) : Decidable (SaysArrays n) :=
  decidable_of_iff (n.boolean = none ∧ n.customType? = none ∧ n.isEnumShaped = false ∧
    n.isArrayShaped = true ∧ ∀ name ∈ n.types, name ∈ typeNames)
    ⟨fun ⟨hboolean, hcustom, hvalues, hshaped, htypes⟩ =>
      ⟨hboolean, hcustom, hvalues, hshaped, htypes⟩,
      fun h => ⟨h.boolean, h.custom, h.values, h.shaped, h.types⟩⟩

section Schemas

variable {g : SchemaGraph} {s : Growth} {o : Options} {n : SchemaNode}
  {named : String → Set Json} {P : TypeId → Set Json} {A : Nat → Prop}

/-- All arrays in a set have lengths with `A`. -/
def ArraysHave (A : Nat → Prop) (S : Set Json) : Prop :=
  ∀ items, Json.array items ∈ S → A items.length

/-- Kinds that admit no arrays. -/
theorem arraysHave_of_scalar {S : Set Json} (h : ∀ v ∈ S, v.array? = none) : ArraysHave A S :=
  fun items hitems => nomatch h (.array items) hitems

/-- A class admits no arrays. -/
theorem IsRecordKind.arraysHave {bases : List TypeId} {kind : TypeKind}
    (hkind : IsRecordKind s g o n bases kind) : ArraysHave A (kindValues named P kind) := by
  obtain ⟨_, _, _, _, -, -, -, -, rfl⟩ := hkind
  refine arraysHave_of_scalar ?_
  rintro v ⟨⟨entries, rfl, -⟩, -⟩
  rfl

theorem IsObjectKind.arraysHave {kind : TypeKind} (hkind : IsObjectKind s g o n kind) :
    ArraysHave A (kindValues named P kind) := by
  unfold IsObjectKind at hkind
  split at hkind
  · exact IsRecordKind.arraysHave hkind
  · subst hkind
    refine arraysHave_of_scalar fun v hv => ?_
    cases v <;> first | rfl | cases hv

variable (harray : ∀ kind, IsArrayKind s o n kind → ArraysHave A (kindValues named P kind))

include harray

theorem IsNamedKind.arraysHave {name : String} (hname : name ∈ typeNames) {kind : TypeKind}
    (hkind : IsNamedKind s g o n name kind) : ArraysHave A (kindValues named P kind) := by
  unfold IsNamedKind at hkind
  split at hkind
  case h_6 => exact IsObjectKind.arraysHave hkind
  case h_7 => exact harray kind hkind
  case h_8 =>
    simp only [typeNames, List.mem_cons, List.not_mem_nil, or_false] at hname
    rcases hname with h | h | h | h | h | h | h <;> contradiction
  all_goals
    subst hkind
    refine arraysHave_of_scalar fun v hv => ?_
    cases v <;> first | rfl | cases hv

variable (hparts : ∀ kind id, s.HasPart kind id → P id = kindValues named P kind)

include hparts

/-- What a schema of arrays says of its own admits the arrays of its kind of arrays alone. -/
theorem IsOwnFacet.arraysHave (hn : SaysArrays n) {bases : List TypeId} {own : Option TypeKind}
    (hown : IsOwnFacet s g o n bases own) :
    ∃ kind, own = some kind ∧ ArraysHave A (kindValues named P kind) := by
  have htypes := hn.types
  unfold IsOwnFacet at hown
  rw [if_neg (by simp [hn.values])] at hown
  split at hown
  · obtain ⟨kind, hkind, rfl⟩ := hown
    exact ⟨kind, rfl, hkind.arraysHave⟩
  · generalize n.types = names at hown htypes
    match names with
    | [] =>
      dsimp only at hown
      rw [if_pos hn.shaped] at hown
      split at hown
      · obtain ⟨kind, hkind, rfl⟩ := hown
        exact ⟨kind, rfl, hkind.arraysHave⟩
      · obtain ⟨kind, hkind, rfl⟩ := hown
        exact ⟨kind, rfl, harray kind hkind⟩
    | [name] =>
      obtain ⟨kind, hkind, rfl⟩ := hown
      exact ⟨kind, rfl, hkind.arraysHave harray (htypes name (List.mem_singleton_self _))⟩
    | first :: second :: more =>
      obtain ⟨members, hmembers, rfl⟩ := hown
      refine ⟨_, rfl, ?_⟩
      rintro items ⟨member, hmember, hitems⟩
      obtain ⟨name, hname, kind, hkind, hpart⟩ := exists_left_of_forall₂ hmembers member hmember
      rw [hparts kind member hpart] at hitems
      exact hkind.arraysHave harray (htypes name hname) items hitems

omit harray in
/-- **A schema of arrays admits the arrays of its kind of arrays alone**, whatever else it says. -/
theorem IsKind.arraysHave {id : SchemaId} (hn : SaysArrays (g.node id))
    (harray : ∀ kind, IsArrayKind s o (g.node id) kind → ArraysHave A (kindValues named P kind))
    {kind : TypeKind} (hkind : IsKind s g o id kind) : ArraysHave A (kindValues named P kind) := by
  unfold IsKind at hkind
  rw [hn.boolean, hn.custom] at hkind
  obtain ⟨kinds, ⟨_, own, all, extended, any, one, -, hown, -, -, -, -, rfl⟩, hjoined⟩ := hkind
  obtain ⟨first, rfl, hfirst⟩ := hown.arraysHave harray hparts hn
  generalize hrest : all ++ extended ++ any ++ one = rest
  have hkinds : (some first).toList ++ all ++ extended ++ any ++ one = first :: rest := by
    simp [← hrest]
  rw [hkinds] at hjoined
  cases rest with
  | nil =>
    cases hjoined
    exact hfirst
  | cons second more =>
    obtain ⟨members, hmembers, rfl⟩ := hjoined
    cases hmembers with
    | @cons _ member _ _ hmember _ =>
      intro items hitems
      have hmem := hitems member List.mem_cons_self
      rw [hparts first member hmember] at hmem
      exact hfirst items hmem

end Schemas

/-- **A type respects the bounds of its schema** that items are in accord with. -/
theorem allows_of_mem_values {g : SchemaGraph} {o : Options} (hroot : g.root < g.size)
    (hg : ∀ id, ∀ part ∈ g.children id, part < g.size) {id : SchemaId}
    (hfits : (g.node id).FitsBounds o) (harrays : SaysArrays (g.node id))
    (hpads : ¬ (g.node id).PadsItems) (hoverrides : ¬ (g.node id).OverridesBounds) {type : TypeId}
    (htype : (made g o).Assigns id type) :
    ArraysHave (g.node id).bounds.Allows ((ofSchema g o).values type) := by
  obtain ⟨kind, hkind, hvalues⟩ := exists_values_of_assigns hroot hg htype
  rw [hvalues]
  refine hkind.arraysHave (fun _ _ => values_of_hasPart g o) harrays fun kind hkind => ?_
  exact (hkind.forall_allows_iff hfits).2 ⟨hpads, hoverrides⟩ _ _

end TypeGraph

namespace SchemaGraph

variable {g : SchemaGraph}

/-- A schema that is there has no violation in a graph without any. -/
theorem nodeViolations_eq_nil {rootName : String} (h : g.violations rootName = []) {id : SchemaId}
    (hid : id < g.size) : nodeViolations (g.node id) = [] := by
  have hnodes := (List.append_eq_nil_iff.1 (List.append_eq_nil_iff.1 h).1).2
  refine List.flatMap_eq_nil_iff.1 hnodes _ ?_
  have hid : id < g.nodes.size := hid
  simp [node, hid]

/-- **In a graph without violations bounds are in order.** -/
theorem bounds_le {rootName : String} (h : g.violations rootName = []) {id : SchemaId}
    (hid : id < g.size) : ∀ max ∈ (g.node id).maxItems?, (g.node id).bounds.min ≤ max := by
  intro max hmax
  have hbounds : boundViolations (g.node id) = [] := by
    have hall := nodeViolations_eq_nil h hid
    simp only [nodeViolations, List.append_eq_nil_iff] at hall
    exact hall.1.1.1.1.2
  cases hmin : (g.node id).minItems? with
  | none => simp [SchemaNode.bounds, hmin]
  | some min =>
    rw [boundViolations, hmin, show (g.node id).maxItems? = some max from hmax] at hbounds
    simp only [SchemaNode.bounds, hmin, Option.getD_some]
    by_contra hlt
    simp [Nat.not_le.1 hlt] at hbounds

/-- **In the normal form of a graph without violations items are in accord with bounds.** -/
theorem fitsBounds_node_normalize {rootName : String} {o : Options} (h : g.violations rootName = [])
    {id : SchemaId} (hn : ((g.normalize rootName o).node id).isArrayShaped = true) :
    ((g.normalize rootName o).node id).FitsBounds o := by
  have hid : id < g.size := by
    have hrenames : Renames (g.normalizeNodes o) (g.normalize rootName o) :=
      renames_assignNames rootName (g.normalizeNodes o)
    rw [← size_normalizeNodes o, ← hrenames.size]
    refine Nat.not_le.1 fun hle => ?_
    rw [node, Array.getElem?_eq_none hle] at hn
    cases hn
  rw [node_normalize rootName o hid] at hn ⊢
  rw [SchemaNode.isArrayShaped_named, SchemaNode.isArrayShaped_normalize] at hn
  exact (SchemaNode.fitsBounds_normalize o (id = g.root) hn (bounds_le h hid)).named _

end SchemaGraph

/-- **Array types respect the bounds that were kept.**  The type of a schema of arrays admits no
array outside the bounds of its normal form, unless the schema leaves items open or overrides its
bounds. -/
theorem allows_of_array_mem_values {schema : Json} {name : String} {o : Options}
    {source : DocumentSource} {g : SchemaGraph} (hg : linkedGraph schema o source = .ok g)
    (hviolations : g.violations name = []) {id : SchemaId} {type : TypeId}
    (htype : (TypeGraph.made (g.normalize name o) o).Assigns id type)
    (harrays : TypeGraph.SaysArrays ((g.normalize name o).node id))
    (hpads : ¬ ((g.normalize name o).node id).PadsItems)
    (hoverrides : ¬ ((g.normalize name o).node id).OverridesBounds) {items : List Json}
    (hitems : .array items ∈ (TypeGraph.ofSchema (g.normalize name o) o).values type) :
    ((g.normalize name o).node id).bounds.Allows items.length := by
  obtain ⟨b, hb⟩ := SchemaGraph.exists_bundle hg
  obtain ⟨hroot, hrange⟩ := SchemaGraph.inRange_normalize name hb
  have hfits := SchemaGraph.fitsBounds_node_normalize (o := o) hviolations harrays.shaped
  exact TypeGraph.allows_of_mem_values hroot hrange hfits harrays hpads hoverrides htype items
    hitems

/-- An array of up to three items, of which the first is a text, or `null`. -/
def shortList : Json :=
  .object [("type", .array [.string "array", .string "null"]),
    ("items", .array [.object [("type", .string "string")]]),
    ("minItems", .ofNat 1), ("maxItems", .ofNat 3)]

/-- The type of the list admits arrays of one to three items alone. -/
theorem allows_of_array_mem_values_shortList :
    ∃ g, linkedGraph shortList {} .none = .ok g ∧ g.violations "Root" = [] ∧
      ∀ items, .array items ∈ (TypeGraph.ofSchema (g.normalize "Root" {}) {}).values
        (TypeGraph.ofSchema (g.normalize "Root" {}) {}).root →
          1 ≤ items.length ∧ items.length ≤ 3 := by
  have hrun : (linkedGraph shortList {} .none).toOption.any (fun g =>
      (g.violations "Root").isEmpty &&
        decide ((TypeGraph.made (g.normalize "Root" {}) {}).typeOf.lookup 0 =
          some (TypeGraph.ofSchema (g.normalize "Root" {}) {}).root) &&
        decide (TypeGraph.SaysArrays ((g.normalize "Root" {}).node 0)) &&
        decide (¬ ((g.normalize "Root" {}).node 0).PadsItems) &&
        decide (¬ ((g.normalize "Root" {}).node 0).OverridesBounds) &&
        decide (((g.normalize "Root" {}).node 0).bounds = ⟨1, some 3⟩)) = true := by
    decide +kernel
  obtain ⟨g, hg, hchecks⟩ := exists_ok_of_any hrun
  simp only [Bool.and_eq_true, decide_eq_true_eq, List.isEmpty_iff] at hchecks
  obtain ⟨⟨⟨⟨⟨hviolations, htype⟩, harrays⟩, hpads⟩, hoverrides⟩, hbounds⟩ := hchecks
  refine ⟨g, hg, hviolations, fun items hitems => ?_⟩
  have hallows := allows_of_array_mem_values hg hviolations htype harrays hpads hoverrides hitems
  rw [hbounds] at hallows
  exact ⟨hallows.1, hallows.2 3 rfl⟩

/-- A list of at most two items, whose further items are described. -/
def overlongList : Json :=
  .object [("type", .string "array"), ("items", .array [.object [("type", .string "string")]]),
    ("maxItems", .ofNat 2), ("additionalItems", .object [("type", .string "number")])]

/-- The root is a list of a text and then numbers, for which a largest number of two was kept. -/
def TypeGraph.isTextThenNumbers (t : TypeGraph) : Bool :=
  match t.kind t.root with
  | .tuple [first] 0 (some 2) (some spread) =>
    match t.kind first, t.kind spread with
    | .string, .number => true
    | _, _ => false
  | _ => false

/-- What such a root admits beyond the largest number. -/
theorem TypeGraph.mem_values_of_isTextThenNumbers {t : TypeGraph}
    (h : t.isTextThenNumbers = true) :
    Json.array [.string "", .ofNat 0, .ofNat 0] ∈ t.values t.root := by
  unfold isTextThenNumbers at h
  split at h
  · next first spread hroot =>
    split at h
    · next hfirst hspread =>
      have htext : Json.string "" ∈ t.values first := by
        rw [← meaning_values, meaning, hfirst]
        rfl
      have hzero : Json.ofNat 0 ∈ t.values spread := by
        rw [← meaning_values, meaning, hspread]
        rfl
      rw [← meaning_values, meaning, hroot]
      refine mem_kindValues_tuple.2 ⟨_, rfl, Or.inl (Nat.zero_le _), ?_⟩
      change FillsSlots ([t.values first], some (t.values spread)) _
      refine fillsSlots_cons.2 ⟨htext, fun i item hitem => ⟨t.values spread, rfl, ?_⟩⟩
      have hall : ∀ item ∈ [Json.ofNat 0, Json.ofNat 0], item = Json.ofNat 0 := by simp
      exact hall item (List.mem_of_getElem? hitem) ▸ hzero
    · cases h
  · cases h

/-- **A type that goes beyond the largest number of items**: the spread follows no bound. -/
theorem compile_overlongList_admits_three :
    compile overlongList "Root" { descriptions := .omitAll } .none =
        .ok "export type Root = [] | [string, ...number[]];\n" ∧
      ∃ g, linkedGraph overlongList {} .none = .ok g ∧ g.violations "Root" = [] ∧
        ((g.normalize "Root" {}).node g.root).maxItems? = some 2 ∧
        Json.array [.string "", .ofNat 0, .ofNat 0] ∈
          (TypeGraph.ofSchema (g.normalize "Root" {}) {}).values
            (TypeGraph.ofSchema (g.normalize "Root" {}) {}).root := by
  have hcompile : (compile overlongList "Root" { descriptions := .omitAll } .none).toOption.any
      (fun text => text = "export type Root = [] | [string, ...number[]];\n") = true := by
    decide +kernel
  have hrun : (linkedGraph overlongList {} .none).toOption.any (fun g =>
      (g.violations "Root").isEmpty &&
        decide (((g.normalize "Root" {}).node g.root).maxItems? = some 2) &&
        (TypeGraph.ofSchema (g.normalize "Root" {}) {}).isTextThenNumbers) = true := by
    decide +kernel
  obtain ⟨text, htext, heq⟩ := exists_ok_of_any hcompile
  obtain ⟨g, hg, hchecks⟩ := exists_ok_of_any hrun
  simp only [Bool.and_eq_true, decide_eq_true_eq, List.isEmpty_iff] at hchecks
  obtain ⟨⟨hviolations, hmax⟩, hlooks⟩ := hchecks
  exact ⟨of_decide_eq_true heq ▸ htext, g, hg, hviolations, hmax,
    TypeGraph.mem_values_of_isTextThenNumbers hlooks⟩

end SchemaTypings
