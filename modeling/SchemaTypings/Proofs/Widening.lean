import SchemaTypings.Proofs.Stateful
import SchemaTypings.Proofs.TupleSlots

/-! # Types that admit more

Types of one graph admit no more than types of another when they are related, and the kinds of
related types are made alike of related parts.  As the values of types are least sets, nothing has
to be known of recursion.
-/
namespace SchemaTypings
namespace TypeGraph

/-- **A kind widens another** when it admits at least its values, if related parts do. -/
def Widens (R : TypeId → TypeId → Prop) (kind wide : TypeKind) : Prop :=
  ∀ (named named' : String → Set Json) (P Q : TypeId → Set Json), (∀ a b, R a b → P a ⊆ Q b) →
    kindValues named P kind ⊆ kindValues named' Q wide

section Kinds

variable {R S : TypeId → TypeId → Prop}

theorem Widens.mono {kind wide : TypeKind} (h : Widens R kind wide) (hrs : ∀ a b, R a b → S a b) :
    Widens S kind wide :=
  fun named named' P Q hpq => h named named' P Q fun a b hab => hpq a b (hrs a b hab)

/-- A kind whose values are a matter of the kind alone widens itself. -/
theorem widens_self {kind : TypeKind}
    (h : ∀ named named' P Q, kindValues named P kind = kindValues named' Q kind) :
    Widens R kind kind :=
  fun named named' P Q _ => (h named named' P Q).subset

theorem widens_array {element wide : TypeId} (h : R element wide) :
    Widens R (.array element) (.array wide) := by
  rintro named named' P Q hpq v ⟨items, rfl, hitems⟩
  exact ⟨items, rfl, fun item hitem => hpq _ _ h (hitems item hitem)⟩

theorem widens_union {members wide : List TypeId} (h : List.Forall₂ R members wide) :
    Widens R (.union members) (.union wide) := by
  rintro named named' P Q hpq v ⟨m, hm, hv⟩
  obtain ⟨w, hw, hmw⟩ := exists_left_of_forall₂ h.flip m hm
  exact ⟨w, hw, hpq m w hmw hv⟩

theorem widens_intersection {members wide : List TypeId} (h : List.Forall₂ R members wide) :
    Widens R (.intersection members) (.intersection wide) := by
  intro named named' P Q hpq v hv w hw
  obtain ⟨m, hm, hmw⟩ := exists_left_of_forall₂ h w hw
  exact hpq m w hmw (hv m hm)

/-! ### Classes -/

/-- Members that look alike, of related types. -/
def LikeMember (R : TypeId → TypeId → Prop) (m wide : Member) : Prop :=
  wide = { m with type := wide.type } ∧ R m.type wide.type

/-- Objects that satisfy each of the members satisfy members that ask for less. -/
theorem recordValues_subset {fields wide : List (Field × Set Json)}
    (h : List.Forall₂ (fun f w => w.1 = f.1 ∧ f.2 ⊆ w.2) fields wide) :
    recordValues fields ⊆ recordValues wide := by
  have hkeys : wide.filterMap (fun f => f.1.key) = fields.filterMap fun f => f.1.key := by
    induction h with
    | nil => rfl
    | cons hfw _ ih => simp only [List.filterMap_cons, hfw.1, ih]
  rintro v ⟨entries, rfl, hall⟩
  refine ⟨entries, rfl, fun w hw => ?_⟩
  obtain ⟨f, hf, hfield, hsub⟩ := exists_left_of_forall₂ h w hw
  rw [hkeys, hfield]
  exact Field.Holds.mono hsub (hall f hf)

/-- The visible members of classes that look alike. -/
theorem forall₂_fieldsOf {P Q : TypeId → Set Json} (hpq : ∀ a b, R a b → P a ⊆ Q b)
    {members wide : List Member} (h : List.Forall₂ (LikeMember R) members wide) :
    List.Forall₂ (fun f w => w.1 = f.1 ∧ f.2 ⊆ w.2) (fieldsOf P members) (fieldsOf Q wide) := by
  induction h with
  | nil => exact .nil
  | @cons m w members wide hmw _ ih =>
    have hvisible : w.isVisible = m.isVisible := by rw [hmw.1]; rfl
    have hfield : w.field = m.field := by rw [hmw.1]; rfl
    rw [fieldsOf, fieldsOf, List.filter_cons, List.filter_cons, hvisible]
    split
    · exact .cons ⟨hfield, hpq _ _ hmw.2⟩ ih
    · exact ih

theorem widens_record {members wide : List Member} {bases wideBases : List TypeId}
    (hmembers : List.Forall₂ (LikeMember R) members wide)
    (hbases : List.Forall₂ R bases wideBases) :
    Widens R (.record members bases) (.record wide wideBases) := by
  intro named named' P Q hpq v hv
  refine ⟨recordValues_subset (forall₂_fieldsOf hpq hmembers) hv.1, fun w hw => ?_⟩
  obtain ⟨base, hbase, hr⟩ := exists_left_of_forall₂ hbases w hw
  exact hpq base w hr (hv.2 base hbase)

/-! ### Bounded arrays -/

/-- The part that a bounded array has at a position, if it has one: an element, the spread, or a
part that it does not describe. -/
def partAt? (elements : List TypeId) (min : Nat) (max : Option Nat) (spread : Option TypeId)
    (i : Nat) : Option (Option TypeId) :=
  slot? (longest none (elements.map some) min max (spread.map some)) i

theorem partAt?_of_lt {elements : List TypeId} {min : Nat} {max : Option Nat}
    {spread : Option TypeId} {i : Nat} (h : i < elements.length) :
    partAt? elements min max spread i = some (some elements[i]) := by
  have hfirst : (elements.map some)[i]? = some (some elements[i]) := by simp [h]
  cases spread <;> cases max <;>
    simp [partAt?, slot?, longest, tupleElements, List.getElem?_append_left, h]

/-- Behind its elements a bounded array has its spread; without one it is filled up to its largest
number, or without any limit where elements are needed. -/
theorem partAt?_of_le {elements : List TypeId} {min : Nat} {max : Option Nat}
    {spread : Option TypeId} {i : Nat} (h : elements.length ≤ i) :
    partAt? elements min max spread i = match spread, max with
      | some s, _ => some (some s)
      | none, some limit => if i < limit then some none else none
      | none, none => if elements.length < min then some none else none := by
  have hcount : ∀ limit, i - elements.length < limit - elements.length ↔ i < limit := by omega
  cases spread <;> cases max <;>
    simp [partAt?, slot?, longest, tupleElements, tupleSpread, h, List.getElem?_append_right,
      List.getElem?_replicate, hcount]

/-- The slots of a bounded array are those of its parts. -/
theorem slotsOf_eq (P : TypeId → Set Json) (elements : List TypeId) (min : Nat) (max : Option Nat)
    (spread : Option TypeId) (i : Nat) :
    slot? (slotsOf P elements min max spread) i =
      (partAt? elements min max spread i).map fun part => part.elim Set.univ P := by
  let values (part : Option TypeId) : Set Json := part.elim Set.univ P
  have helements : elements.map P = (elements.map some).map values := by simp [values]
  have hspread : spread.map P = (spread.map some).map values := by cases spread <;> rfl
  have hlongest := longest_map values none (elements.map some) min max (spread.map some)
  rw [slotsOf, helements, hspread, partAt?, ← slot?_map]
  exact congrArg (slot? · i) hlongest

/-- **One position widens another**: it admits the items of a part that its own part widens. -/
def PartWidens (R : TypeId → TypeId → Prop) (part wide : Option (Option TypeId)) : Prop :=
  ∀ p ∈ part, ∃ w ∈ wide, ∀ b ∈ w, ∃ a ∈ p, R a b

theorem partWidens_of_rel {a b : TypeId} (h : R a b) :
    PartWidens R (some (some a)) (some (some b)) := by
  rintro _ ⟨⟩
  refine ⟨some b, rfl, ?_⟩
  rintro _ ⟨⟩
  exact ⟨a, rfl, h⟩

/-- A position without a part widens to anything. -/
theorem partWidens_of_none (wide : Option (Option TypeId)) : PartWidens R none wide := by
  rintro p ⟨⟩

/-- A position that is not described admits anything. -/
theorem partWidens_free (part : Option (Option TypeId)) : PartWidens R part (some none) := by
  refine fun p _ => ⟨none, rfl, ?_⟩
  rintro b ⟨⟩

/-- **A bounded array widens another** when it admits all lengths, and all of its positions widen
those of the other. -/
theorem widens_tuple {elements wide : List TypeId} {min min' : Nat} {max max' : Option Nat}
    {spread spread' : Option TypeId}
    (hlengths : ∀ count, min ≤ count ∨ longestLength elements max spread ≤ count →
      min' ≤ count ∨ longestLength wide max' spread' ≤ count)
    (hparts : ∀ i, PartWidens R (partAt? elements min max spread i)
      (partAt? wide min' max' spread' i)) :
    Widens R (.tuple elements min max spread) (.tuple wide min' max' spread') := by
  intro named named' P Q hpq v hv
  obtain ⟨items, rfl, henough, hslots⟩ := mem_kindValues_tuple.1 hv
  rw [length_slotsOf] at henough
  refine mem_kindValues_tuple.2 ⟨items, rfl, ?_, fun i item hitem => ?_⟩
  · rw [length_slotsOf]
    exact hlengths _ henough
  · obtain ⟨S, hS, hmem⟩ := hslots i item hitem
    rw [slotsOf_eq] at hS
    obtain ⟨part, hpart, rfl⟩ := Option.map_eq_some_iff.1 hS
    obtain ⟨part', hpart', hwide⟩ := hparts i part hpart
    refine ⟨part'.elim Set.univ Q, ?_, ?_⟩
    · rw [slotsOf_eq]
      exact Option.map_eq_some_iff.2 ⟨part', hpart', rfl⟩
    · cases part' with
      | none => exact Set.mem_univ item
      | some b =>
        obtain ⟨a, ha, hab⟩ := hwide b rfl
        cases ha
        exact hpq a b hab hmem

/-- Elements at one position. -/
theorem partWidens_of_lt {elements wide : List TypeId} {min min' : Nat} {max max' : Option Nat}
    {spread spread' : Option TypeId} (h : List.Forall₂ R elements wide) {i : Nat}
    (hi : i < elements.length) : PartWidens R (partAt? elements min max spread i)
      (partAt? wide min' max' spread' i) := by
  have hwide : i < wide.length := h.length_eq ▸ hi
  rw [partAt?_of_lt hi, partAt?_of_lt hwide]
  exact partWidens_of_rel (h.get hi hwide)

/-- Bounded arrays of the same bounds. -/
theorem widens_sameTuple {elements wide : List TypeId} {min : Nat} {max : Option Nat}
    {spread spread' : Option TypeId} (h : List.Forall₂ R elements wide)
    (hspread : Option.Rel R spread spread') :
    Widens R (.tuple elements min max spread) (.tuple wide min max spread') := by
  have hlongest : longestLength wide max spread' = longestLength elements max spread := by
    cases hspread <;> simp [longestLength, h.length_eq]
  refine widens_tuple (fun count => by rw [hlongest]; exact id) fun i => ?_
  rcases Nat.lt_or_ge i elements.length with hlt | hge
  · exact partWidens_of_lt h hlt
  · rw [partAt?_of_le hge, partAt?_of_le (h.length_eq ▸ hge), h.length_eq]
    cases hspread with
    | none =>
      cases max <;> dsimp only <;> split
      all_goals first | exact partWidens_free _ | exact partWidens_of_none _
    | some hab => exact partWidens_of_rel hab

/-- An array of any length widens a bounded one all of whose parts it widens. -/
theorem widens_array_of_tuple {elements : List TypeId} {min : Nat} {max : Option Nat}
    {spread : Option TypeId} {wide : TypeId}
    (hparts : ∀ i, ∀ part ∈ partAt? elements min max spread i, ∃ a ∈ part, R a wide) :
    Widens R (.tuple elements min max spread) (.array wide) := by
  intro named named' P Q hpq v hv
  obtain ⟨items, rfl, -, hslots⟩ := mem_kindValues_tuple.1 hv
  refine ⟨items, rfl, fun item hitem => ?_⟩
  obtain ⟨i, hi⟩ := List.mem_iff_getElem?.1 hitem
  obtain ⟨S, hS, hmem⟩ := hslots i item hi
  rw [slotsOf_eq] at hS
  obtain ⟨part, hpart, rfl⟩ := Option.map_eq_some_iff.1 hS
  obtain ⟨a, ha, hab⟩ := hparts i part hpart
  cases ha
  exact hpq a wide hab hmem

end Kinds

/-! ### Types that are made of others -/

/-- The values of a kind grow with those of its parts alone. -/
theorem kindValues_subset_of_children {named : String → Set Json} {P Q : TypeId → Set Json}
    {kind : TypeKind} (h : ∀ id ∈ kind.children, P id ⊆ Q id) :
    kindValues named P kind ⊆ kindValues named Q kind := by
  let R (a b : TypeId) : Prop := a ∈ kind.children ∧ b = a
  have hpq : ∀ a b, R a b → P a ⊆ Q b := by
    rintro a _ ⟨ha, rfl⟩
    exact h _ ha
  have hparts : ∀ {ids : List TypeId}, (∀ id ∈ ids, id ∈ kind.children) → List.Forall₂ R ids ids :=
    fun hids => List.forall₂_same.2 fun id hid => ⟨hids id hid, rfl⟩
  cases kind with
  | array element => exact widens_array ⟨List.mem_singleton_self _, rfl⟩ named named P Q hpq
  | tuple elements min max spread =>
    have hspread : Option.Rel R spread spread := by
      cases spread with
      | none => exact .none
      | some id => exact .some ⟨List.mem_append_right _ (List.mem_singleton_self _), rfl⟩
    exact widens_sameTuple (hparts fun id hid => List.mem_append_left _ hid) hspread
      named named P Q hpq
  | union members => exact widens_union (hparts fun _ hid => hid) named named P Q hpq
  | intersection members => exact widens_intersection (hparts fun _ hid => hid) named named P Q hpq
  | record members bases =>
    refine widens_record (List.forall₂_same.2 fun m hm => ⟨rfl, ?_, rfl⟩)
      (hparts fun id hid => List.mem_append_right _ hid) named named P Q hpq
    exact List.mem_append_left _ (List.mem_map.2 ⟨m, hm, rfl⟩)
  | _ => exact subset_rfl

/-- For a kind to widen, its parts matter alone. -/
theorem Widens.among {R : TypeId → TypeId → Prop} {kind wide : TypeKind} (h : Widens R kind wide) :
    Widens (fun a b => a ∈ kind.children ∧ R a b) kind wide := by
  intro named named' P Q hpq
  let among : TypeId → Set Json := fun a => {v | v ∈ P a ∧ a ∈ kind.children}
  have hsubset : kindValues named P kind ⊆ kindValues named among kind :=
    kindValues_subset_of_children fun a ha v hv => ⟨hv, ha⟩
  refine hsubset.trans (h named named' among Q fun a b hab v hv => ?_)
  exact hpq a b ⟨hv.2, hab⟩ hv.1

/-- The types that a type is made of, itself included. -/
def MadeOf (t : TypeGraph) : TypeId → TypeId → Prop :=
  Relation.ReflTransGen fun a b => b ∈ t.children a

/-- **Related types admit no more** than those they are related to, when kinds of related types
widen. -/
theorem values_subset_values {t u : TypeGraph} {R : TypeId → TypeId → Prop} {a b : TypeId}
    (hkinds : ∀ part wide, t.MadeOf a part → R part wide → Widens R (t.kind part) (u.kind wide))
    (hab : R a b) : t.values a ⊆ u.values b := by
  let S (part wide : TypeId) : Prop := t.MadeOf a part ∧ R part wide
  have hwidens : ∀ part wide, S part wide → Widens S (t.kind part) (u.kind wide) := by
    rintro part wide ⟨hpart, hwide⟩
    exact (hkinds part wide hpart hwide).among.mono fun c d ⟨hc, hcd⟩ => ⟨hpart.tail hc, hcd⟩
  -- of every type those values are left that all types related to it admit
  let P : TypeId → Set Json := fun part => {v | ∀ wide, S part wide → v ∈ u.values wide}
  have hclosed : ∀ part, t.meaning P part ⊆ P part := by
    intro part v hv wide hpart
    rw [← meaning_values]
    exact hwidens part wide hpart _ _ P u.values (fun c d hcd v hv => hv d hcd) hv
  exact fun v hv => values_subset hclosed a hv b ⟨.refl, hab⟩

end TypeGraph
end SchemaTypings
