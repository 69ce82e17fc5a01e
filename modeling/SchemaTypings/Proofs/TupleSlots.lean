import SchemaTypings.Proofs.Spelling
import SchemaTypings.Proofs.Values

/-! # What a bounded array admits

A bounded array is a list of alternatives, one for every length.  Together they ask two things of an
array: that it is long enough, and that every item lies in the slot at its position, where all
positions behind the elements share the slot of the spread.
-/
namespace SchemaTypings
namespace TypeGraph

/-! ### One alternative -/

/-- The slot of an alternative at a position: an element, or behind the elements the spread. -/
def slot? {α : Type} (shape : List α × Option α) (i : Nat) : Option α := shape.1[i]?.or shape.2

@[simp] theorem slot?_cons_zero {α : Type} (a : α) (front : List α) (rest : Option α) :
    slot? (a :: front, rest) 0 = some a := rfl

@[simp] theorem slot?_cons_succ {α : Type} (a : α) (front : List α) (rest : Option α) (i : Nat) :
    slot? (a :: front, rest) (i + 1) = slot? (front, rest) i := by
  simp [slot?]

theorem slot?_of_lt {α : Type} {shape : List α × Option α} {i : Nat} (h : i < shape.1.length) :
    slot? shape i = some shape.1[i] := by
  simp [slot?, h]

theorem slot?_of_le {α : Type} {shape : List α × Option α} {i : Nat} (h : shape.1.length ≤ i) :
    slot? shape i = shape.2 := by
  simp [slot?, h]

theorem slot?_map {α β : Type} (f : α → β) (shape : List α × Option α) (i : Nat) :
    slot? (shape.1.map f, shape.2.map f) i = (slot? shape i).map f := by
  rcases Nat.lt_or_ge i shape.1.length with h | h
  · simp [slot?, h]
  · simp [slot?, h]

/-- A slot is an element or the spread. -/
theorem mem_of_mem_slot? {α : Type} {shape : List α × Option α} {i : Nat} {a : α}
    (h : a ∈ slot? shape i) : a ∈ shape.1 ∨ a ∈ shape.2 := by
  rcases Nat.lt_or_ge i shape.1.length with hi | hi
  · rw [slot?_of_lt hi] at h
    cases h
    exact Or.inl (List.getElem_mem hi)
  · rw [slot?_of_le hi] at h
    exact Or.inr h

/-- **Every item lies in the slot at its position.** -/
def FillsSlots (shape : List (Set Json) × Option (Set Json)) (items : List Json) : Prop :=
  ∀ i item, items[i]? = some item → ∃ S ∈ slot? shape i, item ∈ S

theorem fillsSlots_nil (shape : List (Set Json) × Option (Set Json)) : FillsSlots shape [] :=
  fun _ _ h => nomatch h

theorem fillsSlots_cons {S : Set Json} {front : List (Set Json)} {rest : Option (Set Json)}
    {item : Json} {items : List Json} :
    FillsSlots (S :: front, rest) (item :: items) ↔ item ∈ S ∧ FillsSlots (front, rest) items := by
  constructor
  · intro h
    obtain ⟨S', hS', hitem⟩ := h 0 item rfl
    cases hS'
    refine ⟨hitem, fun i other hother => ?_⟩
    have hnext := h (i + 1) other hother
    rwa [slot?_cons_succ] at hnext
  · rintro ⟨hitem, hrest⟩ i other hother
    cases i with
    | zero =>
      cases hother
      exact ⟨S, rfl, hitem⟩
    | succ i =>
      rw [slot?_cons_succ]
      exact hrest i other hother

/-- Without a spread there are no more items than elements. -/
theorem FillsSlots.length_le {front : List (Set Json)} {items : List Json}
    (h : FillsSlots (front, none) items) : items.length ≤ front.length := by
  refine Nat.not_lt.1 fun hlt => ?_
  obtain ⟨S, hS, -⟩ := h front.length _ (List.getElem?_eq_getElem hlt)
  rw [slot?_of_le (Nat.le_refl _)] at hS
  cases hS

/-- **Items fill the places of an alternative** when there is one for each element, and each lies in
its slot. -/
theorem fills_placesOf {front : List (Set Json)} {rest : Option (Set Json)} {items : List Json} :
    Fills (placesOf (front, rest)) items ↔
      front.length ≤ items.length ∧ FillsSlots (front, rest) items := by
  induction front generalizing items with
  | nil =>
    cases rest with
    | none =>
      refine ⟨fun h => ⟨Nat.zero_le _, ?_⟩, fun h => ?_⟩
      · cases (h : items = [])
        exact fillsSlots_nil _
      · exact List.eq_nil_of_length_eq_zero (Nat.le_zero.1 h.2.length_le)
    | some S =>
      have hslot : ∀ i, slot? ([], some S) i = some S := fun i => slot?_of_le (Nat.zero_le i)
      refine ⟨fun h => ⟨Nat.zero_le _, fun i item hitem => ?_⟩, fun h item hitem => ?_⟩
      · exact ⟨S, hslot i, h item (List.mem_of_getElem? hitem)⟩
      · obtain ⟨i, hi⟩ := List.mem_iff_getElem?.1 hitem
        obtain ⟨S', hS', hitem'⟩ := h.2 i item hi
        rw [hslot] at hS'
        cases hS'
        exact hitem'
  | cons S front ih =>
    cases items with
    | nil =>
      constructor
      · rintro ⟨item, more, h, -⟩
        cases h
      · exact fun h => absurd h.1 (Nat.not_succ_le_zero _)
    | cons item items =>
      rw [fillsSlots_cons, List.length_cons, List.length_cons, Nat.succ_le_succ_iff]
      constructor
      · rintro ⟨item', more, heq, hitem, hmore⟩
        cases heq
        obtain ⟨hlength, hslots⟩ := ih.1 hmore
        exact ⟨hlength, hitem, hslots⟩
      · rintro ⟨hlength, hitem, hslots⟩
        exact ⟨item, items, rfl, hitem, ih.2 ⟨hlength, hslots⟩⟩

/-! ### All alternatives -/

/-- The longest alternative of a bounded array. -/
def longest {α : Type} (placeholder : α) (elements : List α) (min : Nat) (max : Option Nat)
    (spread : Option α) : List α × Option α :=
  (tupleElements placeholder elements max spread,
    tupleSpread placeholder elements.length min max spread)

theorem longest_map {α β : Type} (f : α → β) (placeholder : α) (elements : List α) (min : Nat)
    (max : Option Nat) (spread : Option α) :
    longest (f placeholder) (elements.map f) min max (spread.map f) =
      ((longest placeholder elements min max spread).1.map f,
        (longest placeholder elements min max spread).2.map f) := by
  cases spread <;> cases max <;> simp [longest, tupleElements, tupleSpread, apply_ite]

theorem longest_mem_tupleShapes {α : Type} (placeholder : α) (elements : List α) (min : Nat)
    (max : Option Nat) (spread : Option α) :
    longest placeholder elements min max spread ∈
      tupleShapes placeholder elements min max spread :=
  List.mem_append_right _ (List.mem_singleton_self _)

/-- Items of no more positions than the elements that are taken have the same slots. -/
theorem fillsSlots_take {front : List (Set Json)} (rest : Option (Set Json)) {count : Nat}
    {items : List Json} (hcount : count ≤ front.length) :
    count ≤ items.length ∧ FillsSlots (front.take count, none) items ↔
      items.length = count ∧ FillsSlots (front, rest) items := by
  have hsame : ∀ i < count, slot? (front.take count, none) i = slot? (front, rest) i := by
    intro i hi
    have htake : i < (front.take count).length := by
      rw [List.length_take]
      omega
    rw [slot?_of_lt htake, slot?_of_lt (Nat.lt_of_lt_of_le hi hcount), List.getElem_take]
  have hlt : ∀ {i item}, items.length = count → items[i]? = some item → i < count := by
    intro i item hlength hitem
    exact hlength ▸ (List.getElem?_eq_some_iff.1 hitem).1
  constructor
  · rintro ⟨hle, hslots⟩
    have hlength := hslots.length_le
    rw [List.length_take, Nat.min_eq_left hcount] at hlength
    have heq := Nat.le_antisymm hlength hle
    exact ⟨heq, fun i item hitem => hsame i (hlt heq hitem) ▸ hslots i item hitem⟩
  · rintro ⟨heq, hslots⟩
    exact ⟨Nat.le_of_eq heq.symm,
      fun i item hitem => hsame i (hlt heq hitem) ▸ hslots i item hitem⟩

/-- **Some alternative takes an array in** when it is long enough, and each item lies in the slot
that the longest alternative has at its position. -/
theorem exists_fills_tupleShapes {placeholder : Set Json} {elements : List (Set Json)} {min : Nat}
    {max : Option Nat} {spread : Option (Set Json)} {items : List Json} :
    (∃ shape ∈ tupleShapes placeholder elements min max spread, Fills (placesOf shape) items) ↔
      (min ≤ items.length ∨
        (longest placeholder elements min max spread).1.length ≤ items.length) ∧
        FillsSlots (longest placeholder elements min max spread) items := by
  simp only [tupleShapes, longest]
  generalize tupleElements placeholder elements max spread = all
  generalize tupleSpread placeholder elements.length min max spread = rest
  constructor
  · rintro ⟨shape, hshape, hfills⟩
    rcases List.mem_append.1 hshape with hshape | hshape
    · obtain ⟨i, hi, rfl⟩ := List.mem_map.1 hshape
      have hi := List.mem_range.1 hi
      rw [fills_placesOf, List.length_take, Nat.min_eq_left (by omega),
        fillsSlots_take rest (by omega)] at hfills
      exact ⟨Or.inl (by omega), hfills.2⟩
    · rw [List.mem_singleton.1 hshape, fills_placesOf] at hfills
      exact ⟨Or.inr hfills.1, hfills.2⟩
  · rintro ⟨hmin, hslots⟩
    rcases Nat.lt_or_ge items.length all.length with hlt | hge
    · have hle : min ≤ items.length := hmin.resolve_right (Nat.not_le.2 hlt)
      refine ⟨(all.take (min + (items.length - min)), none), List.mem_append_left _
        (List.mem_map.2 ⟨items.length - min, List.mem_range.2 (by omega), rfl⟩), ?_⟩
      rw [Nat.add_sub_cancel' hle, fills_placesOf, List.length_take, Nat.min_eq_left (by omega),
        fillsSlots_take rest (by omega)]
      exact ⟨rfl, hslots⟩
    · exact ⟨(all, rest), List.mem_append_right _ (List.mem_singleton_self _),
        fills_placesOf.2 ⟨hge, hslots⟩⟩

/-! ### The arrays of a kind -/

theorem placesOf_map {α β : Type} (f : α → β) (shape : List α × Option α) :
    (placesOf shape).map (fun place => (place.1, f place.2)) =
      placesOf (shape.1.map f, shape.2.map f) := by
  obtain ⟨front, rest⟩ := shape
  cases rest <;> simp [placesOf]

/-- The slots of a bounded array, where `P` gives the values of its parts.  An element that it does
not describe may be anything. -/
def slotsOf (P : TypeId → Set Json) (elements : List TypeId) (min : Nat) (max : Option Nat)
    (spread : Option TypeId) : List (Set Json) × Option (Set Json) :=
  longest Set.univ (elements.map P) min max (spread.map P)

/-- How many elements the longest alternative of a bounded array has. -/
def longestLength (elements : List TypeId) (max : Option Nat) (spread : Option TypeId) : Nat :=
  if spread.isNone then elements.length + (max.getD 0 - elements.length) else elements.length

theorem length_slotsOf (P : TypeId → Set Json) (elements : List TypeId) (min : Nat)
    (max : Option Nat) (spread : Option TypeId) :
    (slotsOf P elements min max spread).1.length = longestLength elements max spread := by
  cases spread <;> cases max <;> simp [slotsOf, longest, tupleElements, longestLength]

/-- **The arrays that a bounded array admits** are long enough, and fill its slots. -/
theorem mem_kindValues_tuple {named : String → Set Json} {P : TypeId → Set Json}
    {elements : List TypeId} {min : Nat} {max : Option Nat} {spread : Option TypeId} {v : Json} :
    v ∈ kindValues named P (.tuple elements min max spread) ↔ ∃ items, v = .array items ∧
      (min ≤ items.length ∨ (slotsOf P elements min max spread).1.length ≤ items.length) ∧
        FillsSlots (slotsOf P elements min max spread) items := by
  let values (part : Option TypeId) : Set Json := part.elim Set.univ P
  have helements : elements.map P = (elements.map some).map values := by simp [values]
  have hspread : spread.map P = (spread.map some).map values := by cases spread <;> rfl
  have hshapes : tupleShapes Set.univ (elements.map P) min max (spread.map P) =
      (tupleShapes none (elements.map some) min max (spread.map some)).map fun shape =>
        (shape.1.map values, shape.2.map values) := by
    rw [helements, hspread]
    exact tupleShapes_map values none (elements.map some) min max (spread.map some)
  constructor
  · rintro ⟨shape, hshape, items, rfl, hfills⟩
    refine ⟨items, rfl, exists_fills_tupleShapes.1 ⟨_, ?_, placesOf_map values shape ▸ hfills⟩⟩
    rw [hshapes]
    exact List.mem_map.2 ⟨shape, hshape, rfl⟩
  · rintro ⟨items, rfl, h⟩
    obtain ⟨_, hshape, hfills⟩ := exists_fills_tupleShapes.2 h
    obtain ⟨shape, hmem, rfl⟩ := List.mem_map.1 (hshapes ▸ hshape)
    exact ⟨shape, hmem, items, rfl, (placesOf_map values shape).symm ▸ hfills⟩

end TypeGraph
end SchemaTypings
