import Mathlib.Data.List.Chain
import SchemaTypings.Proofs.Stateful
import SchemaTypings.Proofs.TupleSlots

/-! # The alternatives of a bounded array

A bounded array is written as a list of alternatives.  Each has one part more than the one before it,
and only the last has a part that is spread.  A part is written for the element at its position, or
else it is a placeholder that anything matches.  Together the alternatives admit every array that the
elements, the spread and the bounds describe.
-/
namespace SchemaTypings
namespace TypeGraph

/-! ### Shapes -/

section Shapes

variable {α : Type} {placeholder : α} {elements : List α} {min : Nat} {max : Option Nat}
  {spread : Option α}

/-- Behind the elements there are placeholders alone. -/
theorem eq_of_mem_tupleElements {i : Nat} {a : α}
    (h : (tupleElements placeholder elements max spread)[i]? = some a) :
    a = elements[i]?.getD placeholder := by
  unfold tupleElements at h
  split at h
  · rcases Nat.lt_or_ge i elements.length with hi | hi
    · rw [List.getElem?_append_left hi] at h
      rw [h, Option.getD_some]
    · rw [List.getElem?_append_right hi] at h
      rw [List.getElem?_eq_none hi, Option.getD_none]
      exact List.eq_of_mem_replicate (List.mem_of_getElem? h)
  · rw [h, Option.getD_some]

/-- A spread that is not described is the placeholder. -/
theorem eq_of_mem_tupleSpread {count : Nat} {a : α}
    (h : a ∈ tupleSpread placeholder count min max spread) : a = spread.getD placeholder := by
  unfold tupleSpread at h
  split at h
  · split at h
    · exact (Option.some.inj h).symm
    · cases h
  · rw [h, Option.getD_some]

/-- **The parts of an alternative**: the element at its position or else the placeholder, and behind
them the spread or else the placeholder. -/
theorem parts_of_mem_tupleShapes {shape : List α × Option α}
    (h : shape ∈ tupleShapes placeholder elements min max spread) :
    (∀ (i : Nat) a, shape.1[i]? = some a → a = elements[i]?.getD placeholder) ∧
      ∀ a ∈ shape.2, a = spread.getD placeholder := by
  rcases List.mem_append.1 h with h | h
  · obtain ⟨count, -, rfl⟩ := List.mem_map.1 h
    refine ⟨fun i a ha => ?_, fun a ha => nomatch ha⟩
    rw [List.getElem?_take] at ha
    split at ha
    · exact eq_of_mem_tupleElements ha
    · cases ha
  · rw [List.mem_singleton.1 h]
    exact ⟨fun i a => eq_of_mem_tupleElements, fun a => eq_of_mem_tupleSpread⟩

/-- The lengths of the alternatives. -/
theorem length_getElem_tupleShapes {i : Nat}
    (hi : i < (tupleShapes placeholder elements min max spread).length) :
    (tupleShapes placeholder elements min max spread)[i].1.length =
      if i < (tupleElements placeholder elements max spread).length - min then min + i
      else (tupleElements placeholder elements max spread).length := by
  simp only [tupleShapes]
  split
  · next hlt =>
    rw [List.getElem_append_left (by simpa using hlt), List.getElem_map, List.getElem_range,
      List.length_take]
    omega
  · next hlast =>
    rw [List.getElem_append_right (by simpa using hlast), List.getElem_singleton]

/-- **Each alternative is longer than the one before by one.** -/
theorem isChain_tupleShapes (placeholder : α) (elements : List α) (min : Nat) (max : Option Nat)
    (spread : Option α) :
    (tupleShapes placeholder elements min max spread).IsChain fun shape next =>
      next.1.length = shape.1.length + 1 := by
  rw [List.isChain_iff_getElem]
  intro i hi
  have hlength : (tupleShapes placeholder elements min max spread).length =
      (tupleElements placeholder elements max spread).length - min + 1 := by
    simp [tupleShapes]
  rw [length_getElem_tupleShapes hi, length_getElem_tupleShapes (Nat.lt_of_succ_lt hi)]
  split <;> split <;> omega

/-- **Only the last alternative has a spread.** -/
theorem spread_of_mem_dropLast_tupleShapes {shape : List α × Option α}
    (h : shape ∈ (tupleShapes placeholder elements min max spread).dropLast) : shape.2 = none := by
  rw [tupleShapes, List.dropLast_concat] at h
  obtain ⟨i, -, rfl⟩ := List.mem_map.1 h
  rfl

end Shapes

/-! ### Arrays that are described -/

/-- **An array that a bounded array describes**, where `P` gives the values of its parts: it keeps
the bounds, its items match the elements at their positions, and all further ones match the spread.
Without a largest number and a spread no items follow the elements, unless more are needed. -/
structure MatchesTuple (P : TypeId → Set Json) (elements : List TypeId) (min : Nat)
    (max : Option Nat) (spread : Option TypeId) (items : List Json) : Prop where
  least : min ≤ items.length
  most : ∀ limit ∈ max, items.length ≤ limit
  closed : max = none → spread = none → min ≤ elements.length → items.length ≤ elements.length
  element : ∀ (i : Nat) e item, elements[i]? = some e → items[i]? = some item → item ∈ P e
  further : ∀ S ∈ spread, ∀ (i : Nat) item, elements.length ≤ i → items[i]? = some item → item ∈ P S

section Described

variable {P : TypeId → Set Json} {elements : List TypeId} {min : Nat} {max : Option Nat}
  {spread : Option TypeId} {items : List Json}

/-- **An array that is described fills the slots.**  An item behind the elements lies in the slot of
the spread, of a placeholder below the largest number, or of the spread that is filled in. -/
theorem MatchesTuple.fillsSlots (h : MatchesTuple P elements min max spread items) :
    FillsSlots (slotsOf P elements min max spread) items := by
  intro i item hitem
  have hi : i < items.length := (List.getElem?_eq_some_iff.1 hitem).1
  rcases Nat.lt_or_ge i elements.length with hlt | hge
  · refine ⟨P elements[i], ?_, h.element i _ item (List.getElem?_eq_getElem hlt) hitem⟩
    cases spread <;> cases max <;>
      simp [slotsOf, longest, tupleElements, slot?, List.getElem?_append, hlt]
  · cases spread with
    | some S =>
      refine ⟨P S, ?_, h.further S rfl i item hge hitem⟩
      simp [slotsOf, longest, tupleElements, tupleSpread, slot?, hge]
    | none =>
      refine ⟨Set.univ, ?_, Set.mem_univ item⟩
      cases max with
      | some limit =>
        have hlimit := h.most limit rfl
        have hpad : (elements.map P ++ List.replicate (limit - elements.length) Set.univ)[i]? =
            some Set.univ := by
          rw [List.getElem?_append_right (by simpa using hge), List.getElem?_replicate, if_pos]
          rw [List.length_map]
          omega
        simp [slotsOf, longest, tupleElements, slot?, hpad]
      | none =>
        have hmore : elements.length < min := by
          refine Nat.not_le.1 fun hle => ?_
          have hclosed := h.closed rfl rfl hle
          omega
        simp [slotsOf, longest, tupleElements, tupleSpread, slot?, hge, hmore]

end Described

/-! ### What is written -/

/-- A part of an alternative: a text, and the type that it is written for unless it is a
placeholder. -/
abbrev Part := String × Option TypeId

/-- **An alternative as it is written**: its parts, and behind them the one that is spread. -/
structure Alternative where
  parts : List Part
  rest : Option Part

namespace Alternative

/-- The text of an alternative. -/
def text (a : Alternative) : String := tupleText (a.parts.map Prod.fst) (a.rest.map Prod.fst)

/-- **An alternative admits an array** whose items match its parts in order, and behind them the one
that is spread.  Anything matches a placeholder. -/
def Admits (P : TypeId → Set Json) (a : Alternative) (items : List Json) : Prop :=
  Fills (placesOf (a.parts.map fun part => part.2.elim Set.univ P,
    a.rest.map fun part => part.2.elim Set.univ P)) items

end Alternative

/-- The texts of the parts of a bounded array, and then that of its spread. -/
def partTexts (use : TypeId → Rendering String) (elements : List TypeId) (spread : Option TypeId) :
    Rendering (List String × Option String) := do
  let texts ← elements.mapM use
  let further ← spread.mapM use
  return (texts, further)

/-- A bounded array is written from the texts of its parts. -/
theorem kindText_tuple (o : Options) (use : TypeId → Rendering String) (elements : List TypeId)
    (min : Nat) (max : Option Nat) (spread : Option TypeId) :
    kindText o use (.tuple elements min max spread) =
      (fun texts => boundedText o.placeholder texts.1 min max texts.2) <$>
        partTexts use elements spread := by
  simp [kindText, partTexts]

/-- There is a text for each part. -/
theorem after_partTexts (use : TypeId → Rendering String) (elements : List TypeId)
    (spread : Option TypeId) (s : Texts) :
    After (partTexts use elements spread) s fun texts _ =>
      texts.1.length = elements.length ∧ texts.2.isSome = spread.isSome := by
  have helements : After (elements.mapM use) s fun texts _ =>
      True ∧ List.Forall₂ (fun _ _ => True) elements texts :=
    after_mapM_forall₂ (I := fun _ => True) (fun _ _ _ _ => ⟨trivial, trivial⟩) trivial
  refine after_bind.2 (helements.mono fun texts t hall => ?_)
  have hlength := hall.2.length_eq.symm
  cases spread with
  | none => exact ⟨hlength, rfl⟩
  | some S => exact ⟨hlength, rfl⟩

section Written

variable {o : Options} {texts : List String} {further : Option String} {elements : List TypeId}
  {min : Nat} {max : Option Nat} {spread : Option TypeId}

/-- The alternatives of a bounded array, where its parts have the texts. -/
def alternatives (o : Options) (texts : List String) (further : Option String)
    (elements : List TypeId) (min : Nat) (max : Option Nat) (spread : Option TypeId) :
    List Alternative :=
  (tupleShapes (o.placeholder, none) (texts.zip (elements.map some)) min max
    (spread.map fun S => (further.getD o.placeholder, some S))).map fun shape =>
      ⟨shape.1, shape.2⟩

/-- Each alternative is longer than the one before by one. -/
theorem isChain_alternatives : (alternatives o texts further elements min max spread).IsChain
    fun a next => next.parts.length = a.parts.length + 1 :=
  (List.isChain_map _).2 (isChain_tupleShapes ..)

/-- Only the last alternative has a spread. -/
theorem rest_of_mem_dropLast {a : Alternative}
    (h : a ∈ (alternatives o texts further elements min max spread).dropLast) : a.rest = none := by
  rw [alternatives, ← List.map_dropLast] at h
  obtain ⟨shape, hshape, rfl⟩ := List.mem_map.1 h
  exact spread_of_mem_dropLast_tupleShapes hshape

/-- **Some alternative admits an array that is described.** -/
theorem exists_admits {P : TypeId → Set Json} {items : List Json}
    (htexts : texts.length = elements.length)
    (h : MatchesTuple P elements min max spread items) :
    ∃ a ∈ alternatives o texts further elements min max spread, a.Admits P items := by
  let values (part : Part) : Set Json := part.2.elim Set.univ P
  have helements : (texts.zip (elements.map some)).map values = elements.map P := by
    have hzip : (texts.zip (elements.map some)).map Prod.snd = elements.map some :=
      List.map_snd_zip (by simp [htexts])
    calc (texts.zip (elements.map some)).map values
        = ((texts.zip (elements.map some)).map Prod.snd).map fun type => type.elim Set.univ P := by
          rw [List.map_map]
          rfl
      _ = elements.map P := by
          rw [hzip, List.map_map]
          rfl
  have hspread : (spread.map fun S => (further.getD o.placeholder, some S)).map values =
      spread.map P := by
    cases spread <;> rfl
  have hshapes := tupleShapes_map values (o.placeholder, none) (texts.zip (elements.map some)) min
    max (spread.map fun S => (further.getD o.placeholder, some S))
  rw [helements, hspread] at hshapes
  obtain ⟨_, hshape, hfills⟩ := exists_fills_tupleShapes.2 ⟨Or.inl h.least, h.fillsSlots⟩
  obtain ⟨shape, hmem, rfl⟩ := List.mem_map.1 (hshapes ▸ hshape)
  exact ⟨⟨shape.1, shape.2⟩, List.mem_map.2 ⟨shape, hmem, rfl⟩, hfills⟩

variable (htexts : texts.length = elements.length) (hfurther : further.isSome = spread.isSome)

include htexts hfurther

/-- **The text of a bounded array lists its alternatives.** -/
theorem boundedText_eq : boundedText o.placeholder texts min max further =
    " | ".intercalate ((alternatives o texts further elements min max spread).map
      Alternative.text) := by
  have helements : (texts.zip (elements.map some)).map Prod.fst = texts :=
    List.map_fst_zip (by simp [htexts])
  have hspread : (spread.map fun S => (further.getD o.placeholder, some S)).map Prod.fst =
      further := by
    cases spread <;> cases further <;> first | rfl | cases hfurther
  have hshapes := tupleShapes_map Prod.fst (o.placeholder, (none : Option TypeId))
    (texts.zip (elements.map some)) min max
    (spread.map fun S => (further.getD o.placeholder, some S))
  rw [helements, hspread] at hshapes
  rw [boundedText, hshapes, alternatives, List.map_map, List.map_map]
  rfl

/-- **The parts of an alternative** are written for the elements at their positions, and behind them
for the spread. -/
theorem parts_of_mem_alternatives {a : Alternative}
    (h : a ∈ alternatives o texts further elements min max spread) :
    (∀ (i : Nat) part, a.parts[i]? = some part →
      part = (texts[i]?.getD o.placeholder, elements[i]?)) ∧
      ∀ part ∈ a.rest, part = (further.getD o.placeholder, spread) := by
  obtain ⟨shape, hshape, rfl⟩ := List.mem_map.1 h
  obtain ⟨hparts, hrest⟩ := parts_of_mem_tupleShapes hshape
  refine ⟨fun i part hpart => (hparts i part hpart).trans ?_, fun part hpart =>
    (hrest part hpart).trans ?_⟩
  · rcases Nat.lt_or_ge i elements.length with hlt | hge
    · simp [htexts, hlt]
    · simp [htexts, hge]
  · cases spread <;> cases further <;> first | rfl | cases hfurther

end Written

/-! ### Types -/

/-- **The text of a bounded array loses no array.**  It lists alternatives, of which each has one
part more than the one before, and only the last has a spread.  Their parts are written for the
elements at their positions, with placeholders behind them, and the spread for the spread or a
placeholder.  Whatever the types of the elements admit, every array that keeps the bounds, and whose
items match the elements and behind them the spread, is admitted by an alternative. -/
theorem tuple_text_loses_no_array {g : TypeGraph} {o : Options} {active : List TypeId} {id : TypeId}
    (hid : id < g.size) (hactive : id ∉ active) {elements : List TypeId} {min : Nat}
    {max : Option Nat} {spread : Option TypeId} (hkind : g.kind id = .tuple elements min max spread)
    (s : Texts) :
    ∃ texts further t,
      (partTexts (g.useText fun child => g.rawText o (id :: active) child) elements spread).run s =
        ((texts, further), t) ∧
      texts.length = elements.length ∧ further.isSome = spread.isSome ∧
      ∃ written : List Alternative,
        (g.rawText o active id).run s =
          (" | ".intercalate (written.map Alternative.text), t) ∧
        (∀ a ∈ written,
          (∀ (i : Nat) part, a.parts[i]? = some part →
            part = (texts[i]?.getD o.placeholder, elements[i]?)) ∧
          ∀ part ∈ a.rest, part = (further.getD o.placeholder, spread)) ∧
        written.IsChain (fun a next => next.parts.length = a.parts.length + 1) ∧
        (∀ a ∈ written.dropLast, a.rest = none) ∧
        ∀ P items, MatchesTuple P elements min max spread items →
          ∃ a ∈ written, a.Admits P items := by
  let use := g.useText fun child => g.rawText o (id :: active) child
  obtain ⟨htexts, hfurther⟩ := after_partTexts use elements spread s
  refine ⟨_, _, _, rfl, htexts, hfurther, alternatives o _ _ elements min max spread, ?_,
    fun a => parts_of_mem_alternatives htexts hfurther, isChain_alternatives,
    fun a => rest_of_mem_dropLast, fun P items => exists_admits htexts⟩
  rw [rawText, dif_pos ⟨hid, hactive⟩, hkind, kindText_tuple, ← boundedText_eq htexts hfurther]
  rfl

/-- A list of one to three items, of which the first is a text. -/
def oneToThree : TypeGraph where
  nodes := #[{ kind := .string }, { kind := .tuple [0] 1 (some 3) none }]
  root := 1

/-- Its alternatives admit a text and `null`. -/
theorem tuple_text_loses_no_array_oneToThree :
    ∃ written : List Alternative,
      ((oneToThree.rawText {} [] 1).run []).1 =
        "[string] | [string, unknown] | [string, unknown, unknown]" ∧
      " | ".intercalate (written.map Alternative.text) =
        "[string] | [string, unknown] | [string, unknown, unknown]" ∧
      ∃ a ∈ written, a.Admits (fun _ => {v | v.isString}) [.string "a", .null] := by
  have hrun : ((oneToThree.rawText {} [] 1).run []).1 =
      "[string] | [string, unknown] | [string, unknown, unknown]" := by
    decide +kernel
  obtain ⟨_, _, t, -, -, -, written, htext, -, -, -, hadmits⟩ :=
    tuple_text_loses_no_array (show 1 < oneToThree.size by decide)
      (show 1 ∉ ([] : List TypeId) from List.not_mem_nil) (o := {}) rfl []
  refine ⟨written, hrun, ?_, hadmits _ _ ?_⟩
  · rw [← hrun, htext]
  · refine ⟨by decide, by decide, fun h => (nomatch h), fun i e item he hitem => ?_,
      fun S hS => nomatch hS⟩
    match i, he, hitem with
    | 0, rfl, rfl => rfl

end TypeGraph
end SchemaTypings
