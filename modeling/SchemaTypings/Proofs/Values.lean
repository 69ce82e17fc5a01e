import Mathlib.Order.FixedPoints
import SchemaTypings.TypeGraph.Render

/-! # The values that types admit

A type admits JSON values.  What it admits depends on what its parts admit, and a recursive type is
its own part; so the sets of admitted values are the least ones that satisfy the equations of all
types of a graph.
-/
namespace SchemaTypings

/-! ### Sets of values from sets of values -/

/-- The arrays whose items are all in a set. -/
def arrayValues (S : Set Json) : Set Json :=
  {v | ∃ items, v = .array items ∧ ∀ item ∈ items, item ∈ S}

/-- Items that fill places in order.  A place that is marked takes in all items that are left. -/
def Fills : List (Bool × Set Json) → List Json → Prop
  | [], items => items = []
  | (true, S) :: _, items => ∀ item ∈ items, item ∈ S
  | (false, S) :: places, items => ∃ item rest, items = item :: rest ∧ item ∈ S ∧ Fills places rest

/-- The arrays whose items fill the places. -/
def tupleValues (places : List (Bool × Set Json)) : Set Json :=
  {v | ∃ items, v = .array items ∧ Fills places items}

/-- A visible member of a class without its type: its key, or none for an index signature, and
whether it may be missing. -/
structure Field where
  key : Option String
  optional : Bool
  deriving DecidableEq

/-- What a member asks of the entries of an object.  An index signature covers the keys that are
not in `keys`. -/
def Field.Holds (f : Field) (keys : List String) (S : Set Json) (entries : Dict Json) : Prop :=
  match f.key with
  | some key => (∀ v, entries.get? key = some v → v ∈ S) ∧
      (f.optional = false → (entries.get? key).isSome)
  | none => ∀ entry ∈ entries, entry.1 ∉ keys → entry.2 ∈ S

/-- The objects that satisfy each of the members. -/
def recordValues (fields : List (Field × Set Json)) : Set Json :=
  {v | ∃ entries, v = .object entries ∧
    ∀ f ∈ fields, f.1.Holds (fields.filterMap fun f => f.1.key) f.2 entries}

/-- The member as its class shows it. -/
def Member.field (m : Member) : Field := ⟨if m.isIndex then none else some m.key, !m.isRequired⟩

namespace TypeGraph

/-- The places of one alternative of a bounded array: its elements, and behind them its spread. -/
def placesOf {α : Type} (shape : List α × Option α) : List (Bool × α) :=
  shape.1.map (Prod.mk false) ++ shape.2.toList.map (Prod.mk true)

/-- The visible members of a class with the sets of their types. -/
def fieldsOf (P : TypeId → Set Json) (members : List Member) : List (Field × Set Json) :=
  (members.filter Member.isVisible).map fun m => (m.field, P m.type)

/-- **The values of a kind**, where `P` gives the values of its parts and `named` those of the types
that have a name.  An element that a bounded array does not describe may be anything. -/
def kindValues (named : String → Set Json) (P : TypeId → Set Json) : TypeKind → Set Json
  | .any => Set.univ
  | .unknown => Set.univ
  | .null => {v | v.isNull}
  | .boolean => {v | v.isBool}
  | .number => {v | v.isNumber}
  | .string => {v | v.isString}
  | .literal value => {value}
  | .object => {v | v.isObject}
  | .array element => arrayValues (P element)
  | .tuple elements min max spread =>
    {v | ∃ shape ∈ tupleShapes none (elements.map some) min max (spread.map some),
      v ∈ tupleValues ((placesOf shape).map fun place => (place.1, place.2.elim Set.univ P))}
  | .union members => {v | ∃ m ∈ members, v ∈ P m}
  | .intersection members => {v | ∀ m ∈ members, v ∈ P m}
  | .enumeration entries => {v | ∃ entry ∈ entries, v = entry.value}
  | .record members bases => recordValues (fieldsOf P members) ∩ {v | ∀ base ∈ bases, v ∈ P base}
  | .reference target => named target
  | .custom _ => ∅

/-- The values of the types of a name. -/
def bearing (g : TypeGraph) (P : TypeId → Set Json) (name : String) : Set Json :=
  {v | ∃ id, g.name? id = some name ∧ v ∈ P id}

/-- The values of a type, where `P` gives those of all types. -/
def meaning (g : TypeGraph) (P : TypeId → Set Json) (id : TypeId) : Set Json :=
  kindValues (g.bearing P) P (g.kind id)

/-! ### The least sets -/

theorem fills_mono {f : TypeId → Set Json} {h : TypeId → Set Json} (hfh : ∀ id, f id ⊆ h id)
    {places : List (Bool × Option TypeId)} {items : List Json}
    (hfills : Fills (places.map fun place => (place.1, place.2.elim Set.univ f)) items) :
    Fills (places.map fun place => (place.1, place.2.elim Set.univ h)) items := by
  have hle : ∀ part : Option TypeId, part.elim Set.univ f ⊆ part.elim Set.univ h := by
    intro part
    cases part with
    | none => exact subset_rfl
    | some id => exact hfh id
  induction places generalizing items with
  | nil => exact hfills
  | cons place places ih =>
    obtain ⟨isSpread, part⟩ := place
    cases isSpread with
    | true => exact fun item hitem => hle part (hfills item hitem)
    | false =>
      obtain ⟨item, rest, rfl, hitem, hrest⟩ := hfills
      exact ⟨item, rest, rfl, hle part hitem, ih hrest⟩

theorem Field.Holds.mono {f : Field} {keys : List String} {S T : Set Json} (hst : S ⊆ T)
    {entries : Dict Json} (h : f.Holds keys S entries) : f.Holds keys T entries := by
  unfold Field.Holds at h ⊢
  split at h
  · exact ⟨fun v hv => hst (h.1 v hv), h.2⟩
  · exact fun entry hentry hkey => hst (h entry hentry hkey)

theorem keys_fieldsOf (P : TypeId → Set Json) (members : List Member) :
    (fieldsOf P members).filterMap (fun f => f.1.key) =
      (members.filter Member.isVisible).filterMap fun m => m.field.key := by
  rw [fieldsOf, List.filterMap_map]
  rfl

theorem recordValues_mono {P Q : TypeId → Set Json} (hpq : ∀ id, P id ⊆ Q id)
    (members : List Member) :
    recordValues (fieldsOf P members) ⊆ recordValues (fieldsOf Q members) := by
  rintro v ⟨entries, rfl, hall⟩
  refine ⟨entries, rfl, fun f hf => ?_⟩
  obtain ⟨m, hm, rfl⟩ := List.mem_map.1 hf
  have hold := hall (m.field, P m.type) (List.mem_map.2 ⟨m, hm, rfl⟩)
  rw [keys_fieldsOf] at hold ⊢
  exact Field.Holds.mono (hpq m.type) hold

/-- The values of a kind grow with those of its parts. -/
theorem kindValues_mono {named named' : String → Set Json} {P Q : TypeId → Set Json}
    (hnamed : ∀ name, named name ⊆ named' name) (hpq : ∀ id, P id ⊆ Q id) (kind : TypeKind) :
    kindValues named P kind ⊆ kindValues named' Q kind := by
  cases kind with
  | array element =>
    rintro v ⟨items, rfl, hitems⟩
    exact ⟨items, rfl, fun item hitem => hpq element (hitems item hitem)⟩
  | tuple elements min max spread =>
    rintro v ⟨shape, hshape, items, rfl, hfills⟩
    exact ⟨shape, hshape, items, rfl, fills_mono hpq hfills⟩
  | union members =>
    rintro v ⟨m, hm, hv⟩
    exact ⟨m, hm, hpq m hv⟩
  | intersection members => exact fun v hv m hm => hpq m (hv m hm)
  | record members bases =>
    exact fun v hv => ⟨recordValues_mono hpq members hv.1, fun base hbase => hpq base (hv.2 base hbase)⟩
  | reference target => exact hnamed target
  | _ => exact subset_rfl

theorem bearing_mono (g : TypeGraph) {P Q : TypeId → Set Json} (hpq : ∀ id, P id ⊆ Q id)
    (name : String) : g.bearing P name ⊆ g.bearing Q name :=
  fun _ ⟨id, hid, hv⟩ => ⟨id, hid, hpq id hv⟩

theorem meaning_mono (g : TypeGraph) {P Q : TypeId → Set Json} (hpq : ∀ id, P id ⊆ Q id)
    (id : TypeId) : g.meaning P id ⊆ g.meaning Q id :=
  kindValues_mono (g.bearing_mono hpq) hpq (g.kind id)

/-- **The values that the types of a graph admit**: the least sets that satisfy all equations. -/
noncomputable def values (g : TypeGraph) : TypeId → Set Json :=
  OrderHom.lfp ⟨g.meaning, fun _ _ => g.meaning_mono⟩

theorem meaning_values (g : TypeGraph) (id : TypeId) : g.meaning g.values id = g.values id :=
  congrFun (OrderHom.map_lfp ⟨g.meaning, fun _ _ => g.meaning_mono⟩) id

/-- Sets that are closed under the equations hold all admitted values. -/
theorem values_subset {g : TypeGraph} {P : TypeId → Set Json} (h : ∀ id, g.meaning P id ⊆ P id)
    (id : TypeId) : g.values id ⊆ P id :=
  OrderHom.lfp_le ⟨g.meaning, fun _ _ => g.meaning_mono⟩ (a := P) h id

end TypeGraph
end SchemaTypings
