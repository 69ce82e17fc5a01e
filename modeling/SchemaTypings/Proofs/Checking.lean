import SchemaTypings.Proofs.Wording

/-! # Checking a graph

Whether a graph is ordinary and describable is decided by looking at its types one by one, where
parts without names come behind the unnamed types that use them.
-/
namespace SchemaTypings

instance (v : Json) : Decidable v.IsScalar :=
  match v with
  | .null | .bool _ | .number _ | .string _ => .isTrue trivial
  | .array _ | .object _ => .isFalse id

instance (x : Decimal.Binary64) : Decidable x.Canonical :=
  decidable_of_iff (x.significand < 2 ^ 53 ∧ Decimal.Binary64.minExponent ≤ x.exponent ∧
      (Decimal.Binary64.minExponent < x.exponent → 2 ^ 52 ≤ x.significand))
    ⟨fun ⟨hbounded, hleast, hfull⟩ => ⟨hbounded, hleast, hfull⟩,
      fun h => ⟨h.bounded, h.least, h.full⟩⟩

instance (n : Number) : Decidable n.Canonical :=
  match n with
  | .integer _ => .isTrue trivial
  | .real x => inferInstanceAs (Decidable x.Canonical)

instance (v : Json) : Decidable v.HasForm :=
  match v with
  | .number n => inferInstanceAs (Decidable n.Canonical)
  | .null | .bool _ | .string _ | .array _ | .object _ => .isTrue trivial

instance (name : String) : Decidable (IsTypeName name) :=
  decidable_of_iff (Identifier.isIdentifier name = true ∧ name ∉ reservedWords)
    ⟨fun ⟨hidentifier, hreserved⟩ => ⟨hidentifier, hreserved⟩,
      fun h => ⟨h.isIdentifier, h.notReserved⟩⟩

/-- Whether the kind is neither `any` nor a text of unknown form. -/
def TypeKind.isKnown : TypeKind → Bool
  | .any => false
  | .custom _ => false
  | _ => true

/-- The target of a reference. -/
def TypeKind.target? : TypeKind → Option String
  | .reference target => some target
  | _ => none

namespace TypeGraph

variable {g : TypeGraph}

/-- What is checked of one type of an ordinary graph. -/
def LooksOrdinary (g : TypeGraph) (id : TypeId) : Prop :=
  (g.kind id).isKnown = true ∧ (∀ part ∈ g.children id, part < g.size) ∧
    (∀ v ∈ (g.kind id).literals, v.HasForm) ∧
    ((g.kind id).isEnumeration = true ∨ ∀ v ∈ (g.kind id).literals, v.IsScalar) ∧
    (∀ other < g.size, g.name? other = g.name? id → g.name? id = none ∨ other = id) ∧
    (g.name? id = none → ∀ part ∈ g.children id, g.name? part = none → id < part)

instance (g : TypeGraph) (id : TypeId) : Decidable (g.LooksOrdinary id) :=
  inferInstanceAs (Decidable (_ ∧ _))

/-- **A graph whose types all look ordinary is ordinary.** -/
theorem ordinary_of_looks (h : ∀ id < g.size, g.LooksOrdinary id) : g.Ordinary := by
  have hinside : ∀ {id part}, part ∈ g.children id → id < g.size := fun hpart =>
    lt_size_of_mem_children hpart
  have hliteral : ∀ {id v}, v ∈ (g.kind id).literals → id < g.size := by
    intro id v hv
    refine Nat.lt_of_not_le fun hle => ?_
    rw [kind_of_size_le hle] at hv
    cases hv
  refine ⟨?parts, ?known, ?scalar, ?forms, ?distinct, ?cycles⟩
  case parts => exact fun id part hpart => (h id (hinside hpart)).2.1 part hpart
  case known =>
    intro id hid
    have hknown := (h id hid).1
    refine ⟨fun hany => ?_, fun text hcustom => ?_⟩
    · rw [hany] at hknown
      cases hknown
    · rw [hcustom] at hknown
      cases hknown
  case scalar =>
    intro id value hkind
    have hmem : value ∈ (g.kind id).literals := by
      rw [hkind]
      exact List.mem_singleton_self value
    rcases (h id (hliteral hmem)).2.2.2.1 with henumeration | hscalar
    · rw [hkind] at henumeration
      cases henumeration
    · exact hscalar value hmem
  case forms =>
    rintro v ⟨id, hv⟩
    exact (h id (hliteral hv)).2.2.1 v hv
  case distinct =>
    intro id other name hid hother
    have hsame := (h id (lt_size_of_name? hid)).2.2.2.2.1 other (lt_size_of_name? hother)
      (hother.trans hid.symm)
    rcases hsame with hnone | hsame
    · rw [hid] at hnone
      cases hnone
    · exact hsame.symm
  case cycles =>
    exact cyclesNamed_of_lt fun a b ⟨ha, hb, hbname⟩ =>
      (h a (hinside hb)).2.2.2.2.2 ha b hb hbname

/-- What is checked of one type of a describable graph besides. -/
def LooksDescribable (g : TypeGraph) (id : TypeId) : Prop :=
  (∀ name ∈ g.name? id, IsTypeName name) ∧ (∀ target ∈ (g.kind id).target?, IsTypeName target) ∧
    ∀ v ∈ (g.kind id).literals, v.IsScalar

instance (g : TypeGraph) (id : TypeId) : Decidable (g.LooksDescribable id) :=
  inferInstanceAs (Decidable (_ ∧ _))

/-- **An ordinary graph whose types all look describable is describable.** -/
theorem Ordinary.describable (hg : g.Ordinary) (h : ∀ id < g.size, g.LooksDescribable id) :
    g.Describable := by
  have hinside : ∀ {id}, g.kind id ≠ .any → id < g.size := fun hkind =>
    Nat.lt_of_not_le fun hle => hkind (kind_of_size_le hle)
  refine ⟨hg, fun id name hname => ?_, fun id target hkind => ?_, fun id entries hkind => ?_⟩
  · exact (h id (lt_size_of_name? hname)).1 name hname
  · exact (h id (hinside (by rw [hkind]; nofun))).2.1 target (by rw [hkind]; rfl)
  · intro entry hentry
    refine (h id (hinside (by rw [hkind]; nofun))).2.2 entry.value ?_
    rw [hkind]
    exact List.mem_map.2 ⟨entry, hentry, rfl⟩

end TypeGraph
end SchemaTypings
