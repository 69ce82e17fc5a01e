import SchemaTypings.Proofs.Values
import SchemaTypings.TypeGraph.Simplify

/-! # What flattening and absorption admit

A union admits what some of its members admits, and an intersection what all of them do.  Both admit
the same when the members of unnamed members of their own kind are taken in, and an intersection
also without its members that admit everything the others admit.
-/
namespace SchemaTypings

/-! ### Kinds by their tests -/

theorem TypeKind.eq_any {kind : TypeKind} (h : kind.isAny = true) : kind = .any := by
  cases kind <;> first | rfl | cases h

theorem TypeKind.eq_unknown {kind : TypeKind} (h : kind.isUnknown = true) : kind = .unknown := by
  cases kind <;> first | rfl | cases h

theorem TypeKind.eq_object {kind : TypeKind} (h : kind.isObject = true) : kind = .object := by
  cases kind <;> first | rfl | cases h

theorem TypeKind.eq_record {kind : TypeKind} (h : kind.isRecord = true) :
    ∃ members bases, kind = .record members bases := by
  cases kind <;> first | exact ⟨_, _, rfl⟩ | cases h

/-- Kinds of operations are given by their operands. -/
theorem TypeKind.eq_of_operands {kind other : TypeKind} {isUnion : Bool} {members : List TypeId}
    (h : kind.operands? = some (isUnion, members))
    (hother : other.operands? = some (isUnion, members)) : kind = other := by
  cases kind with
  | union _ | intersection _ =>
    cases h
    cases other <;> cases hother
    rfl
  | _ => cases h

namespace TypeGraph

/-! ### Operations on sets -/

/-- The values of a union, or of an intersection, of types. -/
def operationValues (isUnion : Bool) (P : TypeId → Set Json) (members : List TypeId) : Set Json :=
  if isUnion then {v | ∃ m ∈ members, v ∈ P m} else {v | ∀ m ∈ members, v ∈ P m}

theorem kindValues_of_operands {named : String → Set Json} {P : TypeId → Set Json}
    {kind : TypeKind} {isUnion : Bool} {members : List TypeId}
    (h : kind.operands? = some (isUnion, members)) :
    kindValues named P kind = operationValues isUnion P members := by
  cases kind with
  | union _ | intersection _ =>
    cases h
    rfl
  | _ => cases h

@[simp] theorem operationValues_singleton (isUnion : Bool) (P : TypeId → Set Json) (m : TypeId) :
    operationValues isUnion P [m] = P m := by
  cases isUnion <;> simp [operationValues]

/-- Members may be replaced by operations of the same kind that admit the same. -/
theorem operationValues_flatMap {isUnion : Bool} {P : TypeId → Set Json}
    {contribute : TypeId → List TypeId} {members : List TypeId}
    (h : ∀ m ∈ members, operationValues isUnion P (contribute m) = P m) :
    operationValues isUnion P (members.flatMap contribute) = operationValues isUnion P members := by
  refine Set.ext fun v => ?_
  cases isUnion with
  | true =>
    have hpart : ∀ m ∈ members, (∃ c ∈ contribute m, v ∈ P c) ↔ v ∈ P m := fun m hm =>
      Set.ext_iff.1 (h m hm) v
    constructor
    · rintro ⟨c, hc, hv⟩
      obtain ⟨m, hm, hc⟩ := List.mem_flatMap.1 hc
      exact ⟨m, hm, (hpart m hm).1 ⟨c, hc, hv⟩⟩
    · rintro ⟨m, hm, hv⟩
      obtain ⟨c, hc, hv⟩ := (hpart m hm).2 hv
      exact ⟨c, List.mem_flatMap.2 ⟨m, hm, hc⟩, hv⟩
  | false =>
    have hpart : ∀ m ∈ members, (∀ c ∈ contribute m, v ∈ P c) ↔ v ∈ P m := fun m hm =>
      Set.ext_iff.1 (h m hm) v
    constructor
    · exact fun hv m hm => (hpart m hm).1 fun c hc => hv c (List.mem_flatMap.2 ⟨m, hm, hc⟩)
    · intro hv c hc
      obtain ⟨m, hm, hc⟩ := List.mem_flatMap.1 hc
      exact (hpart m hm).2 (hv m hm) c hc

/-! ### Flattening -/

/-- The members of an operation after flattening. -/
def flatMembers (g : TypeGraph) (id : TypeId) : List TypeId :=
  match (g.kind id).operands? with
  | none => []
  | some (isUnion, members) => members.flatMap (flattenMember g id isUnion)

variable {g : TypeGraph} {o : Options} {id : TypeId} {isUnion : Bool} {members : List TypeId}

theorem flatMembers_eq (h : (g.kind id).operands? = some (isUnion, members)) :
    g.flatMembers id = members.flatMap (flattenMember g id isUnion) := by
  rw [flatMembers, h]

/-- A member contributes itself, or its members where it is an unnamed operation of the same
kind. -/
theorem flattenMember_cases (g : TypeGraph) (id : TypeId) (isUnion : Bool) (m : TypeId) :
    flattenMember g id isUnion m = [m] ∨ (m ≠ id ∧ g.name? m = none ∧
      (g.kind m).operands? = some (isUnion, flattenMember g id isUnion m)) := by
  unfold flattenMember
  cases hkind : g.kind m with
  | union inner | intersection inner =>
    cases isUnion <;> by_cases hm : m ≠ id ∧ (g.name? m).isNone
    all_goals simp_all [TypeKind.operands?]
  | _ => exact Or.inl rfl

/-- **Flattening keeps what is admitted**, where the unnamed types other than the flattened one
satisfy their equations. -/
theorem values_flatMembers {P : TypeId → Set Json}
    (hP : ∀ m, m ≠ id → g.name? m = none → P m = g.meaning P m)
    (h : (g.kind id).operands? = some (isUnion, members)) :
    operationValues isUnion P (g.flatMembers id) = operationValues isUnion P members := by
  rw [flatMembers_eq h]
  refine operationValues_flatMap fun m _ => ?_
  rcases flattenMember_cases g id isUnion m with hself | ⟨hne, hname, hnested⟩
  · rw [hself, operationValues_singleton]
  · rw [hP m hne hname, meaning, kindValues_of_operands hnested]

/-- What flattening brings are members, or members of unnamed members. -/
theorem mem_flatMembers (h : (g.kind id).operands? = some (isUnion, members)) {c : TypeId}
    (hc : c ∈ g.flatMembers id) : c ∈ members ∨ ∃ m ∈ members, m ≠ id ∧ g.name? m = none ∧
      (g.kind m).operands? = some (isUnion, flattenMember g id isUnion m) ∧
      c ∈ flattenMember g id isUnion m := by
  rw [flatMembers_eq h] at hc
  obtain ⟨m, hm, hc⟩ := List.mem_flatMap.1 hc
  rcases flattenMember_cases g id isUnion m with hself | ⟨hne, hname, hnested⟩
  · rw [hself, List.mem_singleton] at hc
    exact Or.inl (hc ▸ hm)
  · exact Or.inr ⟨m, hm, hne, hname, hnested, hc⟩

theorem children_of_operands {id : TypeId}
    (h : (g.kind id).operands? = some (isUnion, members)) : g.children id = members := by
  rw [children]
  cases hkind : g.kind id with
  | union _ | intersection _ =>
    rw [hkind] at h
    cases h
    rfl
  | _ =>
    rw [hkind] at h
    cases h

theorem lt_size_of_mem_flatMembers (hparts : ∀ id, ∀ part ∈ g.children id, part < g.size)
    {c : TypeId} (hc : c ∈ g.flatMembers id) : c < g.size := by
  cases h : (g.kind id).operands? with
  | none =>
    rw [flatMembers, h] at hc
    cases hc
  | some operation =>
    obtain ⟨isUnion, members⟩ := operation
    rcases mem_flatMembers h hc with hc | ⟨m, hm, -, -, hnested, hc⟩
    · exact hparts id c (children_of_operands h ▸ hc)
    · exact hparts m c (children_of_operands hnested ▸ hc)

/-! ### Absorption -/

/-- **An intersection admits the same without the members that `narrowMembers` drops**, where all
types satisfy their equations. -/
theorem values_narrowMembers {P : TypeId → Set Json} (hP : ∀ m, P m = g.meaning P m)
    (flat : List TypeId) :
    operationValues false P (narrowMembers g flat) = operationValues false P flat := by
  refine Set.ext fun v => ⟨fun hv m hm => ?_, fun hv m hm => hv m (List.mem_filter.1 hm).1⟩
  by_cases hkeep : m ∈ narrowMembers g flat
  · exact hv m hkeep
  · -- a dropped member is unknown, or an object beside a class
    have hdropped : (g.kind m).isUnknown = true ∨
        ((g.kind m).isObject = true ∧ flat.any (fun m => (g.kind m).isRecord) = true) := by
      by_contra hneither
      refine hkeep (List.mem_filter.2 ⟨hm, ?_⟩)
      cases hunknown : (g.kind m).isUnknown <;> cases hobject : (g.kind m).isObject <;>
        simp_all
    rw [hP m, meaning]
    rcases hdropped with hunknown | ⟨hobject, hrecord⟩
    · rw [TypeKind.eq_unknown hunknown]
      trivial
    · obtain ⟨r, hr, hisRecord⟩ := List.any_eq_true.1 hrecord
      obtain ⟨members, bases, hkind⟩ := TypeKind.eq_record hisRecord
      have hvr := hv r (List.mem_filter.2 ⟨hr, by rw [hkind]; rfl⟩)
      rw [hP r, meaning, hkind] at hvr
      obtain ⟨⟨entries, rfl, -⟩, -⟩ := hvr
      rw [TypeKind.eq_object hobject]
      rfl

/-! ### The simpler kind -/

/-- The members of an operation among which the sieve chooses. -/
def sievedMembers (g : TypeGraph) (id : TypeId) : List TypeId :=
  match (g.kind id).operands? with
  | some (false, _) => narrowMembers g (g.flatMembers id)
  | _ => g.flatMembers id

/-- **What an operation becomes**: what absorbs all of it, or an operation of its kind that has the
members which the sieve keeps. -/
inductive Becomes (g : TypeGraph) (o : Options) (id : TypeId) : Bool → TypeKind → Prop where
  | any {isUnion : Bool} {m : TypeId} (hm : m ∈ g.flatMembers id) (hany : g.kind m = .any) :
    Becomes g o id isUnion .any
  | absorbed {m : TypeId} (hm : m ∈ g.flatMembers id) (hunknown : g.kind m = .unknown) :
    Becomes g o id true .unknown
  | vanished (hempty : g.sievedMembers id = []) : Becomes g o id false .unknown
  | kept {isUnion : Bool} {kind : TypeKind} (hany : ∀ m ∈ g.flatMembers id, g.kind m ≠ .any)
    (hunknown : isUnion = true → ∀ m ∈ g.flatMembers id, g.kind m ≠ .unknown)
    (hnonempty : isUnion = false → g.sievedMembers id ≠ [])
    (hkept : kind.operands? = some (isUnion, dedupeMembers g o (g.sievedMembers id))) :
    Becomes g o id isUnion kind

/-- Every operation becomes something. -/
theorem exists_becomes {isUnion : Bool} {members : List TypeId}
    (h : (g.kind id).operands? = some (isUnion, members)) (o : Options) :
    ∃ kind, simplerKind? g o id = some kind ∧ g.Becomes o id isUnion kind := by
  have hsieved : g.sievedMembers id =
      if isUnion then g.flatMembers id else narrowMembers g (g.flatMembers id) := by
    rw [sievedMembers, h]
    cases isUnion <;> rfl
  simp only [simplerKind?, operationKind?, h, ← flatMembers_eq h]
  by_cases hany : (g.flatMembers id).any (fun m => (g.kind m).isAny) = true
  · rw [if_pos hany]
    obtain ⟨m, hm, hkind⟩ := List.any_eq_true.1 hany
    exact ⟨_, rfl, .any hm (TypeKind.eq_any hkind)⟩
  · rw [if_neg hany]
    have hnone : ∀ m ∈ g.flatMembers id, g.kind m ≠ .any := fun m hm heq =>
      hany (List.any_eq_true.2 ⟨m, hm, by rw [heq]; rfl⟩)
    cases isUnion with
    | true =>
      rw [if_pos rfl] at hsieved ⊢
      by_cases hunknown : (g.flatMembers id).any (fun m => (g.kind m).isUnknown) = true
      · rw [if_pos hunknown]
        obtain ⟨m, hm, hkind⟩ := List.any_eq_true.1 hunknown
        exact ⟨_, rfl, .absorbed hm (TypeKind.eq_unknown hkind)⟩
      · rw [if_neg hunknown, ← hsieved]
        refine ⟨_, rfl, .kept hnone (fun _ m hm heq => hunknown ?_)
          (fun h => absurd h.symm Bool.false_ne_true) rfl⟩
        exact List.any_eq_true.2 ⟨m, hm, by rw [heq]; rfl⟩
    | false =>
      rw [if_neg Bool.false_ne_true] at hsieved ⊢
      rw [← hsieved]
      by_cases hempty : (g.sievedMembers id).isEmpty = true
      · rw [if_pos hempty]
        exact ⟨_, rfl, .vanished (List.isEmpty_iff.1 hempty)⟩
      · rw [if_neg hempty]
        exact ⟨_, rfl, .kept hnone (fun h => absurd h Bool.false_ne_true)
          (fun _ heq => hempty (List.isEmpty_iff.2 heq)) rfl⟩

/-- Other kinds have no simpler ones. -/
theorem simplerKind?_eq_none_iff :
    simplerKind? g o id = none ↔ (g.kind id).operands? = none := by
  cases h : (g.kind id).operands? with
  | none => simp [simplerKind?, operationKind?, h]
  | some operation =>
    obtain ⟨kind, hkind, -⟩ := exists_becomes h o
    simp [hkind]

/-- **A simpler kind is what an operation becomes.** -/
theorem exists_operands_of_simplerKind? {kind : TypeKind} (h : simplerKind? g o id = some kind) :
    ∃ isUnion members, (g.kind id).operands? = some (isUnion, members) ∧
      g.Becomes o id isUnion kind := by
  cases hoperands : (g.kind id).operands? with
  | none => cases h.symm.trans (simplerKind?_eq_none_iff.2 hoperands)
  | some operation =>
    obtain ⟨other, hother, hbecomes⟩ := exists_becomes hoperands o
    cases h.symm.trans hother
    exact ⟨operation.1, operation.2, rfl, hbecomes⟩

/-- **What an operation becomes** in a graph without `any`. -/
inductive Simplifies (g : TypeGraph) (o : Options) (id : TypeId) : TypeKind → Prop where
  | absorbed {members : List TypeId} (h : g.kind id = .union members) {m : TypeId}
    (hm : m ∈ g.flatMembers id) (hunknown : g.kind m = .unknown) : Simplifies g o id .unknown
  | union {members : List TypeId} (h : g.kind id = .union members) :
    Simplifies g o id (.union (dedupeMembers g o (g.sievedMembers id)))
  | vanished {members : List TypeId} (h : g.kind id = .intersection members)
    (hempty : g.sievedMembers id = []) : Simplifies g o id .unknown
  | intersection {members : List TypeId} (h : g.kind id = .intersection members) :
    Simplifies g o id (.intersection (dedupeMembers g o (g.sievedMembers id)))

theorem simplifies_of_simplerKind? (hany : ∀ m ∈ g.flatMembers id, g.kind m ≠ .any)
    {kind : TypeKind} (h : simplerKind? g o id = some kind) : g.Simplifies o id kind := by
  obtain ⟨isUnion, members, hoperands, hbecomes⟩ := exists_operands_of_simplerKind? h
  have hunion : isUnion = true → g.kind id = .union members := fun heq =>
    TypeKind.eq_of_operands hoperands (heq ▸ rfl)
  have hintersection : isUnion = false → g.kind id = .intersection members := fun heq =>
    TypeKind.eq_of_operands hoperands (heq ▸ rfl)
  cases hbecomes with
  | any hm heq => exact absurd heq (hany _ hm)
  | absorbed hm hunknown => exact .absorbed (hunion rfl) hm hunknown
  | vanished hempty => exact .vanished (hintersection rfl) hempty
  | kept _ _ _ hkept =>
    cases isUnion with
    | true =>
      rw [show kind = .union _ from TypeKind.eq_of_operands hkept rfl]
      exact .union (hunion rfl)
    | false =>
      rw [show kind = .intersection _ from TypeKind.eq_of_operands hkept rfl]
      exact .intersection (hintersection rfl)

theorem sievedMembers_subset {m : TypeId} (hm : m ∈ g.sievedMembers id) :
    m ∈ g.flatMembers id := by
  unfold sievedMembers at hm
  split at hm
  · exact (List.mem_filter.1 hm).1
  · exact hm

end TypeGraph
end SchemaTypings
