import SchemaTypings.Proofs.Growth
import SchemaTypings.TypeGraph.Simplify

/-! # What simplification leaves alone

Simplifying rewrites the kinds of unions and intersections, one type after the other, and nothing
else: the types of a graph, their names and its root stay, and so does every class.
-/
namespace SchemaTypings
namespace TypeGraph

variable {g : TypeGraph} {o : Options}

@[simp] theorem size_simplifyAt (o : Options) (g : TypeGraph) (id : TypeId) :
    (simplifyAt o g id).size = g.size := by
  unfold simplifyAt
  split
  · exact size_setKind ..
  · rfl

@[simp] theorem root_simplifyAt (o : Options) (g : TypeGraph) (id : TypeId) :
    (simplifyAt o g id).root = g.root := by
  unfold simplifyAt
  split <;> rfl

@[simp] theorem name?_simplifyAt (o : Options) (g : TypeGraph) (id other : TypeId) :
    (simplifyAt o g id).name? other = g.name? other := by
  unfold simplifyAt
  split
  · exact name?_setKind ..
  · rfl

/-- What a union or intersection becomes. -/
inductive TypeKind.Simplified : TypeKind → Prop where
  | any : Simplified .any
  | unknown : Simplified .unknown
  | union (members : List TypeId) : Simplified (.union members)
  | intersection (members : List TypeId) : Simplified (.intersection members)

theorem simplified_of_simplerKind? {id : TypeId} {kind : TypeKind}
    (h : simplerKind? g o id = some kind) : TypeKind.Simplified kind := by
  simp only [simplerKind?, operationKind?] at h
  split at h
  · cases h
  · split at h
    · cases h
      exact .any
    split at h
    · split at h
      · cases h
        exact .unknown
      · cases h
        exact .union _
    · split at h
      · cases h
        exact .unknown
      · cases h
        exact .intersection _

theorem kind_simplifyAt (o : Options) (g : TypeGraph) (id other : TypeId) :
    (simplifyAt o g id).kind other = g.kind other ∨
      ((g.kind other).operands?.isSome ∧ TypeKind.Simplified ((simplifyAt o g id).kind other)) := by
  unfold simplifyAt
  split
  · next kind hkind =>
    rw [kind_setKind]
    split
    · next hid =>
      right
      obtain ⟨rfl, -⟩ := hid
      refine ⟨?_, simplified_of_simplerKind? hkind⟩
      cases hoperands : (g.kind id).operands? with
      | none => simp [simplerKind?, operationKind?, hoperands] at hkind
      | some operands => rfl
    · exact Or.inl rfl
  · exact Or.inl rfl

/-- What holds of a graph is kept by turns that each keep it. -/
theorem foldl_simplifyAt_induction {P : TypeGraph → Prop} (hstart : P g)
    (hstep : ∀ h id, P h → P (simplifyAt o h id)) (ids : List TypeId) :
    P (ids.foldl (simplifyAt o) g) := by
  induction ids generalizing g with
  | nil => exact hstart
  | cons id rest ih => exact ih (hstep g id hstart)

/-- What holds of a graph and of every step that simplifies one of its types holds in the end. -/
theorem simplify_induction {P : TypeGraph → Prop} (hstart : P g)
    (hstep : ∀ h id, P h → P (simplifyAt o h id)) : P (g.simplify o) :=
  foldl_simplifyAt_induction hstart hstep _

theorem size_foldl_simplifyAt (o : Options) (ids : List TypeId) (g : TypeGraph) :
    (ids.foldl (simplifyAt o) g).size = g.size :=
  foldl_simplifyAt_induction (P := fun h => h.size = g.size) rfl
    (fun h id hh => (size_simplifyAt o h id).trans hh) ids

theorem name?_foldl_simplifyAt (o : Options) (ids : List TypeId) (g : TypeGraph) (id : TypeId) :
    (ids.foldl (simplifyAt o) g).name? id = g.name? id :=
  foldl_simplifyAt_induction (P := fun h => h.name? id = g.name? id) rfl
    (fun h other hh => (name?_simplifyAt o h other id).trans hh) ids

@[simp] theorem size_simplify (g : TypeGraph) (o : Options) : (g.simplify o).size = g.size :=
  simplify_induction (P := fun h => h.size = g.size) rfl fun h id hh => by
    rw [size_simplifyAt, hh]

@[simp] theorem root_simplify (g : TypeGraph) (o : Options) : (g.simplify o).root = g.root :=
  simplify_induction (P := fun h => h.root = g.root) rfl fun h id hh => by
    rw [root_simplifyAt, hh]

@[simp] theorem name?_simplify (g : TypeGraph) (o : Options) (id : TypeId) :
    (g.simplify o).name? id = g.name? id :=
  simplify_induction (P := fun h => h.name? id = g.name? id) rfl fun h other hh => by
    rw [name?_simplifyAt, hh]

/-- A type keeps its kind, or it was a union or intersection. -/
theorem kind_simplify (g : TypeGraph) (o : Options) (id : TypeId) :
    (g.simplify o).kind id = g.kind id ∨
      ((g.kind id).operands?.isSome ∧ TypeKind.Simplified ((g.simplify o).kind id)) := by
  refine simplify_induction (P := fun h => h.kind id = g.kind id ∨
    ((g.kind id).operands?.isSome ∧ TypeKind.Simplified (h.kind id))) (Or.inl rfl) ?_
  intro h other hh
  rcases kind_simplifyAt o h other id with hsame | ⟨hoperands, hsimple⟩
  · rw [hsame]
    exact hh
  · rcases hh with hh | hh
    · exact Or.inr ⟨hh ▸ hoperands, hsimple⟩
    · exact Or.inr ⟨hh.1, hsimple⟩

/-- Simplification makes no references. -/
theorem kind_of_simplify_reference {id : TypeId} {target : String}
    (h : (g.simplify o).kind id = .reference target) : g.kind id = .reference target := by
  rcases kind_simplify g o id with hsame | ⟨-, hsimple⟩
  · exact hsame ▸ h
  · rw [h] at hsimple
    cases hsimple

/-- Simplification makes no classes. -/
theorem kind_of_simplify_record {id : TypeId} {members : List Member} {bases : List TypeId}
    (h : (g.simplify o).kind id = .record members bases) : g.kind id = .record members bases := by
  rcases kind_simplify g o id with hsame | ⟨-, hsimple⟩
  · exact hsame ▸ h
  · rw [h] at hsimple
    cases hsimple

end TypeGraph
end SchemaTypings
