import SchemaTypings.Compile
import SchemaTypings.Proofs.Merging

/-! # When a collision of names is seen

Different types under one name are refused when names are merged.  But unions and intersections are
simplified before, and of members that are written alike only one stays, where a named type is
written as its name alone.  So a collision is seen exactly when two types of one name that differ
are still there after simplification.
-/
namespace SchemaTypings
namespace TypeGraph

/-! ### Absorption alone -/

/-- The graph with one type flattened and absorbed, without a choice among its members. -/
def absorbAt (g : TypeGraph) (id : TypeId) : TypeGraph :=
  match operationKind? g (fun members => members) id with
  | some kind => g.setKind id kind
  | none => g

/-- **The graph after the absorption rules**: as it is simplified, but keeping members that repeat
others.  What it does not reach any more was removed by absorption. -/
def absorb (g : TypeGraph) : TypeGraph := g.reachable.reverse.foldl absorbAt g

/-! ### Collisions -/

instance (b c : Bearer) : Decidable (b.Conflicts c) :=
  inferInstanceAs (Decidable (b.name = c.name ∧ b.shape ≠ c.shape))

/-- Two types that are reached share a name and differ in structure. -/
def HasConflict (g : TypeGraph) (o : Options) : Prop :=
  ∃ b ∈ g.bearers o, ∃ c ∈ g.bearers o, b.Conflicts c

/-- Two such types, neither of which is removed by absorption. -/
def HasLastingConflict (g : TypeGraph) (o : Options) : Prop :=
  ∃ b ∈ g.bearers o, ∃ c ∈ g.bearers o, b.Conflicts c ∧
    b.id ∈ g.absorb.reachable ∧ c.id ∈ g.absorb.reachable

instance (g : TypeGraph) (o : Options) : Decidable (g.HasLastingConflict o) :=
  inferInstanceAs (Decidable (∃ b ∈ g.bearers o, ∃ c ∈ g.bearers o, b.Conflicts c ∧
    b.id ∈ g.absorb.reachable ∧ c.id ∈ g.absorb.reachable))

/-- Optimizing ends with a collision of names. -/
def Collides (g : TypeGraph) (o : Options) : Prop :=
  ∃ name first second, g.optimize o = .error (.nameCollision name first second)

/-- **A collision is a conflict that is left after simplification.** -/
theorem collides_iff_hasConflict (g : TypeGraph) (o : Options) :
    g.Collides o ↔ (g.simplify o).HasConflict o := by
  cases hrs : repeats (g.simplify o) [] ((g.simplify o).bearers o) with
  | ok rs =>
    have hok : ∃ h, g.optimize o = .ok h := ⟨_, (optimize_eq_ok_iff g _ o).2 ⟨⟨rs, hrs⟩, rfl⟩⟩
    constructor
    · rintro ⟨name, first, second, herror⟩
      obtain ⟨h, hok⟩ := hok
      rw [herror] at hok
      cases hok
    · rintro ⟨b, hb, c, hc, hconflict⟩
      exact absurd hconflict ((not_conflicts_of_repeats_eq_ok hrs).2 b hb c hc)
  | error e =>
    have herror : g.optimize o = .error e := by
      unfold optimize
      rw [mergeNames_eq, hrs]
      rfl
    obtain ⟨name, first, second, rfl⟩ := collision_of_repeats_eq_error hrs
    constructor
    · intro _
      rcases conflicts_of_repeats_eq_error hrs with ⟨b, -, known, hknown, -⟩ | hconflict
      · cases hknown
      · exact hconflict
    · exact fun _ => ⟨name, first, second, herror⟩

/-- **When a conflict of names is refused.**  That two types of one name differ, neither of them
absorbed, leads to a collision exactly when it leaves two such types after simplification. -/
theorem refuses_conflict_iff (g : TypeGraph) (o : Options) :
    (g.HasLastingConflict o → g.Collides o) ↔
      (g.HasLastingConflict o → (g.simplify o).HasConflict o) := by
  rw [collides_iff_hasConflict]

/-- A choice between two classes of one title that differ. -/
def oneTitleTwice : Json :=
  .object [("anyOf", .array [
    .object [("title", .string "A"), ("type", .string "object"), ("properties", .object [
      ("x", .object [("type", .string "string")])])],
    .object [("title", .string "A"), ("type", .string "object"), ("properties", .object [
      ("y", .object [("type", .string "number")])])]])]

/-- **A conflict that is not seen**: both classes are written `A` in the union, so that the second
one is dropped before names are compared. -/
theorem lasting_conflict_oneTitleTwice :
    compile oneTitleTwice "Root" {} .none = .ok
        "export type Root = A;\n\nexport class A \x7b\n  x?: string;\n\x7d\n" ∧
      ∃ g, linkedGraph oneTitleTwice {} .none = .ok g ∧
        (ofSchema (g.normalize "Root" {}) {}).HasLastingConflict {} ∧
        ¬ (ofSchema (g.normalize "Root" {}) {}).Collides {} := by
  have hcompile : (compile oneTitleTwice "Root" {} .none).toOption.any (fun text => text =
      "export type Root = A;\n\nexport class A \x7b\n  x?: string;\n\x7d\n") = true := by
    decide +kernel
  have htypes : (linkedGraph oneTitleTwice {} .none).toOption.any (fun g =>
      decide ((ofSchema (g.normalize "Root" {}) {}).HasLastingConflict {}) &&
        (typesOf g "Root" {}).toOption.isSome) = true := by decide +kernel
  obtain ⟨text, htext, heq⟩ := exists_ok_of_any hcompile
  obtain ⟨g, hg, hconflict⟩ := exists_ok_of_any htypes
  rw [Bool.and_eq_true, decide_eq_true_eq] at hconflict
  refine ⟨of_decide_eq_true heq ▸ htext, g, hg, hconflict.1, ?_⟩
  rintro ⟨name, first, second, herror⟩
  have hsome := hconflict.2
  rw [typesOf, herror] at hsome
  cases hsome

end TypeGraph
end SchemaTypings
