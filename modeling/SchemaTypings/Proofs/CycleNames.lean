import SchemaTypings.Compile
import SchemaTypings.Proofs.Naming

/-! # Which cycles a name breaks

A cycle of schemas can be written down only if some schema on it has a name.  Naming looks at the
cycles that linking recorded, and there are others: a cycle may leave a recorded one and come back
to it through schemas that were finished before.  What holds of every cycle is that it runs from the
first to the last schema of a recorded one, so that these runs are all that has to be looked at.
-/
namespace SchemaTypings
namespace SchemaGraph

instance (g : SchemaGraph) (cycle : List SchemaId) : Decidable (g.IsCycle cycle) :=
  decidable_of_iff (cycle ≠ [] ∧ cycle.IsChain (fun id part => part ∈ g.children id) ∧
      ∀ last ∈ cycle.getLast?, ∀ first ∈ cycle.head?, first ∈ g.children last)
    ⟨fun h => ⟨h.1, h.2.1, h.2.2⟩, fun h => ⟨h.1, h.2, h.3⟩⟩

theorem Renames.isCycle_iff {g h : SchemaGraph} (hgh : Renames g h) (cycle : List SchemaId) :
    h.IsCycle cycle ↔ g.IsCycle cycle := by
  have hparts : h.children = g.children := funext hgh.children
  constructor
  · exact fun hc => ⟨hc.nonempty, hparts ▸ hc.chain, hparts ▸ hc.closed⟩
  · exact fun hc => ⟨hc.nonempty, hparts ▸ hc.chain, hparts ▸ hc.closed⟩

/-- A linked schema comes from its bundle. -/
theorem exists_bundle {schema : Json} {o : Options} {source : DocumentSource} {g : SchemaGraph}
    (h : linkedGraph schema o source = .ok g) : ∃ b, ofBundle b o = .ok g := by
  unfold linkedGraph at h
  cases hb : Bundle.ofSchema schema o source with
  | error e => rw [hb] at h; cases h
  | ok b => rw [hb] at h; exact ⟨b, h⟩

/-- **When every cycle is broken by a name.**  Every cycle of a normalized graph has a named schema
exactly when every way from the first to the last schema of a recorded cycle passes one that has a
name of its own, or one that was picked to break a recorded cycle. -/
theorem forall_cycle_named_iff {schema : Json} {o : Options} {source : DocumentSource}
    {g : SchemaGraph} (hg : linkedGraph schema o source = .ok g) (rootName : String) :
    (∀ cycle, (g.normalize rootName o).IsCycle cycle →
        ∃ id ∈ cycle, ((g.normalize rootName o).node id).standaloneName.isSome) ↔
      ∀ recorded ∈ g.cycles, ∀ cycle, (g.normalizeNodes o).IsCycle cycle →
        cycle.head? = recorded.head? → cycle.getLast? = recorded.getLast? →
        ∃ id ∈ cycle, (g.normalizeNodes o).hasOwnName rootName id ∨
          id ∈ (g.normalizeNodes o).breakers rootName := by
  obtain ⟨b, hb⟩ := exists_bundle hg
  obtain ⟨-, hunnamed, -⟩ := settled_of_ofBundle hb
  have hrenames : Renames (g.normalizeNodes o) (g.normalize rootName o) :=
    renames_assignNames rootName (g.normalizeNodes o)
  have hnamed : ∀ id, ((g.normalize rootName o).node id).standaloneName.isSome ↔
      ((g.normalizeNodes o).hasOwnName rootName id ∨
        id ∈ (g.normalizeNodes o).breakers rootName) := by
    intro id
    rw [normalize, isSome_standaloneName_assignNames
      (standaloneName_normalizeNodes hunnamed o)]
    simp
  simp only [hrenames.isCycle_iff, hnamed]
  constructor
  · intro hall recorded _ cycle hcycle _ _
    exact hall cycle hcycle
  · intro hall cycle hcycle
    obtain ⟨recorded, hrecorded, turned, hturned, hmembers, hhead, hlast⟩ :=
      hcycle.exists_recorded hb fun _ _ => mem_children_normalizeNodes
    obtain ⟨id, hid, hname⟩ := hall recorded hrecorded turned hturned hhead hlast
    exact ⟨id, hmembers id hid, hname⟩

/-- A class whose only member has the class itself for its type. -/
def selfReferring : Json :=
  .object [("title", .string "Node"), ("properties", .object [
    ("next", .object [("$ref", .string "#")])])]

/-- The one recorded cycle starts at the root, which has a name of its own. -/
theorem forall_cycle_named_selfReferring :
    ∃ g, linkedGraph selfReferring {} .none = .ok g ∧
      ∀ cycle, (g.normalize "Root" {}).IsCycle cycle →
        ∃ id ∈ cycle, ((g.normalize "Root" {}).node id).standaloneName.isSome := by
  have h : (linkedGraph selfReferring {} .none).toOption.any (fun g =>
      decide (g.cycles = [[0]]) && (g.normalizeNodes {}).hasOwnName "Root" 0) = true := by
    decide +kernel
  obtain ⟨g, hg, htest⟩ := exists_ok_of_any h
  rw [Bool.and_eq_true, decide_eq_true_eq] at htest
  refine ⟨g, hg, (forall_cycle_named_iff hg "Root").2 fun recorded hrecorded cycle _ hhead _ => ?_⟩
  rw [htest.1, List.mem_singleton] at hrecorded
  subst hrecorded
  exact ⟨0, List.mem_of_head? hhead, Or.inl htest.2⟩

/-- A list of lists, next to a second list that leads into the first one from outside: the second
list is reached last, and closes a cycle through schemas that are finished by then. -/
def crossingLists : Json :=
  .object [("anyOf", .array [.object [("anyOf", .array [
    .object [("title", .string "Y"), ("type", .string "array"), ("items", .object [
      ("type", .string "array"), ("items", .object [("$ref", .string "#/anyOf/0")])])],
    .object [("type", .string "array"), ("items", .object [
      ("$ref", .string "#/anyOf/0/anyOf/0/items")])]])]])]

/-- **A cycle without a name** in a graph without violations: the recorded cycle is `1, 2, 3`, and
the title of its second schema does not help the cycle `1, 4, 3`. -/
theorem exists_cycle_unnamed_crossingLists :
    ∃ g, linkedGraph crossingLists {} .none = .ok g ∧ (g.violations "Root").isEmpty ∧
      ∃ cycle, (g.normalize "Root" {}).IsCycle cycle ∧
        ∀ id ∈ cycle, ((g.normalize "Root" {}).node id).standaloneName = none := by
  have h : (linkedGraph crossingLists {} .none).toOption.any (fun g =>
      (g.violations "Root").isEmpty && decide ((g.normalize "Root" {}).IsCycle [1, 4, 3]) &&
        [1, 4, 3].all fun id => ((g.normalize "Root" {}).node id).standaloneName.isNone) = true := by
    decide +kernel
  obtain ⟨g, hg, htest⟩ := exists_ok_of_any h
  simp only [Bool.and_eq_true, decide_eq_true_eq, List.all_eq_true,
    Option.isNone_iff_eq_none] at htest
  exact ⟨g, hg, htest.1.1, [1, 4, 3], htest.1.2, htest.2⟩

end SchemaGraph
end SchemaTypings
