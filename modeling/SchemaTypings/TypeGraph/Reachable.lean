import SchemaTypings.TypeGraph

/-! # Reachable types

The types that can be reached from the root, each once, in depth-first preorder.  The walk keeps a
stack of types still to visit and marks a type when it is taken from the stack, so that shared and
recursive types are visited where they are met first.
-/
namespace SchemaTypings
namespace TypeGraph

/-- The types that are not marked. -/
def unmarked (seen : Array Bool) : List TypeId :=
  (List.range seen.size).filter fun id => seen[id]? = some false

/-- What the types that are not marked can still put on the stack, and one step for each. -/
def work (g : TypeGraph) (seen : Array Bool) : Nat :=
  (unmarked seen).foldr (fun id rest => (g.children id).length + 1 + rest) 0

/-- Taking one element out of a list without repetitions takes its part out of the sum. -/
theorem foldr_filter_ne (f : Nat → Nat) {id : Nat} {list : List Nat} (hnodup : list.Nodup)
    (hid : id ∈ list) : (list.filter fun a => a ≠ id).foldr (fun a rest => f a + rest) 0 + f id =
      list.foldr (fun a rest => f a + rest) 0 := by
  induction list with
  | nil => cases hid
  | cons a rest ih =>
    rw [List.nodup_cons] at hnodup
    by_cases ha : a = id
    · have hrest : rest.filter (fun b => b ≠ id) = rest := by
        apply List.filter_eq_self.2
        intro b hb
        have hne : b ≠ id := fun heq => hnodup.1 (ha ▸ heq ▸ hb)
        simpa using hne
      rw [List.filter_cons_of_neg (by simpa using ha), hrest, List.foldr_cons, ha, Nat.add_comm]
    · have hmem : id ∈ rest := (List.mem_cons.1 hid).resolve_left fun h => ha h.symm
      rw [List.filter_cons_of_pos (by simpa using ha), List.foldr_cons, List.foldr_cons,
        Nat.add_assoc, ih hnodup.2 hmem]

/-- Marking a type takes its parts and its step out of the work. -/
theorem work_set (g : TypeGraph) {seen : Array Bool} {id : TypeId} (hid : id < seen.size)
    (h : seen[id] = false) :
    g.work (seen.set id true hid) + ((g.children id).length + 1) = g.work seen := by
  have hmem : id ∈ unmarked seen := by
    simp [unmarked, hid, h]
  have heq : unmarked (seen.set id true hid) = (unmarked seen).filter fun a => a ≠ id := by
    unfold unmarked
    rw [List.filter_filter, Array.size_set]
    apply List.filter_congr
    intro a _
    rw [Array.getElem?_set]
    by_cases ha : id = a
    · simp [ha]
    · have ha' : ¬ a = id := fun h => ha h.symm
      simp [ha, ha']
  unfold work
  rw [heq]
  exact foldr_filter_ne _ (List.nodup_range.filter _) hmem

/-- The types reached from the stack, in preorder; `seen` marks the types visited before.  A type
out of range is passed over. -/
def walk (g : TypeGraph) (seen : Array Bool) (stack : List TypeId) : List TypeId :=
  match stack with
  | [] => []
  | id :: rest =>
    if h : ∃ hid : id < seen.size, seen[id] = false then
      id :: walk g (seen.set id true h.1) (g.children id ++ rest)
    else walk g seen rest
termination_by g.work seen + stack.length
decreasing_by
  · obtain ⟨hid, hf⟩ := h
    have hwork := g.work_set hid hf
    rw [List.length_append, List.length_cons]
    omega
  · exact Nat.lt_succ_self _

/-- **The types reachable from the root**, each once, in depth-first preorder. -/
def reachable (g : TypeGraph) : List TypeId :=
  walk g (Array.replicate g.size false) [g.root]

@[simp] theorem walk_nil (g : TypeGraph) (seen : Array Bool) : walk g seen [] = [] := by
  rw [walk]

/-- A type that is in range and not yet visited comes first, then its parts, then the rest. -/
theorem walk_cons_new (g : TypeGraph) {seen : Array Bool} {id : TypeId} (rest : List TypeId)
    (hid : id < seen.size) (h : seen[id] = false) :
    walk g seen (id :: rest) = id :: walk g (seen.set id true hid) (g.children id ++ rest) := by
  rw [walk, dif_pos ⟨hid, h⟩]

/-- A type that was visited, or that is out of range, is passed over. -/
theorem walk_cons_old (g : TypeGraph) {seen : Array Bool} {id : TypeId} (rest : List TypeId)
    (h : ¬ ∃ hid : id < seen.size, seen[id] = false) :
    walk g seen (id :: rest) = walk g seen rest := by
  rw [walk, dif_neg h]

end TypeGraph
end SchemaTypings
