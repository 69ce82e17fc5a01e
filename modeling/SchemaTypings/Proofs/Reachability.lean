import SchemaTypings.TypeGraph.Reachable

/-! # What the walk over types reaches

`TypeGraph.reachable` is computed with a stack and a table of marks.  Here it is compared with the
relation it stands for: a type is reached when it is the root, or a part of a type that is reached,
and lies in range.  The walk lists exactly these types, each once.
-/
namespace SchemaTypings
namespace TypeGraph

/-- **Reached from the root**: the root itself, and every part of a type that is reached. -/
inductive Reached (g : TypeGraph) : TypeId → Prop where
  | root (h : g.root < g.size) : Reached g g.root
  | part {id part : TypeId} (hid : Reached g id) (hpart : part ∈ g.children id)
      (h : part < g.size) : Reached g part

theorem Reached.lt_size {g : TypeGraph} {id : TypeId} (h : g.Reached id) : id < g.size := by
  cases h <;> assumption

/-- The marks that the walk goes on with: those of `seen`, and one on `id`. -/
theorem getElem?_set_mark {seen : Array Bool} {id other : TypeId} (hid : id < seen.size) :
    (seen.set id true hid)[other]? = some true ↔ other = id ∨ seen[other]? = some true := by
  rw [Array.getElem?_set]
  by_cases h : id = other
  · simp [h]
  · simp only [h, if_false]
    constructor
    · exact Or.inr
    · rintro (rfl | h')
      · exact absurd rfl h
      · exact h'

/-- A type that the walk passes over is marked or out of range. -/
theorem marked_of_old {seen : Array Bool} {id : TypeId}
    (h : ¬ ∃ hid : id < seen.size, seen[id] = false) :
    seen[id]? = some true ∨ seen.size ≤ id := by
  rcases Nat.lt_or_ge id seen.size with hid | hid
  · left
    rw [Array.getElem?_eq_getElem hid]
    have hne : seen[id] ≠ false := fun he => h ⟨hid, he⟩
    simpa using hne
  · exact Or.inr hid

/-- What is listed is reached, if what is on the stack is. -/
theorem reached_of_mem_walk (g : TypeGraph) (seen : Array Bool) (stack : List TypeId)
    (hsize : seen.size = g.size) (hstack : ∀ id ∈ stack, id < g.size → g.Reached id) :
    ∀ id ∈ walk g seen stack, g.Reached id := by
  induction seen, stack using walk.induct g with
  | case1 seen => simp
  | case2 seen id rest h ih =>
    obtain ⟨hid, hnew⟩ := h
    have hreached : g.Reached id := hstack id (List.mem_cons_self ..) (hsize ▸ hid)
    rw [walk_cons_new g rest hid hnew]
    have hrest := ih (by simpa using hsize) (by
      intro other hother hlt
      rcases List.mem_append.1 hother with hpart | hold
      · exact .part hreached hpart hlt
      · exact hstack other (List.mem_cons_of_mem _ hold) hlt)
    intro other hother
    rcases List.mem_cons.1 hother with rfl | hother
    · exact hreached
    · exact hrest other hother
  | case3 seen id rest h ih =>
    rw [walk_cons_old g rest h]
    exact ih hsize fun other hother => hstack other (List.mem_cons_of_mem _ hother)

/-- What is listed was not marked before, and is listed once. -/
theorem walk_nodup (g : TypeGraph) (seen : Array Bool) (stack : List TypeId) :
    (walk g seen stack).Nodup ∧ ∀ id ∈ walk g seen stack, seen[id]? = some false := by
  induction seen, stack using walk.induct g with
  | case1 seen => simp
  | case2 seen id rest h ih =>
    obtain ⟨hid, hnew⟩ := h
    obtain ⟨hnodup, hunseen⟩ := ih
    have hfalse : seen[id]? = some false := by rw [Array.getElem?_eq_getElem hid, hnew]
    rw [walk_cons_new g rest hid hnew]
    refine ⟨List.nodup_cons.2 ⟨?_, hnodup⟩, ?_⟩
    · intro hmem
      have := hunseen id hmem
      simp at this
    · intro other hother
      rcases List.mem_cons.1 hother with rfl | hother
      · exact hfalse
      · have := hunseen other hother
        rw [Array.getElem?_set] at this
        split at this
        · simp at this
        · exact this
  | case3 seen id rest h ih =>
    rw [walk_cons_old g rest h]
    exact ih

/-- Where every part of a marked type is marked or on the stack, the marked and the listed types
together hold the stack and the parts of all their members. -/
theorem walk_closed (g : TypeGraph) (seen : Array Bool) (stack : List TypeId)
    (hsize : seen.size = g.size)
    (hparts : ∀ id part, seen[id]? = some true → part ∈ g.children id →
      seen[part]? = some true ∨ part ∈ stack ∨ g.size ≤ part) :
    (∀ id ∈ stack, id < g.size → seen[id]? = some true ∨ id ∈ walk g seen stack) ∧
    ∀ id part, seen[id]? = some true ∨ id ∈ walk g seen stack → part ∈ g.children id →
      part < g.size → seen[part]? = some true ∨ part ∈ walk g seen stack := by
  induction seen, stack using walk.induct g with
  | case1 seen =>
    refine ⟨by simp, ?_⟩
    intro id part hid hpart hlt
    rcases hid with hid | hid
    · rcases hparts id part hid hpart with h | h | h
      · exact Or.inl h
      · cases h
      · exact absurd hlt (Nat.not_lt.2 h)
    · simp at hid
  | case2 seen id rest h ih =>
    obtain ⟨hid, hnew⟩ := h
    rw [walk_cons_new g rest hid hnew]
    -- marking `id` moves it from the stack to the marks, and puts its parts on the stack
    have hparts' : ∀ a part, (seen.set id true hid)[a]? = some true → part ∈ g.children a →
        (seen.set id true hid)[part]? = some true ∨ part ∈ g.children id ++ rest ∨
          g.size ≤ part := by
      intro a part ha hpart
      rw [getElem?_set_mark] at ha ⊢
      rcases ha with rfl | ha
      · exact Or.inr (Or.inl (List.mem_append_left _ hpart))
      · rcases hparts a part ha hpart with h | h | h
        · exact Or.inl (Or.inr h)
        · rcases List.mem_cons.1 h with rfl | h
          · exact Or.inl (Or.inl rfl)
          · exact Or.inr (Or.inl (List.mem_append_right _ h))
        · exact Or.inr (Or.inr h)
    obtain ⟨hstack, hclosed⟩ := ih (by simpa using hsize) hparts'
    have hback : ∀ a, (seen.set id true hid)[a]? = some true ∨
        a ∈ walk g (seen.set id true hid) (g.children id ++ rest) ↔
        seen[a]? = some true ∨
          a ∈ id :: walk g (seen.set id true hid) (g.children id ++ rest) := by
      intro a
      rw [getElem?_set_mark, List.mem_cons, or_assoc, or_left_comm]
    constructor
    · intro a ha hlt
      rw [← hback]
      rcases List.mem_cons.1 ha with rfl | ha
      · exact Or.inl ((getElem?_set_mark hid).2 (Or.inl rfl))
      · exact hstack a (List.mem_append_right _ ha) hlt
    · intro a part ha hpart hlt
      rw [← hback] at ha ⊢
      exact hclosed a part ha hpart hlt
  | case3 seen id rest h ih =>
    rw [walk_cons_old g rest h]
    have hold := marked_of_old h
    obtain ⟨hstack, hclosed⟩ := ih hsize (by
      intro a part ha hpart
      rcases hparts a part ha hpart with h' | h' | h'
      · exact Or.inl h'
      · rcases List.mem_cons.1 h' with rfl | h'
        · rcases hold with hold | hold
          · exact Or.inl hold
          · exact Or.inr (Or.inr (hsize ▸ hold))
        · exact Or.inr (Or.inl h')
      · exact Or.inr (Or.inr h'))
    refine ⟨?_, hclosed⟩
    intro a ha hlt
    rcases List.mem_cons.1 ha with rfl | ha
    · rcases hold with hold | hold
      · exact Or.inl hold
      · exact absurd hlt (Nat.not_lt.2 (hsize ▸ hold))
    · exact hstack a ha hlt

/-- **The walk lists exactly the types that are reached from the root.** -/
theorem mem_reachable_iff (g : TypeGraph) (id : TypeId) : id ∈ g.reachable ↔ g.Reached id := by
  have hblank : ∀ a : TypeId, (Array.replicate g.size false)[a]? ≠ some true := by
    intro a
    simp [Array.getElem?_replicate]
  constructor
  · refine reached_of_mem_walk g _ _ (by simp) ?_ id
    intro a ha hlt
    rw [List.mem_singleton.1 ha] at hlt ⊢
    exact .root hlt
  · obtain ⟨hstack, hclosed⟩ := walk_closed g (Array.replicate g.size false) [g.root] (by simp)
      fun a _ ha => absurd ha (hblank a)
    intro h
    induction h with
    | root h => exact (hstack _ (List.mem_singleton.2 rfl) h).resolve_left (hblank _)
    | part hid hpart h ih => exact (hclosed _ _ (Or.inr ih) hpart h).resolve_left (hblank _)

/-- The walk lists each type once. -/
theorem nodup_reachable (g : TypeGraph) : g.reachable.Nodup := (walk_nodup g _ _).1

/-- Reached from the root on a path that goes through no type marked by `cut`; the end of the path
may be marked. -/
inductive ReachedAround (g : TypeGraph) (cut : TypeId → Prop) : TypeId → Prop where
  | root (h : g.root < g.size) : ReachedAround g cut g.root
  | part {id part : TypeId} (hid : ReachedAround g cut id) (hopen : ¬ cut id)
      (hpart : part ∈ g.children id) (h : part < g.size) : ReachedAround g cut part

theorem ReachedAround.reached {g : TypeGraph} {cut : TypeId → Prop} {id : TypeId}
    (h : g.ReachedAround cut id) : g.Reached id := by
  induction h with
  | root h => exact .root h
  | part _ _ hpart h ih => exact .part ih hpart h

/-- A graph in which the marked types have lost their parts, and the others have kept theirs,
reaches what the first graph reaches around the marks. -/
theorem reached_iff_reachedAround {g h : TypeGraph} {cut : TypeId → Prop}
    (hroot : h.root = g.root) (hsize : h.size = g.size)
    (hcut : ∀ id, cut id → h.children id = [])
    (hkept : ∀ id, ¬ cut id → h.children id = g.children id) (id : TypeId) :
    h.Reached id ↔ g.ReachedAround cut id := by
  constructor
  · intro hid
    induction hid with
    | root hlt =>
      rw [hroot] at hlt ⊢
      exact .root (hsize ▸ hlt)
    | part _ hpart hlt ih =>
      have hopen : ¬ cut _ := fun hc => by
        rw [hcut _ hc] at hpart
        cases hpart
      exact .part ih hopen (hkept _ hopen ▸ hpart) (hsize ▸ hlt)
  · intro hid
    induction hid with
    | root hlt => exact hroot ▸ .root (by rw [hroot, hsize]; exact hlt)
    | part _ hopen hpart hlt ih =>
      exact .part ih ((hkept _ hopen).symm ▸ hpart) (hsize.symm ▸ hlt)

end TypeGraph
end SchemaTypings
