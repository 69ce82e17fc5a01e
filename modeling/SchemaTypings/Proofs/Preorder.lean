import Mathlib.Data.Finset.Insert
import Mathlib.Logic.Relation
import SchemaTypings.Declaration
import SchemaTypings.Proofs.Reachability
import SchemaTypings.Proofs.Stateful

/-! # The order of the walk

`TypeGraph.reachable` keeps a stack and a table of marks.  Its list is the one that depth-first
search gives by recursion: a type, and then what is first met below each of its parts in turn.  The
declarations are made by a loop that keeps a set of the types it has visited, and calls a visitor
for each.  The loop ends after as many rounds as types were put on its stack, and has visited the
types of the list in their order.
-/
namespace SchemaTypings
namespace TypeGraph

/-! ### Preorder by recursion -/

/-- The more types are active, the fewer are idle. -/
theorem length_idle_le (g : TypeGraph) {active more : List TypeId}
    (h : ∀ id ∈ active, id ∈ more) : (g.idle more).length ≤ (g.idle active).length := by
  refine (List.monotone_filter_right _ fun id hid => ?_).length_le
  rw [decide_eq_true_eq] at hid ⊢
  exact fun hmem => hid (h id hmem)

/-- **Depth-first preorder**: of the types in a list those that are in range and not `seen` before,
each followed by what is first met below it, part by part. -/
def preorder (g : TypeGraph) (seen : List TypeId) : List TypeId → List TypeId
  | [] => []
  | id :: rest =>
    if _h : id < g.size ∧ id ∉ seen then
      let below := preorder g (id :: seen) (g.children id)
      id :: below ++ preorder g (below ++ id :: seen) rest
    else preorder g seen rest
termination_by ids => ((g.idle seen).length, ids.length)
decreasing_by
  · exact .left _ _ (length_idle_cons_lt _h.1 _h.2)
  · refine .left _ _ (Nat.lt_of_le_of_lt (g.length_idle_le fun other hother => ?_)
      (length_idle_cons_lt _h.1 _h.2))
    exact List.mem_append_right _ hother
  · exact .right _ (Nat.lt_succ_self _)

variable (g : TypeGraph)

theorem preorder_nil (seen : List TypeId) : g.preorder seen [] = [] := by
  rw [preorder]

theorem preorder_cons_new {seen : List TypeId} {id : TypeId} (rest : List TypeId)
    (h : id < g.size ∧ id ∉ seen) : g.preorder seen (id :: rest) =
      id :: g.preorder (id :: seen) (g.children id) ++
        g.preorder (g.preorder (id :: seen) (g.children id) ++ id :: seen) rest := by
  rw [preorder, dif_pos h]

theorem preorder_cons_old {seen : List TypeId} {id : TypeId} (rest : List TypeId)
    (h : ¬ (id < g.size ∧ id ∉ seen)) : g.preorder seen (id :: rest) = g.preorder seen rest := by
  rw [preorder, dif_neg h]

/-- It does not matter in which order types were seen, or how often. -/
theorem preorder_congr (seen ids : List TypeId) : ∀ seen', (∀ id, id ∈ seen ↔ id ∈ seen') →
    g.preorder seen ids = g.preorder seen' ids := by
  induction seen, ids using preorder.induct g with
  | case1 seen =>
    intro seen' _
    rw [preorder_nil, preorder_nil]
  | case2 seen id rest hnew below ihbelow ihrest =>
    intro seen' h
    have hnew' : id < g.size ∧ id ∉ seen' := ⟨hnew.1, fun hid => hnew.2 ((h id).2 hid)⟩
    have hcons : ∀ other, other ∈ id :: seen ↔ other ∈ id :: seen' := fun other => by
      rw [List.mem_cons, List.mem_cons, h]
    rw [preorder_cons_new g rest hnew, preorder_cons_new g rest hnew', ← ihbelow _ hcons]
    refine congrArg (_ ++ ·) (ihrest _ fun other => ?_)
    rw [List.mem_append, List.mem_append, hcons]
  | case3 seen id rest hold ih =>
    intro seen' h
    have hold' : ¬ (id < g.size ∧ id ∉ seen') := fun hnew =>
      hold ⟨hnew.1, fun hid => hnew.2 ((h id).1 hid)⟩
    rw [preorder_cons_old g rest hold, preorder_cons_old g rest hold', ih seen' h]

/-- Of two lists the second one is taken up with all seen that the first one led to. -/
theorem preorder_append (seen ids ids' : List TypeId) : g.preorder seen (ids ++ ids') =
    g.preorder seen ids ++ g.preorder (g.preorder seen ids ++ seen) ids' := by
  induction seen, ids using preorder.induct g with
  | case1 seen => rw [preorder_nil, List.nil_append, List.nil_append, List.nil_append]
  | case2 seen id rest hnew below ihbelow ihrest =>
    rw [List.cons_append, preorder_cons_new g _ hnew, preorder_cons_new g _ hnew, ihrest,
      ← List.append_assoc]
    -- what is seen behind the first list is the same, in another order
    refine congrArg (_ ++ ·) (g.preorder_congr _ ids' _ fun other => ?_)
    simp only [List.mem_append, List.mem_cons]
    tauto
  | case3 seen id rest hold ih =>
    rw [List.cons_append, preorder_cons_old g _ hold, preorder_cons_old g _ hold, ih]

/-- What the walk lists next is in range and not marked. -/
theorem new_iff {marks : Array Bool} {id : TypeId} :
    (∃ hid : id < marks.size, marks[id] = false) ↔ id < marks.size ∧ ¬ marks[id]? = some true := by
  constructor
  · rintro ⟨hid, hfalse⟩
    refine ⟨hid, fun htrue => ?_⟩
    rw [Array.getElem?_eq_getElem hid, hfalse] at htrue
    cases htrue
  · rintro ⟨hid, hnot⟩
    by_contra hold
    rcases marked_of_old hold with hmarked | hout
    · exact hnot hmarked
    · exact Nat.not_lt.2 hout hid

/-- **The walk is the recursion**: what the stack holds is what is left to take up. -/
theorem walk_eq_preorder {marks : Array Bool} {stack seen : List TypeId}
    (hsize : marks.size = g.size) (hmarks : ∀ id, marks[id]? = some true ↔ id ∈ seen) :
    g.walk marks stack = g.preorder seen stack := by
  induction marks, stack using walk.induct g generalizing seen with
  | case1 marks => rw [walk_nil, preorder_nil]
  | case2 marks id rest h ih =>
    have hnew : id < g.size ∧ id ∉ seen := by
      rw [← hsize, ← hmarks]
      exact new_iff.1 h
    obtain ⟨hid, hfalse⟩ := h
    have hmarked : ∀ other, (marks.set id true hid)[other]? = some true ↔ other ∈ id :: seen := by
      intro other
      rw [getElem?_set_mark, hmarks, List.mem_cons]
    rw [walk_cons_new g rest hid hfalse, preorder_cons_new g rest hnew,
      ih (by simpa using hsize) hmarked, preorder_append]
    rfl
  | case3 marks id rest h ih =>
    have hold : ¬ (id < g.size ∧ id ∉ seen) := by
      rw [← hsize, ← hmarks]
      exact mt new_iff.2 h
    rw [walk_cons_old g rest h, preorder_cons_old g rest hold, ih hsize hmarks]

theorem reachable_eq_preorder : g.reachable = g.preorder [] [g.root] := by
  refine g.walk_eq_preorder (by simp) fun id => ?_
  simp [Array.getElem?_replicate]

/-- A part that is met again is listed where it was met first, behind what comes before it. -/
example : preorder ⟨#[{ kind := .union [2, 1, 0] }, { kind := .string }, { kind := .array 1 }], 0⟩
    [] [0] = [0, 2, 1] := by cbv

/-! ### Reached along parts -/

/-- A path may be taken without regard to the range: what is out of range has no parts. -/
theorem reached_iff (id : TypeId) : g.Reached id ↔
    id < g.size ∧ Relation.ReflTransGen (fun whole part => part ∈ g.children whole) g.root id := by
  constructor
  · intro h
    refine ⟨h.lt_size, ?_⟩
    induction h with
    | root h => exact .refl
    | part _ hpart _ ih => exact ih.tail hpart
  · rintro ⟨hlt, hpath⟩
    induction hpath with
    | refl => exact .root hlt
    | tail _ hpart ih => exact .part (ih (lt_size_of_mem_children hpart)) hpart hlt

/-! ### The loop with a visitor -/

/-- **A walker**: the types that it has visited, those that it still has to look at, the next one
last, and what its visitor has come to. -/
structure Walker (σ : Type) where
  visited : Finset TypeId := ∅
  stack : Array TypeId
  state : σ

namespace Walker

variable {σ : Type}

/-- A walker that sets out. -/
def start (g : TypeGraph) (state : σ) : Walker σ where
  stack := #[g.root]
  state := state

/-- **One round**, as long as there is a type to look at: one that is out of range or was visited is
dropped, and any other is visited, and its parts are put on the stack, the first one on top. -/
def round (g : TypeGraph) (visit : σ → TypeId → σ) (w : Walker σ) : Option (Walker σ) :=
  match w.stack.back? with
  | none => none
  | some id =>
    if g.size ≤ id ∨ id ∈ w.visited then some { w with stack := w.stack.pop }
    else some {
      visited := insert id w.visited
      stack := w.stack.pop ++ (g.children id).reverse
      state := visit w.state id }

/-- **The loop ends**, after a number of rounds, and leaves its visitor in a state. -/
inductive Ends (g : TypeGraph) (visit : σ → TypeId → σ) : Walker σ → Nat → σ → Prop where
  | done {w : Walker σ} (h : w.round g visit = none) : Ends g visit w 0 w.state
  | more {w next : Walker σ} {rounds : Nat} {state : σ} (h : w.round g visit = some next)
      (hnext : Ends g visit next rounds state) : Ends g visit w (rounds + 1) state

/-- A loop ends in one way. -/
theorem Ends.unique {g : TypeGraph} {visit : σ → TypeId → σ} {w : Walker σ} {rounds rounds' : Nat}
    {state state' : σ} (h : w.Ends g visit rounds state) (h' : w.Ends g visit rounds' state') :
    rounds = rounds' ∧ state = state' := by
  induction h generalizing rounds' with
  | done hround =>
    cases h' with
    | done => exact ⟨rfl, rfl⟩
    | more hround' => exact nomatch hround.symm.trans hround'
  | more hround _ ih =>
    cases h' with
    | done hround' => exact nomatch hround'.symm.trans hround
    | more hround' hnext' =>
      cases hround.symm.trans hround'
      obtain ⟨rfl, rfl⟩ := ih hnext'
      exact ⟨rfl, rfl⟩

/-- What a walker still has to look at, the next type first. -/
def agenda (w : Walker σ) : List TypeId := w.stack.toList.reverse

variable {g} {w : Walker σ}

theorem round_of_agenda_nil (visit : σ → TypeId → σ) (h : w.agenda = []) :
    w.round g visit = none := by
  have hstack : w.stack.back? = none := by
    rw [← Array.getLast?_toList, List.reverse_eq_nil_iff.1 h, List.getLast?_nil]
  rw [round, hstack]

theorem round_of_agenda_cons {id : TypeId} {rest : List TypeId} (h : w.agenda = id :: rest) :
    w.stack.back? = some id ∧ w.stack.pop.toList.reverse = rest := by
  have hstack : w.stack.toList = rest.reverse ++ [id] := by
    rw [← List.reverse_reverse w.stack.toList, ← agenda, h, List.reverse_cons]
  constructor
  · rw [← Array.getLast?_toList, hstack, List.getLast?_concat]
  · rw [Array.toList_pop, hstack, List.dropLast_concat, List.reverse_reverse]

/-- A type that is out of range or was visited is dropped. -/
theorem round_old (visit : σ → TypeId → σ) {id : TypeId} {rest : List TypeId}
    (h : w.agenda = id :: rest) (hold : g.size ≤ id ∨ id ∈ w.visited) :
    ∃ next : Walker σ, w.round g visit = some next ∧ next.agenda = rest ∧
      next.visited = w.visited ∧ next.state = w.state := by
  obtain ⟨hback, hpop⟩ := round_of_agenda_cons h
  refine ⟨{ w with stack := w.stack.pop }, ?_, hpop, rfl, rfl⟩
  rw [round, hback]
  exact if_pos hold

/-- Any other type is visited, and its parts come next. -/
theorem round_new (visit : σ → TypeId → σ) {id : TypeId} {rest : List TypeId}
    (h : w.agenda = id :: rest) (hnew : ¬ (g.size ≤ id ∨ id ∈ w.visited)) :
    ∃ next : Walker σ, w.round g visit = some next ∧ next.agenda = g.children id ++ rest ∧
      next.visited = insert id w.visited ∧ next.state = visit w.state id := by
  obtain ⟨hback, hpop⟩ := round_of_agenda_cons h
  refine ⟨{ visited := insert id w.visited, stack := w.stack.pop ++ (g.children id).reverse,
            state := visit w.state id }, ?_, ?_, rfl, rfl⟩
  · rw [round, hback]
    exact if_neg hnew
  · rw [agenda, Array.toList_appendList, List.reverse_append, List.reverse_reverse, hpop]

end Walker

/-- **How often a walker looks at a type**: once at the root, and once for each part of a type that
is reached. -/
def looks (g : TypeGraph) : Nat := 1 + (g.reachable.flatMap g.children).length

/-- **The loop visits what the walk lists**, where its set holds what the walk has marked and both
have the same types before them. -/
theorem Walker.ends_of_walk {g : TypeGraph} {σ : Type} (visit : σ → TypeId → σ) {marks : Array Bool}
    {stack : List TypeId} (hsize : marks.size = g.size) {w : Walker σ}
    (hmarks : ∀ id, marks[id]? = some true ↔ id ∈ w.visited) (hagenda : w.agenda = stack) :
    w.Ends g visit (stack.length + ((g.walk marks stack).flatMap g.children).length)
      ((g.walk marks stack).foldl visit w.state) := by
  induction marks, stack using walk.induct g generalizing w with
  | case1 marks =>
    rw [walk_nil]
    exact .done (round_of_agenda_nil visit hagenda)
  | case2 marks id rest h ih =>
    have hnew : ¬ (g.size ≤ id ∨ id ∈ w.visited) := by
      rw [not_or, Nat.not_le, ← hsize, ← hmarks]
      exact new_iff.1 h
    obtain ⟨hid, hfalse⟩ := h
    obtain ⟨next, hround, hnext, hvisited, hstate⟩ := round_new visit hagenda hnew
    have hmarked : ∀ other, (marks.set id true hid)[other]? = some true ↔
        other ∈ next.visited := by
      intro other
      rw [getElem?_set_mark, hmarks, hvisited, Finset.mem_insert]
    have hends := Ends.more hround (ih (by simpa using hsize) hmarked hnext)
    rw [walk_cons_new g rest hid hfalse, List.foldl_cons, ← hstate]
    convert hends using 1
    simp only [List.flatMap_cons, List.length_cons, List.length_append]
    omega
  | case3 marks id rest h ih =>
    have hold : g.size ≤ id ∨ id ∈ w.visited := by
      rw [← hsize, ← hmarks]
      exact (marked_of_old h).symm
    obtain ⟨next, hround, hnext, hvisited, hstate⟩ := round_old visit hagenda hold
    have hends := Ends.more hround (ih hsize (hvisited ▸ hmarks) hnext)
    rw [walk_cons_old g rest h, ← hstate]
    convert hends using 1
    rw [List.length_cons]
    omega

/-- **The loop visits the types that are reached, in their order.** -/
theorem Walker.ends_start (g : TypeGraph) {σ : Type} (visit : σ → TypeId → σ) (s : σ) :
    (Walker.start g s).Ends g visit g.looks (g.reachable.foldl visit s) := by
  refine Walker.ends_of_walk visit (by simp) (fun id => ?_) rfl
  simp [Array.getElem?_replicate, Walker.start]

end TypeGraph

/-! ### The passes over the declarations -/

namespace Declaration
open TypeGraph

/-- What a pass does at a type: it adds the blocks that the type is declared by to those before. -/
def adding {τ : Type} (declare : τ → TypeId → List String × τ) (done : List String × τ)
    (id : TypeId) : List String × τ :=
  (done.1 ++ (declare done.2 id).1, (declare done.2 id).2)

/-- The alias of a type, by a renderer that remembers texts. -/
def declareAlias (g : TypeGraph) (o : Options) (rootName : String) (texts : Texts) (id : TypeId) :
    List String × Texts :=
  let made := (alias? g o rootName id).run texts
  (made.1.toList, made.2)

/-- The class of a type, unless its name is declared, and the names declared then. -/
def declareClass (g : TypeGraph) (o : Options) (rootName : String) (before : List String × Texts)
    (id : TypeId) : List String × List String × Texts :=
  let made := (classesFrom g o rootName before.1 [id]).run before.2
  (made.1.1, made.1.2, made.2)

/-- The enumeration of a type. -/
def declareEnum (g : TypeGraph) (o : Options) (_ : Unit) (id : TypeId) : List String × Unit :=
  ((enum? g o id).toList, ())

variable (g : TypeGraph) (o : Options) (rootName : String)

/-- Aliases are added one after the other. -/
theorem foldl_declareAlias (ids : List TypeId) (done : List String) (texts : Texts) :
    ids.foldl (adding (declareAlias g o rootName)) (done, texts) =
      (done ++ ((ids.mapM (alias? g o rootName)).run texts).1.filterMap id,
        ((ids.mapM (alias? g o rootName)).run texts).2) := by
  induction ids generalizing done texts with
  | nil =>
    rw [List.foldl_nil, List.mapM_nil, run_pure_eq, List.filterMap_nil, List.append_nil]
  | cons id rest ih =>
    rw [List.foldl_cons, adding, ih, List.mapM_cons, run_bind_eq, run_bind_eq, run_pure_eq,
      List.append_assoc]
    dsimp only [declareAlias]
    rcases (alias? g o rootName id).run texts with ⟨_ | block, later⟩ <;> rfl

/-- The classes of a list are those of its first type, and then those of the rest. -/
theorem classesFrom_cons (emitted : List String) (id : TypeId) (rest : List TypeId) :
    classesFrom g o rootName emitted (id :: rest) = do
      let (blocks, emitted) ← classesFrom g o rootName emitted [id]
      let (later, emitted) ← classesFrom g o rootName emitted rest
      return (blocks ++ later, emitted) := by
  simp only [classesFrom]
  split
  · split
    · simp
    · simp
  · simp

/-- Classes are added one after the other. -/
theorem foldl_declareClass (ids : List TypeId) (done emitted : List String) (texts : Texts) :
    ids.foldl (adding (declareClass g o rootName)) (done, emitted, texts) =
      (done ++ ((classesFrom g o rootName emitted ids).run texts).1.1,
        ((classesFrom g o rootName emitted ids).run texts).1.2,
        ((classesFrom g o rootName emitted ids).run texts).2) := by
  induction ids generalizing done emitted texts with
  | nil =>
    rw [List.foldl_nil, classesFrom, run_pure_eq, List.append_nil]
  | cons id rest ih =>
    rw [List.foldl_cons, adding, classesFrom_cons, run_bind_eq]
    dsimp only [declareClass]
    rw [ih, run_bind_eq, run_pure_eq, List.append_assoc]

/-- Enumerations are added one after the other. -/
theorem foldl_declareEnum (ids : List TypeId) (done : List String) :
    ids.foldl (adding (declareEnum g o)) (done, ()) = (done ++ ids.filterMap (enum? g o), ()) := by
  induction ids generalizing done with
  | nil => rw [List.foldl_nil, List.filterMap_nil, List.append_nil]
  | cons id rest ih =>
    rw [List.foldl_cons, adding, ih, List.filterMap_cons, List.append_assoc]
    dsimp only [declareEnum]
    cases enum? g o id <;> rfl

theorem aliases_eq_foldl (texts : Texts) : (aliases g o rootName).run texts =
    g.reachable.foldl (adding (declareAlias g o rootName)) ([], texts) := by
  rw [foldl_declareAlias]
  rfl

theorem classes_eq_foldl (emitted : List String) (texts : Texts) :
    (((classes g o rootName emitted).run texts).1.1, ((classes g o rootName emitted).run texts).1.2,
      ((classes g o rootName emitted).run texts).2) =
      g.reachable.foldl (adding (declareClass g o rootName)) ([], emitted, texts) := by
  rw [foldl_declareClass]
  rfl

theorem enums_eq_foldl :
    (enums g o, ()) = g.reachable.foldl (adding (declareEnum g o)) ([], ()) := by
  rw [foldl_declareEnum]
  rfl

end Declaration

namespace TypeGraph
open Declaration

/-- **Reachability is exact.**  The walk lists the types in range that can be reached from the root
along parts, each once, in the order of depth-first search by recursion.  The loop with a visitor
ends, in one way, and has visited the same types in the same order; and each pass over the
declarations is that loop with a visitor of its own. -/
theorem reachable_in_preorder (g : TypeGraph) :
    (∀ id, id ∈ g.reachable ↔ id < g.size ∧
      Relation.ReflTransGen (fun whole part => part ∈ g.children whole) g.root id) ∧
    g.reachable.Nodup ∧
    g.reachable = g.preorder [] [g.root] ∧
    (Walker.start g []).Ends g (fun order id => order ++ [id]) g.looks g.reachable ∧
    (∀ {σ : Type} (visit : σ → TypeId → σ) (s t : σ) (rounds : Nat),
      (Walker.start g s).Ends g visit rounds t ↔
        rounds = g.looks ∧ t = g.reachable.foldl visit s) ∧
    ∀ (o : Options) (rootName : String),
      (∀ texts, (Walker.start g ([], texts)).Ends g (adding (declareAlias g o rootName)) g.looks
        ((aliases g o rootName).run texts)) ∧
      (∀ emitted texts, (Walker.start g ([], emitted, texts)).Ends g
        (adding (declareClass g o rootName)) g.looks
        (((classes g o rootName emitted).run texts).1.1,
          ((classes g o rootName emitted).run texts).1.2,
          ((classes g o rootName emitted).run texts).2)) ∧
      (Walker.start g ([], ())).Ends g (adding (declareEnum g o)) g.looks (enums g o, ()) := by
  have hmem : ∀ id, id ∈ g.reachable ↔ id < g.size ∧
      Relation.ReflTransGen (fun whole part => part ∈ g.children whole) g.root id :=
    fun id => (mem_reachable_iff g id).trans (g.reached_iff id)
  have horder : (Walker.start g []).Ends g (fun order id => order ++ [id]) g.looks g.reachable := by
    have hends := Walker.ends_start g (fun order id => order ++ [id]) []
    rwa [List.foldl_append_eq_append, ← List.flatMap_def, List.flatMap_singleton',
      List.nil_append] at hends
  refine ⟨hmem, nodup_reachable g, g.reachable_eq_preorder, horder, ?_, fun o rootName => ?_⟩
  · intro σ visit s t rounds
    have hends := Walker.ends_start g visit s
    constructor
    · exact fun h => h.unique hends
    · rintro ⟨rfl, rfl⟩
      exact hends
  · refine ⟨fun texts => ?_, fun emitted texts => ?_, ?_⟩
    · rw [aliases_eq_foldl]
      exact Walker.ends_start g _ _
    · rw [classes_eq_foldl]
      exact Walker.ends_start g _ _
    · rw [enums_eq_foldl]
      exact Walker.ends_start g _ _

end TypeGraph
end SchemaTypings
