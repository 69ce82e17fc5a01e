import SchemaTypings.Proofs.Merging
import SchemaTypings.Proofs.Naming
import SchemaTypings.Proofs.Simplification

/-! # The root keeps its name

The root is named first, and no later rule names a node again.  Its type is the first that is made
and the first that is reached, so that merging, which keeps the first type of every name and the
first class of every structure, never replaces it.
-/
namespace SchemaTypings
namespace SchemaGraph
namespace Naming

variable {n : Naming} {id other : SchemaId}

/-- The name that a node has been given. -/
def given (n : Naming) (id : SchemaId) : Option String := (n.graph.node id).standaloneName

theorem given_assign_self (name : String) (h : id < n.graph.size) :
    (n.assign id name).given id = some name := by
  have hlt : id < n.graph.nodes.size := h
  simp only [given, assign, node, modifyNode, Array.getElem?_modify, if_pos,
    Array.getElem?_eq_getElem hlt, Option.map_some, Option.getD_some]

theorem given_assign_of_ne (name : String) (h : other ≠ id) :
    (n.assign other name).given id = n.given id := by
  simp [given, assign, node, modifyNode, Array.getElem?_modify, h]

theorem given_synthesize_of_ne (h : other ≠ id) : (n.synthesize other).given id = n.given id := by
  unfold synthesize
  split
  · exact given_assign_of_ne _ h
  · rfl

/-- Naming by title, identity or reference passes over the root. -/
theorem given_nameExplicit (n : Naming) :
    n.nameExplicit.given n.graph.root = n.given n.graph.root := by
  have hfold : ∀ (pairs : List (SchemaId × String)) (m : Naming),
      (∀ pair ∈ pairs, pair.1 ≠ n.graph.root) →
      (pairs.foldl (fun m pair => m.assign pair.1 pair.2) m).given n.graph.root =
        m.given n.graph.root := by
    intro pairs
    induction pairs with
    | nil => exact fun m _ => rfl
    | cons pair rest ih =>
      intro m hpairs
      rw [List.foldl_cons, ih _ fun p hp => hpairs p (List.mem_cons_of_mem _ hp)]
      exact given_assign_of_ne _ (hpairs pair List.mem_cons_self)
  refine hfold _ n fun pair hpair => ?_
  obtain ⟨id, hid, hname⟩ := List.mem_filterMap.1 hpair
  obtain ⟨name, -, rfl⟩ := Option.map_eq_some_iff.1 hname
  exact of_decide_eq_true (List.mem_filter.1 hid).2

theorem given_nameIfShaped (h : n.isNamed id = true) (other : SchemaId) :
    (n.nameIfShaped other).given id = n.given id := by
  simp only [nameIfShaped]
  split
  · rfl
  · next hopen =>
    refine given_synthesize_of_ne fun heq => hopen ?_
    subst heq
    exact Bool.or_eq_true_iff.2 (Or.inl h)

/-- A node that is named is not among the members of a cycle that gets a name. -/
theorem given_breakCycle (h : n.isNamed id = true) (cycle : List SchemaId) :
    (n.breakCycle cycle).given id = n.given id := by
  unfold breakCycle
  split
  · rfl
  · next hunnamed =>
    have hnot : id ∉ cycle := fun hmem => hunnamed (List.any_eq_true.2 ⟨id, hmem, h⟩)
    clear hunnamed
    induction cycle with
    | nil => rfl
    | cons first rest ih =>
      unfold nameFirst
      split
      · exact given_assign_of_ne _ fun heq => hnot (heq ▸ List.mem_cons_self)
      · exact ih fun hmem => hnot (List.mem_cons_of_mem _ hmem)

/-- A node keeps its name along steps that each leave named nodes alone. -/
theorem given_foldl {α : Type} {step : Naming → α → Naming}
    (hstep : ∀ m a, m.isNamed id = true → (step m a).given id = m.given id) (list : List α)
    (h : n.isNamed id = true) : (list.foldl step n).given id = n.given id := by
  induction list generalizing n with
  | nil => rfl
  | cons a rest ih =>
    have hfirst := hstep n a h
    rw [List.foldl_cons, ih ?_, hfirst]
    rw [isNamed, show ((step n a).graph.node id).standaloneName = n.given id from hfirst]
    exact h

end Naming

/-- **The root is named as was derived for it.** -/
theorem standaloneName_root_assignNames {g : SchemaGraph} {rootName name : String}
    (hroot : g.root < g.size) (h : g.derivableName? g.root rootName = some name) :
    ((g.assignNames rootName).node g.root).standaloneName = some name := by
  let named := Naming.nameRoot rootName ⟨g, []⟩
  have hfirst : named.given g.root = some name := by
    simp only [named, Naming.nameRoot, h]
    exact Naming.given_assign_self name hroot
  have hexplicit : named.nameExplicit.given g.root = some name := by
    have hsame := named.given_nameExplicit
    rw [(Naming.renames_nameRoot rootName ⟨g, []⟩).root] at hsame
    exact hsame.trans hfirst
  have hnamed : ∀ {n : Naming}, n.given g.root = some name → n.isNamed g.root = true := by
    intro n hn
    rw [Naming.isNamed, show (n.graph.node g.root).standaloneName = some name from hn,
      Option.isSome_some]
  have hshaped : named.nameExplicit.nameShaped.given g.root = some name :=
    (Naming.given_foldl (fun _ other hm => Naming.given_nameIfShaped hm other) _
      (hnamed hexplicit)).trans hexplicit
  exact (Naming.given_foldl (fun _ cycle hm => Naming.given_breakCycle hm cycle) _
    (hnamed hshaped)).trans hshaped

end SchemaGraph

namespace TypeGraph

variable {g h : TypeGraph} {o : Options}

/-- The walk starts at the root. -/
theorem exists_reachable_eq_cons (hroot : g.root < g.size) :
    ∃ rest, g.reachable = g.root :: rest := by
  refine ⟨_, walk_cons_new g [] (by simpa using hroot) ?_⟩
  simp

/-- The root is not replaced as a repeated name, for it is the first bearer of its name. -/
theorem not_isReplaced_root_nameReplacements (hroot : g.root < g.size) :
    ¬ IsReplaced (g.nameReplacements o) g.root := by
  rintro ⟨r, hr, hid⟩
  unfold nameReplacements at hr
  split at hr
  · next rs hrs =>
    obtain ⟨b, hb, rfl, hfirst | hfind⟩ := (mem_of_repeats_eq_ok (nodup_bearers g o) hrs r).1 hr
    · cases hfirst
    · obtain ⟨rest, hrest⟩ := exists_reachable_eq_cons hroot
      have hname : g.name? g.root = some b.name := hid ▸ (reached_of_mem_bearers hb).2
      have hbearer := find?_bearers g o b.name
      rw [firstBearer?, hrest, List.find?_cons_of_pos (by simpa using hname)] at hbearer
      obtain ⟨a, ha, haid⟩ := Option.map_eq_some_iff.1 hbearer
      have hab : a = b := List.inj_on_of_nodup_map (nodup_bearers g o)
        (List.mem_of_find?_eq_some ha) hb (haid.trans hid.symm)
      exact hfind (hab ▸ ha)
  · cases hr

/-- The root is not replaced as a repeated class, for it is the first class of its structure. -/
theorem not_isReplaced_root_classReplacements (hroot : g.root < g.size) :
    ¬ IsReplaced (g.classReplacements o) g.root := by
  rintro ⟨r, hr, hid⟩
  obtain ⟨-, b, hb, a, -, hfound, -, hne, rfl⟩ := exists_of_mem_classReplacements hr
  obtain ⟨hmem, hname⟩ := mem_bearersOf hb
  change b.id = g.root at hid
  rw [hid] at hmem hname
  -- the root comes first among the classes
  obtain ⟨rest, hrest⟩ := exists_reachable_eq_cons hroot
  have hrecord : (g.kind g.root).isRecord = true := (List.mem_filter.1 hmem).2
  have hcons : ∃ first others, g.classBearers o = first :: others ∧ first.id = g.root := by
    have hmap := map_bearersOf g o (g.reachable.filter fun id => (g.kind id).isRecord) []
    rw [hrest, List.filter_cons_of_pos (p := fun id => (g.kind id).isRecord) hrecord,
      List.filterMap_cons, hname] at hmap
    obtain ⟨first, others, heq, hfirst, -⟩ := List.map_eq_cons_iff.1 hmap
    refine ⟨first, others, ?_, congrArg Prod.fst hfirst⟩
    unfold classBearers
    rw [hrest, List.filter_cons_of_pos (p := fun id => (g.kind id).isRecord) hrecord]
    exact heq
  obtain ⟨first, others, heq, hfirst⟩ := hcons
  have hnodup : ((g.classBearers o).map Bearer.id).Nodup :=
    nodup_bearersOf g o ((nodup_reachable g).filter _) []
  have hsame : b = first := List.inj_on_of_nodup_map hnodup hb
    (heq ▸ List.mem_cons_self) (hid.trans hfirst.symm)
  rw [heq, hsame, List.find?_cons_of_pos (by simp)] at hfound
  exact hne (by rw [hsame, Option.some.inj hfound])

/-- **Optimizing leaves the root its name**, and makes it no reference. -/
theorem root_optimize (hroot : g.root < g.size) (hok : g.optimize o = .ok h) :
    h.name? h.root = g.name? g.root ∧
      ((∀ target, g.kind g.root ≠ .reference target) →
        ∀ target, h.kind h.root ≠ .reference target) := by
  obtain ⟨-, rfl⟩ := (optimize_eq_ok_iff g h o).1 hok
  have hsimple : (g.simplify o).root < (g.simplify o).size := by
    rw [root_simplify, size_simplify]
    exact hroot
  have hkept : ¬ IsReplaced ((g.simplify o).replacements o) (g.simplify o).root := by
    rw [replacements, isReplaced_append]
    rintro (hname | hclass)
    · exact not_isReplaced_root_nameReplacements hsimple hname
    · have hmerged : (((g.simplify o).nameReplacements o).foldl replace (g.simplify o)).root <
          (((g.simplify o).nameReplacements o).foldl replace (g.simplify o)).size := by
        rw [root_foldl_replace, size_foldl_replace]
        exact hsimple
      refine not_isReplaced_root_classReplacements (o := o) hmerged ?_
      rw [root_foldl_replace]
      exact hclass
  rw [root_foldl_replace, name?_foldl_replace_of_not hkept, kind_foldl_replace_of_not hkept,
    name?_simplify, root_simplify]
  exact ⟨rfl, fun hnone target hkind => hnone target (kind_of_simplify_reference hkind)⟩

end TypeGraph
end SchemaTypings
