import SchemaTypings.Proofs.Naming

/-! # Names are identifiers

Every name that a schema can get is cut down to an identifier, and a name put behind another one is
an identifier again.  So every standalone name is one, and so is the name of every type.
-/
namespace SchemaTypings

namespace Identifier

theorem isStart_of_isPart {c : Char} (h : isPart c = true) (hdigit : c.isDigit = false) :
    isStart c = true := by
  simp only [isPart, Char.isAlphanum, hdigit, Bool.or_false] at h
  exact h

/-- **What cleaning leaves is an identifier**, if it leaves anything, whatever it is given. -/
theorem isIdentifier_clean {cs : List Char} (h : clean cs ≠ []) :
    isIdentifier (String.ofList (clean cs)) = true := by
  have hparts : ∀ c ∈ cs.filter isPart, isPart c = true := fun c hc => (List.mem_filter.1 hc).2
  rw [isIdentifier, String.toList_ofList]
  rw [clean] at h ⊢
  cases hcs : cs.filter isPart with
  | nil =>
    rw [hcs] at h
    exact absurd rfl h
  | cons c rest =>
    rw [hcs] at hparts
    have hrest : rest.all isPart = true :=
      List.all_eq_true.2 fun d hd => hparts d (List.mem_cons_of_mem _ hd)
    have hc := hparts c (List.mem_cons_self ..)
    cases hdigit : c.isDigit with
    | true => simp [hdigit, hc, hrest, isStart]
    | false => simp [hdigit, hrest, isStart_of_isPart hc hdigit]

/-- What is left of a text is an identifier, if anything is left. -/
theorem isIdentifier_ofText {text : String} (h : ofText text ≠ "") :
    isIdentifier (ofText text) = true :=
  isIdentifier_clean fun hnil => h (by rw [ofText, hnil])

/-- An identifier behind another one is an identifier. -/
theorem isIdentifier_append {a b : String} (ha : isIdentifier a = true)
    (hb : isIdentifier b = true) : isIdentifier (a ++ b) = true := by
  rw [isIdentifier] at ha hb ⊢
  rw [String.toList_append]
  cases has : a.toList with
  | nil =>
    rw [has] at ha
    cases ha
  | cons c rest =>
    rw [has] at ha
    cases hbs : b.toList with
    | nil =>
      rw [hbs] at hb
      cases hb
    | cons d others =>
      rw [hbs] at hb
      simp only [Bool.and_eq_true, List.all_eq_true] at ha hb
      simp only [List.cons_append, Bool.and_eq_true, List.all_eq_true, List.mem_append,
        List.mem_cons]
      refine ⟨ha.1, fun x hx => ?_⟩
      rcases hx with hx | rfl | hx
      · exact ha.2 x hx
      · -- what may start an identifier may stand in it
        have hd := hb.1
        simp only [isStart, isPart, Char.isAlphanum, Bool.or_eq_true] at hd ⊢
        tauto
      · exact hb.2 x hx

theorem isIdentifier_of_nonEmpty {text name : String} (h : nonEmpty (ofText text) = some name) :
    isIdentifier name = true := by
  unfold nonEmpty at h
  split at h
  · cases h
  · next hfull =>
    cases h
    exact isIdentifier_ofText (by simpa [String.isEmpty_iff] using hfull)

theorem isIdentifier_ofReference? {reference name : String}
    (h : ofReference? reference = some name) : isIdentifier name = true := by
  simp only [ofReference?] at h
  split at h
  · split at h
    · cases h
    · exact isIdentifier_of_nonEmpty h
  · exact isIdentifier_of_nonEmpty h

end Identifier

namespace SchemaGraph
open Identifier

/-- A candidate for a name: an identifier, or an empty text. -/
def IsCandidate (candidate : Option String) : Prop :=
  ∀ name, candidate = some name → name ≠ "" → isIdentifier name = true

theorem isCandidate_map_ofText (text : Option String) : IsCandidate (text.map ofText) := by
  intro name hname hne
  obtain ⟨text, -, rfl⟩ := Option.map_eq_some_iff.1 hname
  exact isIdentifier_ofText hne

theorem isCandidate_bind_ofReference? (text : Option String) :
    IsCandidate (text.bind ofReference?) := by
  intro name hname _
  obtain ⟨reference, -, hreference⟩ := Option.bind_eq_some_iff.1 hname
  exact isIdentifier_ofReference? hreference

theorem isIdentifier_of_firstUsable {candidates : List (Option String)} {name : String}
    (hcandidates : ∀ candidate ∈ candidates, IsCandidate candidate)
    (h : firstUsable candidates = some name) : isIdentifier name = true := by
  have hmem := List.mem_of_find?_eq_some h
  obtain ⟨candidate, hcandidate, heq⟩ := List.mem_filterMap.1 hmem
  exact hcandidates candidate hcandidate name heq (ne_empty_of_firstUsable h)

theorem isIdentifier_explicitName? {g : SchemaGraph} {id : SchemaId} {name : String}
    (h : g.explicitName? id = some name) : isIdentifier name = true := by
  refine isIdentifier_of_firstUsable (fun candidate hcandidate => ?_) h
  simp only [List.mem_cons, List.not_mem_nil, or_false] at hcandidate
  rcases hcandidate with rfl | rfl | rfl | rfl
  · exact isCandidate_map_ofText _
  · exact isCandidate_bind_ofReference? _
  · exact isCandidate_map_ofText _
  · exact isCandidate_bind_ofReference? _

theorem isIdentifier_derivableName?_root {g : SchemaGraph} {rootName name : String}
    (h : g.derivableName? g.root rootName = some name) : isIdentifier name = true := by
  simp only [derivableName?, if_true] at h
  refine isIdentifier_of_firstUsable (fun candidate hcandidate => ?_) h
  simp only [List.mem_cons, List.not_mem_nil, or_false] at hcandidate
  rcases hcandidate with rfl | rfl | rfl | rfl
  · exact isCandidate_map_ofText _
  · exact isCandidate_bind_ofReference? _
  · exact isCandidate_map_ofText _
  · exact isCandidate_map_ofText (some rootName)

/-! ### Giving names -/

/-- The standalone names of a graph are identifiers. -/
def NamesAreIdentifiers (g : SchemaGraph) : Prop :=
  ∀ id name, (g.node id).standaloneName = some name → isIdentifier name = true

namespace Naming

variable {n : Naming}

theorem namesAreIdentifiers_assign (h : n.graph.NamesAreIdentifiers) (id : SchemaId)
    {name : String} (hname : isIdentifier name = true) :
    (n.assign id name).graph.NamesAreIdentifiers := by
  intro other given hgiven
  simp only [assign, SchemaGraph.modifyNode, SchemaGraph.node, Array.getElem?_modify] at hgiven
  by_cases hid : id = other
  · cases hnode : n.graph.nodes[other]? with
    | none => simp [hid, hnode] at hgiven
    | some node =>
      simp only [hid, if_true, hnode, Option.map_some, Option.getD_some, Option.some.injEq]
        at hgiven
      exact hgiven ▸ hname
  · rw [if_neg hid] at hgiven
    exact h other given hgiven

theorem isIdentifier_nearestName? {g : SchemaGraph} (h : g.NamesAreIdentifiers) {steps : Nat}
    {id : Option SchemaId} {name : String} (hname : nearestName? g steps id = some name) :
    isIdentifier name = true := by
  induction steps generalizing id with
  | zero => cases hname
  | succ steps ih =>
    cases id with
    | none => cases hname
    | some id =>
      rw [nearestName?] at hname
      split at hname
      · next given hgiven =>
        cases hname
        exact h id _ hgiven
      · exact ih hname

theorem isIdentifier_hintName? (h : n.graph.NamesAreIdentifiers) {id : SchemaId} {name : String}
    (hname : n.hintName? id = some name) : isIdentifier name = true := by
  unfold hintName? at hname
  split at hname
  · cases hname
  · next hint hhint =>
    obtain ⟨text, htext, hnonEmpty⟩ := Option.bind_eq_some_iff.1 hhint
    obtain ⟨text, -, rfl⟩ := Option.map_eq_some_iff.1 htext
    have hident := isIdentifier_of_nonEmpty hnonEmpty
    split at hname
    · split at hname
      · next above habove =>
        cases hname
        exact isIdentifier_append (isIdentifier_nearestName? h habove) hident
      · cases hname
        exact hident
    · cases hname
      exact hident

theorem namesAreIdentifiers_synthesize (h : n.graph.NamesAreIdentifiers) (id : SchemaId) :
    (n.synthesize id).graph.NamesAreIdentifiers := by
  unfold synthesize
  split
  · next name hname => exact namesAreIdentifiers_assign h id (isIdentifier_hintName? h hname)
  · exact h

theorem namesAreIdentifiers_nameRoot (h : n.graph.NamesAreIdentifiers) (rootName : String) :
    (n.nameRoot rootName).graph.NamesAreIdentifiers := by
  unfold nameRoot
  split
  · next name hname =>
    exact namesAreIdentifiers_assign h _ (isIdentifier_derivableName?_root hname)
  · exact h

/-- A pass whose steps keep names identifiers keeps them. -/
theorem namesAreIdentifiers_foldl {α : Type} {step : Naming → α → Naming} {as : List α}
    (hstep : ∀ m : Naming, m.graph.NamesAreIdentifiers → ∀ a ∈ as,
      (step m a).graph.NamesAreIdentifiers) (h : n.graph.NamesAreIdentifiers) :
    (as.foldl step n).graph.NamesAreIdentifiers := by
  induction as generalizing n with
  | nil => exact h
  | cons a rest ih =>
    exact ih (fun m hm b hb => hstep m hm b (List.mem_cons_of_mem _ hb))
      (hstep n h a (List.mem_cons_self ..))

theorem namesAreIdentifiers_nameExplicit (h : n.graph.NamesAreIdentifiers) :
    n.nameExplicit.graph.NamesAreIdentifiers := by
  refine namesAreIdentifiers_foldl (fun m hm pair hpair => ?_) h
  obtain ⟨id, -, hpair⟩ := List.mem_filterMap.1 hpair
  obtain ⟨name, hname, rfl⟩ := Option.map_eq_some_iff.1 hpair
  exact namesAreIdentifiers_assign hm id (isIdentifier_explicitName? hname)

theorem namesAreIdentifiers_nameShaped (h : n.graph.NamesAreIdentifiers) :
    n.nameShaped.graph.NamesAreIdentifiers := by
  refine namesAreIdentifiers_foldl (fun m hm id _ => ?_) h
  simp only [nameIfShaped]
  split
  · exact hm
  · exact namesAreIdentifiers_synthesize hm id

theorem namesAreIdentifiers_nameFirst (h : n.graph.NamesAreIdentifiers) (cycle : List SchemaId) :
    (n.nameFirst cycle).graph.NamesAreIdentifiers := by
  induction cycle with
  | nil => exact h
  | cons id rest ih =>
    unfold nameFirst
    split
    · next name hname => exact namesAreIdentifiers_assign h id (isIdentifier_hintName? h hname)
    · exact ih

theorem namesAreIdentifiers_nameCycles (h : n.graph.NamesAreIdentifiers) :
    n.nameCycles.graph.NamesAreIdentifiers := by
  refine namesAreIdentifiers_foldl (fun m hm cycle _ => ?_) h
  unfold breakCycle
  split
  · exact hm
  · exact namesAreIdentifiers_nameFirst hm cycle

end Naming

/-- **Standalone names are identifiers**, if those are that a graph starts with. -/
theorem NamesAreIdentifiers.assignNames {g : SchemaGraph} (hg : g.NamesAreIdentifiers)
    (rootName : String) : (g.assignNames rootName).NamesAreIdentifiers :=
  Naming.namesAreIdentifiers_nameCycles (Naming.namesAreIdentifiers_nameShaped
    (Naming.namesAreIdentifiers_nameExplicit (Naming.namesAreIdentifiers_nameRoot hg _)))

/-- A graph without names has no others than identifiers. -/
theorem namesAreIdentifiers_of_unnamed {g : SchemaGraph}
    (hg : ∀ id, (g.node id).standaloneName = none) : g.NamesAreIdentifiers := fun id name hname => by
  rw [hg id] at hname
  cases hname

/-- The names that a graph without names gets are identifiers. -/
theorem namesAreIdentifiers_assignNames {g : SchemaGraph}
    (hg : ∀ id, (g.node id).standaloneName = none) (rootName : String) :
    (g.assignNames rootName).NamesAreIdentifiers :=
  (namesAreIdentifiers_of_unnamed hg).assignNames rootName

end SchemaGraph
end SchemaTypings
