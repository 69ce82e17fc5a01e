import SchemaTypings.Compile
import SchemaTypings.Proofs.FinishedOperations
import SchemaTypings.Proofs.NodeMaps

/-! # What later stages look at

Once a graph is normal, nothing asks again how deep schemas may nest or which descriptions are kept;
and once types are made, doc comments are only written out.  So texts, comparisons and merges are
the same for graphs that differ in comments alone.
-/
namespace SchemaTypings

/-- The options as later stages look at them: without those that only earlier stages need. -/
def Options.later (o : Options) : Options := { o with descriptions := .keep, maxDepth := 1 }

/-- A type without its doc comment. -/
def TypeNode.uncommented (n : TypeNode) : TypeNode := { n with comment := none }

namespace TypeGraph

/-- **The types without their doc comments.** -/
def uncommented (g : TypeGraph) : TypeGraph :=
  { g with nodes := g.nodes.map TypeNode.uncommented }

@[simp] theorem node_uncommented (g : TypeGraph) (id : TypeId) :
    g.uncommented.node id = (g.node id).uncommented := by
  simp only [node, uncommented, Array.getElem?_map]
  cases g.nodes[id]? <;> rfl

@[simp] theorem size_uncommented (g : TypeGraph) : g.uncommented.size = g.size := by
  simp [size, uncommented]

@[simp] theorem root_uncommented (g : TypeGraph) : g.uncommented.root = g.root := rfl

@[simp] theorem kind_uncommented (g : TypeGraph) : g.uncommented.kind = g.kind := by
  funext id
  rw [TypeGraph.kind, node_uncommented]
  rfl

@[simp] theorem name?_uncommented (g : TypeGraph) : g.uncommented.name? = g.name? := by
  funext id
  rw [name?, node_uncommented]
  rfl

@[simp] theorem originText_uncommented (g : TypeGraph) :
    g.uncommented.originText = g.originText := by
  funext id
  rw [originText, node_uncommented]
  rfl

@[simp] theorem uncommented_uncommented (g : TypeGraph) :
    g.uncommented.uncommented = g.uncommented := by
  simp only [uncommented, Array.map_map]
  rfl

variable {g h : TypeGraph}

section Same

variable (hsame : h.uncommented = g.uncommented)
include hsame

theorem kind_eq_of_uncommented : h.kind = g.kind := by
  rw [← kind_uncommented, hsame, kind_uncommented]

theorem name?_eq_of_uncommented : h.name? = g.name? := by
  rw [← name?_uncommented, hsame, name?_uncommented]

theorem size_eq_of_uncommented : h.size = g.size := by
  rw [← size_uncommented, hsame, size_uncommented]

theorem root_eq_of_uncommented : h.root = g.root := by
  rw [← root_uncommented, hsame, root_uncommented]

theorem originText_eq_of_uncommented : h.originText = g.originText := by
  rw [← originText_uncommented, hsame, originText_uncommented]

end Same

/-! ### Texts -/

/-- What is written out does not depend on options of earlier stages. -/
theorem rawText_later (g : TypeGraph) (o : Options) (active : List TypeId) (id : TypeId) :
    rawText g o.later active id = rawText g o active id := by
  induction hn : (g.idle active).length using Nat.strong_induction_on generalizing active id with
  | _ n ih =>
    subst hn
    rw [rawText, rawText]
    by_cases hopen : id < g.size ∧ id ∉ active
    · rw [dif_pos hopen, dif_pos hopen]
      exact kindText_congr (o := o) fun c _ => useText_congr rfl fun _ =>
        ih _ (length_idle_cons_lt hopen.1 hopen.2) _ _ rfl
    · rw [dif_neg hopen, dif_neg hopen]
      rfl

section Written

variable (hsame : h.uncommented = g.uncommented) (o : Options)
include hsame

theorem renderRaw_later : renderRaw h o.later = renderRaw g o := by
  funext id
  have hname := congrFun (name?_eq_of_uncommented hsame)
  have hkind := congrFun (kind_eq_of_uncommented hsame)
  exact (rawText_congr (size_eq_of_uncommented hsame) hname (D := fun _ => True)
    (fun _ _ _ _ => trivial) (fun id _ => hkind id) o.later [] trivial).trans
    (rawText_later g o [] id)

theorem render_later : render h o.later = render g o := by
  funext id
  unfold render
  rw [renderRaw_later hsame]
  exact useText_congr (congrFun (name?_eq_of_uncommented hsame) id) fun _ => rfl

theorem memberSignature_later : memberSignature h o.later = memberSignature g o := by
  funext m
  unfold memberSignature
  rw [render_later hsame]
  rfl

theorem structureText_later : structureText h o.later = structureText g o := by
  funext id
  unfold structureText
  rw [kind_eq_of_uncommented hsame, renderRaw_later hsame, render_later hsame]

/-! ### Simplifying -/

theorem flattenMember_eq_of_uncommented : flattenMember h = flattenMember g := by
  funext id isUnion member
  unfold flattenMember
  rw [kind_eq_of_uncommented hsame, name?_eq_of_uncommented hsame]

theorem namedStructures_later : namedStructures h o.later = namedStructures g o := by
  funext members
  unfold namedStructures
  rw [name?_eq_of_uncommented hsame, renderRaw_later hsame]

theorem distinctMembers_later (named seen : List String) (members : List TypeId) :
    distinctMembers h o.later named seen members = distinctMembers g o named seen members := by
  induction members generalizing seen with
  | nil => rfl
  | cons member rest ih =>
    simp only [distinctMembers, ih, render_later hsame, name?_eq_of_uncommented hsame]

theorem dedupeMembers_later : dedupeMembers h o.later = dedupeMembers g o := by
  funext members
  unfold dedupeMembers
  simp only [namedStructures_later hsame, distinctMembers_later hsame]

theorem simplerKind?_later : simplerKind? h o.later = simplerKind? g o := by
  funext id
  unfold simplerKind? operationKind? narrowMembers
  rw [kind_eq_of_uncommented hsame, flattenMember_eq_of_uncommented hsame,
    dedupeMembers_later hsame]

/-! ### Walking -/

theorem walk_eq_of_uncommented (seen : Array Bool) (stack : List TypeId) :
    walk h seen stack = walk g seen stack := by
  induction seen, stack using walk.induct g with
  | case1 => rw [walk_nil, walk_nil]
  | case2 seen id rest hnew ih =>
    obtain ⟨hid, hfalse⟩ := hnew
    have hchildren : h.children id = g.children id := by
      rw [children, children, kind_eq_of_uncommented hsame]
    rw [walk_cons_new h rest hid hfalse, walk_cons_new g rest hid hfalse, hchildren, ih]
  | case3 seen id rest hold ih => rw [walk_cons_old h rest hold, walk_cons_old g rest hold, ih]

theorem reachable_eq_of_uncommented : h.reachable = g.reachable := by
  rw [reachable, reachable, size_eq_of_uncommented hsame, root_eq_of_uncommented hsame,
    walk_eq_of_uncommented hsame]

/-! ### Merging -/

theorem repeatedNames_later (first : FirstOfName) (ids : List TypeId) :
    repeatedNames h o.later first ids = repeatedNames g o first ids := by
  induction ids generalizing first with
  | nil => rfl
  | cons id rest ih =>
    simp only [repeatedNames, ih, structureText_later hsame, name?_eq_of_uncommented hsame,
      originText_eq_of_uncommented hsame]

theorem repeatedClasses_later (first : Dict String) (ids : List TypeId) :
    repeatedClasses h o.later first ids = repeatedClasses g o first ids := by
  induction ids generalizing first with
  | nil => rfl
  | cons id rest ih =>
    simp only [repeatedClasses, ih, structureText_later hsame, name?_eq_of_uncommented hsame,
      kind_eq_of_uncommented hsame]

end Written

/-! ### Optimizing, whatever earlier stages were told -/

theorem simplify_later (g : TypeGraph) (o : Options) : g.simplify o.later = g.simplify o := by
  have hstep : simplifyAt o.later = simplifyAt o := by
    funext g id
    unfold simplifyAt
    rw [simplerKind?_later rfl]
  rw [simplify, simplify, hstep]

theorem mergeNames_later (g : TypeGraph) (o : Options) :
    g.mergeNames o.later = g.mergeNames o := by
  rw [mergeNames, mergeNames, repeatedNames_later rfl]

theorem mergeClasses_later (g : TypeGraph) (o : Options) :
    g.mergeClasses o.later = g.mergeClasses o := by
  rw [mergeClasses, mergeClasses, repeatedClasses_later rfl]

/-- **Optimizing does not ask for options of earlier stages.** -/
theorem optimize_later (g : TypeGraph) (o : Options) : g.optimize o.later = g.optimize o := by
  unfold optimize
  simp only [simplify_later, mergeNames_later, mergeClasses_later]
  rfl

/-! ### Optimizing, whatever the comments -/

/-- A change that has nothing to do with comments. -/
theorem uncommented_modifyNode (g : TypeGraph) (id : TypeId) (change : TypeNode → TypeNode)
    (hchange : ∀ n, (change n).uncommented = change n.uncommented) :
    (g.modifyNode id change).uncommented = g.uncommented.modifyNode id change := by
  simp only [modifyNode, uncommented, map_modify hchange]

theorem uncommented_setKind (g : TypeGraph) (id : TypeId) (kind : TypeKind) :
    (g.setKind id kind).uncommented = g.uncommented.setKind id kind :=
  uncommented_modifyNode g id _ fun _ => rfl

theorem uncommented_replace (g : TypeGraph) (r : Replacement) :
    (g.replace r).uncommented = g.uncommented.replace r :=
  uncommented_modifyNode g r.id _ fun _ => rfl

/-- Steps that do the same whatever the comments, one after the other. -/
theorem uncommented_foldl {α : Type} {step : TypeGraph → α → TypeGraph}
    (hstep : ∀ {g h : TypeGraph}, h.uncommented = g.uncommented → ∀ a,
      (step h a).uncommented = (step g a).uncommented)
    (hsame : h.uncommented = g.uncommented) (list : List α) :
    (list.foldl step h).uncommented = (list.foldl step g).uncommented := by
  induction list generalizing g h with
  | nil => exact hsame
  | cons a rest ih => exact ih (hstep hsame a)

theorem uncommented_foldl_replace (hsame : h.uncommented = g.uncommented)
    (list : List Replacement) :
    (list.foldl replace h).uncommented = (list.foldl replace g).uncommented :=
  uncommented_foldl
    (fun hsame r => by rw [uncommented_replace, uncommented_replace, hsame]) hsame list

section Optimized

variable (hsame : h.uncommented = g.uncommented) (o : Options)
include hsame

theorem uncommented_simplifyAt (id : TypeId) :
    (simplifyAt o h id).uncommented = (simplifyAt o g id).uncommented := by
  have hkind : simplerKind? h o id = simplerKind? g o id := by
    rw [← simplerKind?_later rfl, simplerKind?_later hsame]
  unfold simplifyAt
  rw [hkind]
  cases simplerKind? g o id with
  | none => exact hsame
  | some kind => rw [uncommented_setKind, uncommented_setKind, hsame]

theorem uncommented_simplify : (h.simplify o).uncommented = (g.simplify o).uncommented := by
  rw [simplify, simplify, reachable_eq_of_uncommented hsame]
  exact uncommented_foldl (fun hsame id => uncommented_simplifyAt hsame o id) hsame _

theorem map_uncommented_mergeNames :
    (h.mergeNames o).map uncommented = (g.mergeNames o).map uncommented := by
  have hnames : repeatedNames h o [] h.reachable = repeatedNames g o [] g.reachable := by
    rw [← repeatedNames_later rfl, repeatedNames_later hsame, reachable_eq_of_uncommented hsame]
  unfold mergeNames
  rw [hnames]
  cases ((repeatedNames g o [] g.reachable).run []).1 with
  | error cause => rfl
  | ok list => exact congrArg Except.ok (uncommented_foldl_replace hsame list)

theorem uncommented_mergeClasses :
    (h.mergeClasses o).uncommented = (g.mergeClasses o).uncommented := by
  rw [mergeClasses, mergeClasses, reachable_eq_of_uncommented hsame, ← repeatedClasses_later rfl,
    repeatedClasses_later hsame]
  exact uncommented_foldl_replace hsame _

/-- **Optimizing does not look at comments**: it fails in the same way, or it brings the same types
but for comments. -/
theorem map_uncommented_optimize :
    (h.optimize o).map uncommented = (g.optimize o).map uncommented := by
  have hnames := map_uncommented_mergeNames (uncommented_simplify hsame o) o
  unfold optimize
  cases hh : (h.simplify o).mergeNames o with
  | error cause =>
    cases hg : (g.simplify o).mergeNames o with
    | error cause' =>
      rw [hh, hg] at hnames
      cases hnames
      rfl
    | ok merged =>
      rw [hh, hg] at hnames
      cases hnames
  | ok merged' =>
    cases hg : (g.simplify o).mergeNames o with
    | error cause =>
      rw [hh, hg] at hnames
      cases hnames
    | ok merged =>
      rw [hh, hg] at hnames
      have hmerged : merged'.uncommented = merged.uncommented := Except.ok.inj hnames
      refine congrArg Except.ok ?_
      split
      · exact uncommented_mergeClasses hmerged o
      · exact hmerged

end Optimized

/-! ### Making types -/

/-- **Types do not depend on options of earlier stages.** -/
theorem ofNode_later (g : SchemaGraph) (o : Options) (levels : Nat) :
    ofNode g o.later levels = ofNode g o levels := by
  induction levels with
  | zero =>
    funext id
    unfold ofNode
    rfl
  | succ levels ih =>
    funext id
    unfold ofNode
    dsimp only
    rw [ih]
    rfl

theorem ofSchema_later (g : SchemaGraph) (o : Options) : ofSchema g o.later = ofSchema g o := by
  rw [ofSchema, ofSchema, ofNode_later]

/-- **Types are made and optimized alike** under options that later stages cannot tell apart. -/
theorem optimize_ofSchema_eq_of_later (g : SchemaGraph) {o o' : Options} (h : o'.later = o.later) :
    (ofSchema g o').optimize o' = (ofSchema g o).optimize o := by
  rw [← ofSchema_later, ← optimize_later, h, ofSchema_later, optimize_later]

end TypeGraph

/-! ### Declaring -/

namespace Declaration

open TypeGraph

variable (g : TypeGraph) (o : Options) (rootName : String)

theorem alias?_later : alias? g o.later rootName = alias? g o rootName := by
  funext id
  unfold alias?
  rw [renderRaw_later rfl]
  rfl

theorem classBlock_later : classBlock g o.later = classBlock g o := by
  funext id name members bases
  have hlines : memberLines g o.later = memberLines g o := by
    funext m
    unfold memberLines
    rw [memberSignature_later rfl]
  unfold classBlock
  rw [render_later rfl, hlines]
  rfl

theorem classesFrom_later (emitted : List String) (ids : List TypeId) :
    classesFrom g o.later rootName emitted ids = classesFrom g o rootName emitted ids := by
  induction ids generalizing emitted with
  | nil => rfl
  | cons id rest ih =>
    simp only [classesFrom, ih, classBlock_later]
    rfl

/-- **Declarations do not depend on options of earlier stages.** -/
theorem generate_later : generate g o.later rootName = generate g o rootName := by
  have hblocks : blocks g o.later rootName = blocks g o rootName := by
    simp only [blocks, aliases, classes, alias?_later, classesFrom_later]
    rfl
  rw [generate, generate, hblocks]
  rfl

theorem generate_eq_of_later {o' : Options} (h : o'.later = o.later) :
    generate g o' rootName = generate g o rootName := by
  rw [← generate_later, h, generate_later]

end Declaration

end SchemaTypings
