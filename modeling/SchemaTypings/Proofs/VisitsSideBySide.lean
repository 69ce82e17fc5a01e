import SchemaTypings.Proofs.SideBySide
import SchemaTypings.TypeGraph.OfSchema

/-! # Kinds made side by side

The kind of a schema is made by visits to its parts, and by adding types without names.  Two runs that
make it do the same where their visits do, for any relation of states that these additions keep; and
one run that is compared with itself keeps whatever its visits and these additions keep.
-/
namespace SchemaTypings
namespace TypeGraph

/-- **A relation of states that additions keep**: types without names are added, and the placeholder
is found or added, in both states alike. -/
structure KeptByAdditions (o : Options) (R : Growth → Growth → Prop) : Prop where
  addUnnamed : ∀ kind, Matches R (addUnnamed kind) (addUnnamed kind) Eq
  placeholderType : Matches R (placeholderType o) (placeholderType o) Eq

theorem matches_listIf {R : Growth → Growth → Prop} {α : Type} (asked : Bool) {x y : Growing (List α)}
    (h : Matches R x y Eq) : Matches R (listIf asked x) (listIf asked y) Eq := by
  unfold listIf
  split
  · exact h
  · exact .pure rfl

namespace KeptByAdditions

variable {o : Options} {R : Growth → Growth → Prop} (hR : KeptByAdditions o R)

include hR

theorem enumKind (n : SchemaNode) : Matches R (enumKind n) (enumKind n) Eq := by
  unfold TypeGraph.enumKind
  dsimp only
  split
  · exact .pure rfl
  · exact .pure rfl
  · exact (Matches.mapM_eq fun _ _ => hR.addUnnamed _).bind_eq fun literals => .pure rfl

section Visits

variable {visit visit' : Visit}

omit hR in
theorem membersOf (make : String → SchemaId → TypeId → Member) {entries : Dict SchemaId}
    (hvisit : ∀ id ∈ entries.values, Matches R (visit id) (visit' id) Eq) :
    Matches R (membersOf visit make entries) (membersOf visit' make entries) Eq :=
  Matches.mapM_eq fun entry hentry =>
    (hvisit entry.2 (List.mem_map.2 ⟨entry, hentry, rfl⟩)).bind_eq fun _ => .pure rfl

theorem additionalType {rest : Option Additional}
    (hvisit : ∀ id ∈ Additional.ids rest, Matches R (visit id) (visit' id) Eq) :
    Matches R (additionalType visit o rest) (additionalType visit' o rest) Eq := by
  unfold TypeGraph.additionalType
  split
  · exact hR.placeholderType.map fun _ _ heq => congrArg some heq
  · exact (hvisit _ (List.mem_singleton_self _)).map fun _ _ heq => congrArg some heq
  · exact .pure rfl

omit hR in
theorem groupFacet (make : List TypeId → TypeKind) {ids : List SchemaId}
    (hvisit : ∀ id ∈ ids, Matches R (visit id) (visit' id) Eq) :
    Matches R (groupFacet visit make ids) (groupFacet visit' make ids) Eq := by
  unfold TypeGraph.groupFacet
  split
  · exact .pure rfl
  · exact (Matches.mapM_eq hvisit).bind_eq fun members => .pure rfl

section Node

variable {n : SchemaNode} (hvisit : ∀ part ∈ n.children, Matches R (visit part) (visit' part) Eq)

include hvisit

theorem recordKind (g : SchemaGraph) (bases : List TypeId) :
    Matches R (recordKind visit g o n bases) (recordKind visit' g o n bases) Eq := by
  simp only [SchemaNode.children, List.mem_append] at hvisit
  refine (membersOf _ fun c hc => hvisit c (by simp [hc])).bind_eq fun properties => ?_
  refine (membersOf _ fun c hc => hvisit c (by simp [hc])).bind_eq fun patterns => ?_
  refine (hR.additionalType fun c hc => hvisit c (by simp [hc])).bind_eq fun additional => ?_
  exact (matches_listIf _ (membersOf _ fun c hc => hvisit c (by simp [hc]))).bind_eq
    fun unreachable => .pure rfl

theorem objectKind (g : SchemaGraph) :
    Matches R (objectKind visit g o n) (objectKind visit' g o n) Eq := by
  unfold TypeGraph.objectKind
  split
  · exact hR.recordKind hvisit g []
  · exact .pure rfl

theorem arrayKind : Matches R (arrayKind visit o n) (arrayKind visit' o n) Eq := by
  simp only [SchemaNode.children, List.mem_append] at hvisit
  unfold TypeGraph.arrayKind
  dsimp only
  split
  · next ids hids =>
    refine (Matches.mapM_eq fun c hc => hvisit c (by simp [hids, Items.ids, hc])).bind_eq
      fun elements => ?_
    exact (hR.additionalType fun c hc => hvisit c (by simp [hc])).bind_eq
      fun spread => by split <;> exact .pure rfl
  · next id hid =>
    exact (hvisit id (by simp [hid, Items.ids])).bind_eq fun element => .pure rfl
  · exact hR.placeholderType.bind_eq fun any => by split <;> exact .pure rfl

theorem namedKind (g : SchemaGraph) (name : String) :
    Matches R (namedKind visit g o n name) (namedKind visit' g o n name) Eq := by
  unfold TypeGraph.namedKind
  split
  case h_6 => exact hR.objectKind hvisit g
  case h_7 => exact hR.arrayKind hvisit
  all_goals exact .pure rfl

theorem ownFacet (g : SchemaGraph) (bases : List TypeId) :
    Matches R (ownFacet visit g o n bases) (ownFacet visit' g o n bases) Eq := by
  have hsome : ∀ {x y : Growing TypeKind}, Matches R x y Eq →
      Matches R (some <$> x) (some <$> y) Eq := fun h => h.map fun _ _ heq => congrArg some heq
  unfold TypeGraph.ownFacet
  split
  · exact hsome (hR.enumKind n)
  split
  · exact hsome (hR.recordKind hvisit g bases)
  split
  · split
    · exact hsome (hR.objectKind hvisit g)
    split
    · exact hsome (hR.arrayKind hvisit)
    · exact .pure rfl
  · exact hsome (hR.namedKind hvisit g _)
  · refine Matches.bind_eq (Matches.mapM_eq fun name _ => ?_) fun members => .pure rfl
    exact (hR.namedKind hvisit g name).bind_eq fun kind => hR.addUnnamed kind

end Node

section Schema

variable {g : SchemaGraph} {id : SchemaId}
  (hvisit : ∀ part ∈ g.children id, Matches R (visit part) (visit' part) Eq)

include hvisit

theorem facets : Matches R (facets visit g o id) (facets visit' g o id) Eq := by
  have hparts : ∀ part ∈ (g.node id).children, Matches R (visit part) (visit' part) Eq := hvisit
  simp only [SchemaNode.children, List.mem_append] at hparts
  have hcandidates : ∀ c ∈ baseCandidates (g.node id), Matches R (visit c) (visit' c) Eq :=
    fun c hc => hvisit c (mem_children_of_mem_baseCandidates hc)
  refine (matches_listIf _ (Matches.mapM_eq hcandidates)).bind_eq fun bases => ?_
  refine (hR.ownFacet hvisit g bases).bind_eq fun own => ?_
  refine (matches_listIf _ (groupFacet _ fun c hc => hparts c (by simp [hc]))).bind_eq
    fun all => ?_
  refine (matches_listIf _ (groupFacet _ fun c hc => hparts c (by simp [hc]))).bind_eq
    fun extended => ?_
  refine (groupFacet _ fun c hc => hparts c (by simp [hc])).bind_eq fun any => ?_
  exact (groupFacet _ fun c hc => hparts c (by simp [hc])).bind_eq fun one => .pure rfl

/-- **Kinds are made alike** by visits that do the same. -/
theorem kindOf : Matches R (kindOf visit g o id) (kindOf visit' g o id) Eq := by
  unfold TypeGraph.kindOf
  dsimp only
  split
  case h_4 =>
    refine (hR.facets hvisit).bind_eq fun kinds => ?_
    split
    · exact .pure rfl
    · exact .pure rfl
    · exact (Matches.mapM_eq fun kind _ => hR.addUnnamed kind).bind_eq fun members => .pure rfl
  all_goals exact .pure rfl

end Schema

end Visits

end KeptByAdditions

end TypeGraph
end SchemaTypings
