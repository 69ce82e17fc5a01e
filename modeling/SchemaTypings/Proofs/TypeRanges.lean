import SchemaTypings.Proofs.FinishedOperations
import SchemaTypings.Proofs.Merging
import SchemaTypings.Proofs.SchemaRanges
import SchemaTypings.Proofs.TypeSources

/-! # The ids of a type graph are in range

Making types hands out the id of a type before its parts are made; flattening copies ids from one
type to another; and merging writes over kinds.  None of these lets an id out of the graph: what a
kind is made of are types of schemas, the placeholder and types that were added, flattening takes
ids from types of the graph alone, and a reference holds a name and no id.
-/
namespace SchemaTypings
namespace TypeGraph

/-- **Every id of a graph is the id of a type.** -/
structure InRange (g : TypeGraph) : Prop where
  root : g.root < g.size
  parts : ∀ id, ∀ part ∈ g.children id, part < g.size

/-- **The ids by which a graph is looked at**: the root's, those of the types that are reached, and
those that types hold. -/
inductive Holds (g : TypeGraph) : TypeId → Prop where
  | root : Holds g g.root
  | reached {id : TypeId} (h : id ∈ g.reachable) : Holds g id
  | part {id part : TypeId} (h : part ∈ g.children id) : Holds g part

/-- **No look-up falls outside the graph.** -/
theorem InRange.getElem?_of_holds {g : TypeGraph} (h : g.InRange) {id : TypeId}
    (hid : g.Holds id) : g.nodes[id]? = some (g.node id) := by
  have hlt : id < g.nodes.size := by
    cases hid with
    | root => exact h.root
    | reached hid => exact ((mem_reachable_iff g id).1 hid).lt_size
    | part hid => exact h.parts _ id hid
  simp [node, hlt]

/-! ### Making types -/

section Made

variable {g : SchemaGraph} {o : Options} {levels : Nat} {s : Growth} {n : SchemaNode}
  (hs : Prepared g o levels s)

theorem Growth.HasPart.lt {kind : TypeKind} {id : TypeId} (h : s.HasPart kind id) :
    id < s.nodes.size :=
  (Array.getElem?_eq_some_iff.1 h).1

theorem parts_lt {α : Type} {kind : α → TypeKind} {as : List α} {ids : List TypeId}
    (h : List.Forall₂ (fun a id => s.HasPart (kind a) id) as ids) :
    ∀ id ∈ ids, id < s.nodes.size := by
  intro id hid
  obtain ⟨_, -, hpart⟩ := exists_left_of_forall₂ h id hid
  exact hpart.lt

include hs

theorem assignsAll_lt {schemas : List SchemaId} {types : List TypeId}
    (h : s.AssignsAll schemas types) : ∀ type ∈ types, type < s.nodes.size := by
  intro type htype
  obtain ⟨schema, -, hassigns⟩ := exists_left_of_forall₂ h type htype
  exact hs.inRange schema type hassigns

theorem placeholder_lt {id : TypeId} (h : s.placeholder = some id) : id < s.nodes.size :=
  (hs.held id h).lt

theorem AreMembers.lt {make : String → SchemaId → TypeId → Member}
    (hmake : ∀ key schema type, (make key schema type).type = type) {entries : Dict SchemaId}
    {members : List Member} (h : AreMembers s make entries members) :
    ∀ m ∈ members, m.type < s.nodes.size := by
  intro m hm
  obtain ⟨entry, -, type, hassigns, rfl⟩ := exists_left_of_forall₂ h m hm
  rw [hmake]
  exact hs.inRange _ type hassigns

theorem IsFurther.lt {rest : Option Additional} {further : Option TypeId}
    (h : IsFurther s rest further) : ∀ id ∈ further, id < s.nodes.size := by
  unfold IsFurther at h
  split at h
  · obtain ⟨id, hid, rfl⟩ := h
    exact fun other hother => Option.some.inj hother ▸ placeholder_lt hs hid
  · obtain ⟨id, hid, rfl⟩ := h
    exact fun other hother => Option.some.inj hother ▸ hs.inRange _ id hid
  · subst h
    exact fun _ hother => nomatch hother

theorem IsRecordKind.lt {bases : List TypeId} {kind : TypeKind}
    (h : IsRecordKind s g o n bases kind) (hbases : ∀ base ∈ bases, base < s.nodes.size) :
    ∀ part ∈ kind.children, part < s.nodes.size := by
  obtain ⟨properties, patterns, additional, unreachable, hproperties, hpatterns, hadditional,
    hunreachable, rfl⟩ := h
  have hmembers : ∀ m ∈ properties ++ patterns ++ additional.toList.map indexMember ++ unreachable,
      m.type < s.nodes.size := by
    intro m hm
    simp only [List.mem_append, List.mem_map, Option.mem_toList] at hm
    rcases hm with ((hm | hm) | ⟨type, htype, rfl⟩) | hm
    · exact hproperties.lt hs (fun _ _ _ => rfl) m hm
    · exact hpatterns.lt hs (fun _ _ _ => rfl) m hm
    · exact hadditional.lt hs type htype
    · exact hunreachable.lt hs (fun _ _ _ => rfl) m hm
  intro part hpart
  rcases List.mem_append.1 hpart with hpart | hpart
  · obtain ⟨m, hm, rfl⟩ := List.mem_map.1 hpart
    exact hmembers m hm
  · exact hbases part hpart

theorem IsArrayKind.lt {kind : TypeKind} (h : IsArrayKind s o n kind) :
    ∀ part ∈ kind.children, part < s.nodes.size := by
  have htuple : ∀ {elements : List TypeId} {min : Nat} {max : Option Nat} {spread : Option TypeId},
      (∀ e ∈ elements, e < s.nodes.size) → (∀ e ∈ spread, e < s.nodes.size) →
      ∀ part ∈ (TypeKind.tuple elements min max spread).children, part < s.nodes.size := by
    intro elements min max spread helements hspread part hpart
    rcases List.mem_append.1 hpart with hpart | hpart
    · exact helements part hpart
    · exact hspread part (Option.mem_toList.1 hpart)
  unfold IsArrayKind at h
  split at h
  · obtain ⟨elements, spread, helements, hspread, rfl⟩ := h
    split
    · exact htuple (assignsAll_lt hs helements) (hspread.lt hs)
    · exact htuple (assignsAll_lt hs helements) (hspread.lt hs)
  · obtain ⟨element, helement, rfl⟩ := h
    exact fun part hpart => List.mem_singleton.1 hpart ▸ hs.inRange _ element helement
  · obtain ⟨any, hany, rfl⟩ := h
    have hlt := placeholder_lt hs hany
    split
    · refine htuple (fun e he => List.eq_of_mem_replicate he ▸ hlt) fun e he => ?_
      split at he
      · exact Option.some.inj he ▸ hlt
      · cases he
    · exact fun part hpart => List.mem_singleton.1 hpart ▸ hlt

omit hs in
theorem IsEnumKind.lt {kind : TypeKind} (h : IsEnumKind s n kind) :
    ∀ part ∈ kind.children, part < s.nodes.size := by
  unfold IsEnumKind at h
  split at h
  · subst h
    exact fun _ hpart => nomatch hpart
  · subst h
    exact fun _ hpart => nomatch hpart
  · obtain ⟨literals, hliterals, rfl⟩ := h
    exact parts_lt hliterals

/-- **What a shape is made of is there.** -/
theorem Shape.lt {kind : TypeKind} (h : Shape s g o n kind) :
    ∀ part ∈ kind.children, part < s.nodes.size := by
  cases h with
  | atom hatom =>
    have hnone : kind.children = [] := by
      cases kind <;> first | rfl | cases hatom
    rw [hnone]
    exact fun _ hpart => absurd hpart List.not_mem_nil
  | record hbases hkind => exact hkind.lt hs (assignsAll_lt hs hbases)
  | array _ hkind => exact hkind.lt hs
  | values hkind => exact hkind.lt
  | @operation isUnion members _ hkind hmembers =>
    have hchildren : kind.children = members := by
      cases kind <;> first | cases hkind; rfl | cases hkind
    rw [hchildren]
    intro part hpart
    rcases hmembers part hpart with ⟨schema, hassigns⟩ | ⟨_, hhas⟩
    · exact hs.inRange schema part hassigns
    · exact hhas.lt

/-- **What a founded kind is made of is there.** -/
theorem Founded.lt {kind : TypeKind} (h : Founded s g o kind) :
    ∀ part ∈ kind.children, part < s.nodes.size := by
  obtain ⟨schema, hshape, -⟩ := h.exists_shape
  exact hshape.lt hs

end Made

/-- **The ids in the types of a graph are in range.** -/
theorem inRange_ofSchema {g : SchemaGraph} (hg : g.InRange) (o : Options) :
    (ofSchema g o).InRange where
  root := (grounded_made o hg.root hg.children).inRange _ _ (adds_made o hg.root hg.children).2
  parts := fun id =>
    (founded_kind o hg.root hg.children id).lt (grounded_made o hg.root hg.children).toPrepared

/-! ### Optimizing -/

/-- What an operation becomes is made of members that it is flattened to. -/
theorem Becomes.mem_flatMembers {g : TypeGraph} {o : Options} {id : TypeId} {isUnion : Bool}
    {kind : TypeKind} (h : g.Becomes o id isUnion kind) :
    ∀ part ∈ kind.children, part ∈ g.flatMembers id := by
  cases h with
  | any | absorbed | vanished => exact fun _ hpart => nomatch hpart
  | kept _ _ _ hkept =>
    have hchildren : kind.children = dedupeMembers g o (g.sievedMembers id) := by
      cases kind with
      | union _ | intersection _ =>
        cases hkept
        rfl
      | _ => cases hkept
    rw [hchildren]
    exact fun part hpart => sievedMembers_subset (mem_of_mem_dedupeMembers hpart)

namespace InRange

variable {g : TypeGraph}

/-- A turn that simplifies one type. -/
theorem of_simplifyAt (h : g.InRange) (o : Options) (id : TypeId) :
    (simplifyAt o g id).InRange where
  root := by
    rw [root_simplifyAt, size_simplifyAt]
    exact h.root
  parts := by
    intro other part hpart
    rw [size_simplifyAt]
    unfold simplifyAt at hpart
    split at hpart
    · next kind hkind =>
      rw [children, kind_setKind] at hpart
      split at hpart
      · obtain ⟨isUnion, members, -, hbecomes⟩ := exists_operands_of_simplerKind? hkind
        exact lt_size_of_mem_flatMembers h.parts (hbecomes.mem_flatMembers part hpart)
      · exact h.parts other part hpart
    · exact h.parts other part hpart

/-- A reference holds no id. -/
theorem of_replace (h : g.InRange) (r : Replacement) : (g.replace r).InRange where
  root := by
    rw [root_replace, size_replace]
    exact h.root
  parts := by
    intro id part hpart
    rw [size_replace]
    rw [children, kind_replace] at hpart
    split at hpart
    · cases hpart
    · exact h.parts id part hpart

end InRange

/-- **The graphs that optimizing passes through**: types are simplified one by one, parts before
the types made of them, and then replaced one by one. -/
inductive Passed (g : TypeGraph) (o : Options) : TypeGraph → Prop where
  | simplifying {done : List TypeId} (h : done <+: g.reachable.reverse) :
    Passed g o (done.foldl (simplifyAt o) g)
  | merging {done : List Replacement} (h : done <+: (g.simplify o).replacements o) :
    Passed g o (done.foldl replace (g.simplify o))

/-- What optimizing brings is the last graph that it passes through. -/
theorem passed_optimize {g h : TypeGraph} {o : Options} (hoptimize : g.optimize o = .ok h) :
    Passed g o h := by
  obtain ⟨-, rfl⟩ := (optimize_eq_ok_iff g h o).1 hoptimize
  exact .merging (List.prefix_refl _)

/-- **The ids are in range wherever optimizing passes.** -/
theorem InRange.of_passed {g h : TypeGraph} {o : Options} (hg : g.InRange) (hh : Passed g o h) :
    h.InRange := by
  have hsimplify : ∀ ids : List TypeId, (ids.foldl (simplifyAt o) g).InRange := fun ids =>
    foldl_simplifyAt_induction hg (fun _ id hin => hin.of_simplifyAt o id) ids
  cases hh with
  | simplifying _ => exact hsimplify _
  | @merging done _ =>
    refine List.foldlRecOn done replace (hsimplify _) fun _ hin r _ => hin.of_replace r

/-- **Optimizing changes kinds and names alone.** -/
theorem Passed.node {g h : TypeGraph} {o : Options} (hh : Passed g o h) (id : TypeId) :
    h.node id = { g.node id with kind := h.kind id, name := h.name? id } := by
  have hmodify : ∀ {u : TypeGraph} (other : TypeId) (change : TypeNode → TypeNode),
      (∀ n, change n = { n with kind := (change n).kind, name := (change n).name }) →
      u.node id = { g.node id with kind := u.kind id, name := u.name? id } →
      (u.modifyNode other change).node id =
        { g.node id with
          kind := (u.modifyNode other change).kind id
          name := (u.modifyNode other change).name? id } := by
    intro u other change hchange hu
    rw [TypeGraph.kind, name?, node_modifyNode]
    split
    · rw [hchange, hu]
    · exact hu
  have hsimplify : ∀ ids : List TypeId,
      (ids.foldl (simplifyAt o) g).node id =
        { g.node id with
          kind := (ids.foldl (simplifyAt o) g).kind id
          name := (ids.foldl (simplifyAt o) g).name? id } := by
    refine foldl_simplifyAt_induction
      (P := fun u => u.node id = { g.node id with kind := u.kind id, name := u.name? id }) rfl
      fun u other hu => ?_
    unfold simplifyAt
    split
    · exact hmodify other _ (fun _ => rfl) hu
    · exact hu
  cases hh with
  | simplifying _ => exact hsimplify _
  | @merging done _ =>
    exact List.foldlRecOn (motive := fun u =>
      u.node id = { g.node id with kind := u.kind id, name := u.name? id }) done replace
      (hsimplify _) fun u hu r _ => hmodify r.id _ (fun _ => rfl) hu

end TypeGraph

/-! ### Every stage -/

/-- **No stage looks outside a graph.**  Whatever the schema, its documents and the options are: the
ids in the graph that linking brings, in the one with every node in its normal form, and in the one
with names are in range, and so are the ids in the types that are made of it and in every graph that
optimizing passes through up to the one that it brings.  Every id by which a stage looks at one of
these graphs brings a node. -/
theorem linkedGraph_looks_inside {schema : Json} {o : Options} {source : DocumentSource}
    {g : SchemaGraph} (hg : linkedGraph schema o source = .ok g) (name : String) :
    (∀ h ∈ [g, g.normalizeNodes o, g.normalize name o],
      h.InRange ∧ ∀ id, h.Holds id → h.nodes[id]? = some (h.node id)) ∧
    (∀ h, TypeGraph.Passed (TypeGraph.ofSchema (g.normalize name o) o) o h →
      h.InRange ∧ ∀ id, h.Holds id → h.nodes[id]? = some (h.node id)) ∧
    TypeGraph.Passed (TypeGraph.ofSchema (g.normalize name o) o) o
      (TypeGraph.ofSchema (g.normalize name o) o) ∧
    ∀ types, typesOf g name o = .ok types →
      TypeGraph.Passed (TypeGraph.ofSchema (g.normalize name o) o) o types := by
  obtain ⟨b, hb⟩ := SchemaGraph.exists_bundle hg
  have hin := SchemaGraph.inRange_of_ofBundle hb
  refine ⟨fun h hh => ?_, fun h hh => ?_, .simplifying List.nil_prefix, fun types htypes =>
    TypeGraph.passed_optimize htypes⟩
  · have hh : h.InRange := by
      simp only [List.mem_cons, List.not_mem_nil, or_false] at hh
      rcases hh with rfl | rfl | rfl
      · exact hin
      · exact hin.normalizeNodes o
      · exact hin.normalize name o
    exact ⟨hh, fun _ => hh.getElem?_of_holds⟩
  · have hh := (TypeGraph.inRange_ofSchema (hin.normalize name o) o).of_passed hh
    exact ⟨hh, fun _ => hh.getElem?_of_holds⟩

/-- A class below itself, with a base and a tuple. -/
def nested : Json :=
  .object [("title", .string "Tree"),
    ("properties", .object [("left", .object [("$ref", .string "#")]),
      ("pair", .object [("items", .array [.object [("type", .string "string")], .object []]),
        ("additionalItems", .object [("$ref", .string "#")])])]),
    ("allOf", .array [.object [("$ref", .string "#/definitions/Base")]]),
    ("definitions", .object [("Base", .object [
      ("properties", .object [("x", .object [("type", .string "string")])])])])]

/-- Linking it closes a cycle, which the other stages then pass. -/
theorem linkedGraph_looks_inside_nested :
    ∃ g, linkedGraph nested {} .none = .ok g ∧ g.cycles ≠ [] ∧
      (∀ h ∈ [g, g.normalizeNodes {}, g.normalize "Tree" {}],
        h.InRange ∧ ∀ id, h.Holds id → h.nodes[id]? = some (h.node id)) ∧
      (∀ h, TypeGraph.Passed (TypeGraph.ofSchema (g.normalize "Tree" {}) {}) {} h →
        h.InRange ∧ ∀ id, h.Holds id → h.nodes[id]? = some (h.node id)) ∧
      ∃ types, typesOf g "Tree" {} = .ok types ∧
        TypeGraph.Passed (TypeGraph.ofSchema (g.normalize "Tree" {}) {}) {} types := by
  have hrun : (linkedGraph nested {} .none).toOption.any (fun g =>
      !g.cycles.isEmpty && (typesOf g "Tree" {}).toOption.any fun _ => true) = true := by
    decide +kernel
  obtain ⟨g, hg, hchecks⟩ := exists_ok_of_any hrun
  obtain ⟨hcycles, htypes⟩ := Bool.and_eq_true_iff.1 hchecks
  obtain ⟨types, htypes, -⟩ := exists_ok_of_any htypes
  obtain ⟨hschemas, hpassed, -, hlast⟩ := linkedGraph_looks_inside hg "Tree"
  exact ⟨g, hg, by simpa using hcycles, hschemas, hpassed, types, htypes, hlast types htypes⟩

end SchemaTypings
