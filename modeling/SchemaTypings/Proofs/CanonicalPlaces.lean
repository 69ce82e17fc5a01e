import SchemaTypings.Proofs.MetPlaces

/-! # One node for each place

A place is remembered under the text of its pointer, and the text of a reference becomes the pointer
of what it leads to.  So the same place has one node as long as all references to it are written in
the same way.  `Canonical` is the way in which linking itself writes pointers; where the references
that linking meets are written so, all nodes stand at canonical pointers, and no two of them in one
place.
-/
namespace SchemaTypings

open SchemaTypings.Bundle (SameSpot EndsAt bareRef? reference?)

/-! ### Canonical pointers -/

namespace Pointer

/-- Whether a path is written plainly. -/
def isPlain : Json → List String → Bool
  | _, [] => true
  | .object entries, key :: rest => (Dict.get? entries key).any fun next => isPlain next rest
  | .array items, segment :: rest => (index? segment).any fun i =>
      segment = toString i && (items[i]?).any fun next => isPlain next rest
  | _, _ :: _ => false

theorem isPlain_iff {value : Json} {path : List String} :
    isPlain value path = true ↔ Plain value path := by
  constructor
  · intro h
    induction path generalizing value with
    | nil => exact .nil value
    | cons segment path ih =>
      cases value with
      | object entries =>
        obtain ⟨next, hnext, hrest⟩ := (Option.any_eq_true _ _).1 h
        exact .key hnext (ih hrest)
      | array items =>
        obtain ⟨i, -, h⟩ := (Option.any_eq_true _ _).1 h
        obtain ⟨hsegment, h⟩ := Bool.and_eq_true_iff.1 h
        obtain ⟨next, hnext, hrest⟩ := (Option.any_eq_true _ _).1 h
        rw [of_decide_eq_true hsegment]
        exact .item hnext (ih hrest)
      | _ => cases h
  · intro h
    induction h with
    | nil value => cases value <;> rfl
    | key hget _ ih =>
      rw [isPlain, hget]
      exact ih
    | item hitem _ ih =>
      rw [isPlain, index?_toString, Option.any_some, hitem, Option.any_some, ih]
      simp

instance (value : Json) (path : List String) : Decidable (Plain value path) :=
  decidable_of_iff _ isPlain_iff

/-- **A canonical pointer** starts at the root, has its segments escaped, and is written plainly. -/
structure Canonical (root : Json) (pointer : String) : Prop where
  written : build "#" (split pointer) = pointer
  plain : Plain root (split pointer)

instance (root : Json) (pointer : String) : Decidable (Canonical root pointer) :=
  decidable_of_iff (build "#" (split pointer) = pointer ∧ Plain root (split pointer))
    ⟨fun ⟨hwritten, hplain⟩ => ⟨hwritten, hplain⟩, fun h => ⟨h.written, h.plain⟩⟩

theorem build_append (parent : String) (segments rest : List String) :
    build parent (segments ++ rest) = build (build parent segments) rest :=
  List.foldl_append ..

theorem canonical_hash (root : Json) : Canonical root "#" := ⟨rfl, .nil root⟩

/-- Continuing a canonical pointer plainly. -/
theorem Canonical.build {root value : Json} {pointer : String} (h : Canonical root pointer)
    (hvalue : resolve? root pointer = some value) {segments : List String}
    (hplain : Plain value segments) : Canonical root (build pointer segments) where
  written := by rw [split_build, build_append, h.written]
  plain := by
    rw [split_build]
    exact h.plain.append hvalue hplain

/-- **Plainly written paths to one place are the same.** -/
theorem Plain.eq_of_sameSpot {value : Json} {path path' : List String}
    (h : SameSpot value path path') (hplain : Plain value path) (hplain' : Plain value path') :
    path = path' := by
  induction h with
  | nil => rfl
  | key hstep _ ih =>
    cases hplain with
    | key hget hrest =>
      cases hplain' with
      | key hget' hrest' =>
        cases hget.symm.trans hstep
        cases hget'.symm.trans hstep
        rw [ih hrest hrest']
    | @item items i next rest hitem hrest =>
      generalize hsegment : toString i = segment at hstep hplain'
      cases hplain' with
      | @item _ j next' rest' hitem' hrest' =>
        have hitems : ∀ {k : Nat} {next : Json}, items[k]? = some next →
            step? (.array items) (toString k) = some next := by
          intro k next hk
          rw [step?, index?_toString, Option.bind_some, hk]
        cases (hitems hitem).symm.trans (hsegment ▸ hstep)
        cases (hitems hitem').symm.trans hstep
        rw [ih hrest hrest']
  | item hindex hindex' hitem _ ih =>
    cases hplain with
    | item hitem₁ hrest =>
      cases hplain' with
      | item hitem₂ hrest' =>
        rw [index?_toString] at hindex hindex'
        cases hindex
        cases hindex'
        cases hitem.symm.trans hitem₁
        cases hitem.symm.trans hitem₂
        rw [ih hrest hrest']

/-- Canonical pointers to one place are the same. -/
theorem Canonical.eq_of_sameSpot {root : Json} {pointer pointer' : String}
    (h : Canonical root pointer) (h' : Canonical root pointer')
    (hspot : SameSpot root (split pointer) (split pointer')) : pointer = pointer' := by
  rw [← h.written, ← h'.written, h.plain.eq_of_sameSpot hspot h'.plain]

end Pointer

namespace SchemaGraph

open SchemaTypings.Pointer (Canonical)

variable {root : Json}

/-! ### What is met -/

/-- **The references that linking meets are written canonically**, as far as they lead anywhere. -/
def RefersCanonically (root : Json) : Prop :=
  ∀ pointer value target, Meets root pointer → Pointer.resolve? root pointer = some value →
    value.object?.bind reference? = some target → (Pointer.resolve? root target).isSome = true →
      Canonical root target

/-- The schemas under a keyword stand on plainly written paths. -/
theorem plain_of_mem_below {holder : Dict Json} {keyword : String} {value : Json}
    (hget : holder.get? keyword = some value) (hkeys : value.hasDistinctKeys = true)
    {segments : List String} (h : segments ∈ below keyword value) :
    Pointer.Plain (.object holder) segments := by
  have hlisted : ∀ {items : List Json}, value = .array items →
      segments ∈ items.zipIdx.map (fun item => [keyword, toString item.2]) →
      Pointer.Plain (.object holder) segments := by
    rintro items rfl hmem
    obtain ⟨⟨item, i⟩, hitem, rfl⟩ := List.mem_map.1 hmem
    exact .key hget (.item (List.mk_mem_zipIdx_iff_getElem?.1 hitem) (.nil item))
  have hwhole : segments = [keyword] → Pointer.Plain (.object holder) segments := by
    rintro rfl
    exact .key hget (.nil value)
  unfold below at h
  split at h
  · obtain ⟨entry, hmem, rfl⟩ := List.mem_map.1 h
    exact .key hget (.key (Dict.get?_of_mem (Json.hasDistinctKeys_object.1 hkeys).1 hmem) (.nil _))
  · split at h
    · cases h
    · exact hwhole (List.mem_singleton.1 h)
  · exact hlisted rfl h
  · exact hlisted rfl h
  · exact hwhole (List.mem_singleton.1 h)
  · split at h
    · exact hwhole (List.mem_singleton.1 h)
    · cases h
  · cases h

/-- **What a schema says is held** by the object at its pointer, or by the one to which its
reference leads. -/
theorem exists_holder_of_mem_contents {pointer : String} {value : Json}
    (hvalue : Pointer.resolve? root pointer = some value) {entry : String × Json × String}
    (h : entry ∈ contents root pointer value) :
    ∃ holder, Pointer.resolve? root entry.2.2 = some (.object holder) ∧
      (entry.1, entry.2.1) ∈ holder ∧
      (entry.2.2 = pointer ∨ value.object?.bind reference? = some entry.2.2) := by
  obtain ⟨keyword, said, base⟩ := entry
  cases value with
  | object object =>
    rcases own_or_taken_of_mem_contents h with ⟨rfl, hmem⟩ | ⟨other, hreference, hother, hmem⟩
    · exact ⟨object, hvalue, hmem, .inl rfl⟩
    · exact ⟨other, hother, hmem, .inr hreference⟩
  | _ => cases h

/-- **What is met stands at canonical pointers.**  By induction on the way there: it comes from the
text of a reference, or continues a pointer that is met, or the text of a reference. -/
theorem Meets.canonical (hkeys : root.hasDistinctKeys = true) (hrefers : RefersCanonically root)
    {pointer : String} (h : Meets root pointer)
    (hvalue : (Pointer.resolve? root pointer).isSome = true) : Canonical root pointer := by
  induction h with
  | start => exact Pointer.canonical_hash root
  | @next pointer other value hmeets hfound hother ih =>
    unfold leads at hother
    split at hother
    · next target hbare =>
      cases List.mem_singleton.1 hother
      refine hrefers pointer value _ hmeets hfound ?_ hvalue
      rw [Bundle.bareRef?_eq_some.1 hbare]
      rfl
    · obtain ⟨entry, hentry, hmem⟩ := List.mem_flatMap.1 hother
      obtain ⟨segments, hsegments, rfl⟩ := List.mem_map.1 hmem
      obtain ⟨holder, hholder, hheld, hbase⟩ := exists_holder_of_mem_contents hfound hentry
      have hresolves : (Pointer.resolve? root entry.2.2).isSome = true := by rw [hholder]; rfl
      have hcanonical : Canonical root entry.2.2 := by
        rcases hbase with heq | hreference
        · rw [heq]
          exact ih (by rw [hfound]; rfl)
        · exact hrefers pointer value _ hmeets hfound hreference hresolves
      have hdistinct := Json.hasDistinctKeys_object.1
        (Pointer.hasDistinctKeys_of_follow? hkeys hholder)
      exact hcanonical.build hholder (plain_of_mem_below (Dict.get?_of_mem hdistinct.1 hheld)
        (hdistinct.2 _ hheld) hsegments)

/-- Whether these pointers are all that linking meets, and the references there are written
canonically. -/
def isCanonicalWithin (root : Json) (pointers : List String) : Bool :=
  pointers.contains "#" && pointers.all fun pointer =>
    match Pointer.resolve? root pointer with
    | some value =>
      ((value.object?.bind reference?).all fun target =>
        (Pointer.resolve? root target).isNone || decide (Canonical root target)) &&
          (leads root pointer value).all fun other => pointers.contains other
    | none => true

theorem refersCanonically_of_isCanonicalWithin (pointers : List String)
    (h : isCanonicalWithin root pointers = true) : RefersCanonically root := by
  obtain ⟨hstart, hall⟩ := Bool.and_eq_true_iff.1 h
  have hpointer : ∀ {pointer value}, pointer ∈ pointers →
      Pointer.resolve? root pointer = some value →
      (∀ target, value.object?.bind reference? = some target →
        (Pointer.resolve? root target).isSome = true → Canonical root target) ∧
        ∀ other ∈ leads root pointer value, other ∈ pointers := by
    intro pointer value hmem hvalue
    have hone := List.all_eq_true.1 hall pointer hmem
    rw [hvalue] at hone
    obtain ⟨hreference, hleads⟩ := Bool.and_eq_true_iff.1 hone
    refine ⟨fun target htarget hresolves => ?_,
      fun other hother => by simpa using List.all_eq_true.1 hleads other hother⟩
    rw [htarget, Option.all_some, Bool.or_eq_true] at hreference
    refine of_decide_eq_true (hreference.resolve_left fun hnone => ?_)
    rw [Option.isNone_iff_eq_none.1 hnone] at hresolves
    cases hresolves
  intro pointer value target hmeets hvalue
  refine (hpointer (hmeets.mem_of_closed (by simpa using hstart) ?_) hvalue).1 target
  exact fun _ hmem _ hvalue => (hpointer hmem hvalue).2

/-! ### Linked graphs -/

/-- The value at the pointer of a node is no bare reference. -/
def IsConcrete (root : Json) (node : SchemaNode) : Prop :=
  ∃ value, Pointer.resolve? root node.pointer = some value ∧ bareRef? value = none

/-- **Which places share a node.**  Nodes are told apart by the texts of their pointers, but for
those of bare references that lead nowhere.  Where the references that linking meets are written
canonically, every node stands at a canonical pointer; so no two nodes stand in one place, and
places from which bare references lead to one place have one node. -/
theorem ofBundle_one_node_for_each_place {schema : Json} {o : Options} {source : DocumentSource}
    {b : Bundle} {g : SchemaGraph} (hschema : schema.hasDistinctKeys = true)
    (hsource : ∀ uri value, source.fetch uri = .ok value → value.hasDistinctKeys = true)
    (hbundle : Bundle.ofSchema schema o source = .ok b) (hgraph : ofBundle b o = .ok g) :
    (∀ id < g.size, ∀ other < g.size, IsConcrete b.schema (g.node id) →
      (g.node id).pointer = (g.node other).pointer → id = other) ∧
    (RefersCanonically b.schema →
      (∀ id < g.size, Canonical b.schema (g.node id).pointer) ∧
      (∀ id < g.size, ∀ other < g.size, IsConcrete b.schema (g.node id) →
        SameSpot b.schema (Pointer.split (g.node id).pointer)
          (Pointer.split (g.node other).pointer) → id = other) ∧
      ∃ l, walk b o = .ok (g.root, l) ∧ l.nodes = g.nodes ∧
        ∀ pointer pointer' id id' last last', l.byPointer.lookup pointer = some id →
          l.byPointer.lookup pointer' = some id' →
          EndsAt b.schema (Pointer.split pointer) last →
          EndsAt b.schema (Pointer.split pointer') last' → SameSpot b.schema last last' →
            id = id') := by
  obtain ⟨-, -, lib, whole, -, -, h⟩ := Library.exists_of_ofSchema hschema hsource hbundle
  have hkeys : b.schema.hasDistinctKeys = true := h.alike.hasDistinctKeys h.keys
  obtain ⟨l, hwalk, hnodes, haccounted, hremembered⟩ := accounted_of_ofBundle hkeys hgraph
  have hplaced := placed_of_walk hkeys hwalk
  have hown : ∀ id < g.size, IsConcrete b.schema (g.node id) →
      l.byPointer.lookup (g.node id).pointer = some id := by
    rintro id hid ⟨value, hvalue, hbare⟩
    obtain ⟨found, hfound⟩ := haccounted id hid
    obtain rfl := Option.some.inj (hvalue.symm.trans hfound.found)
    exact hremembered id hid value hfound hbare
  have hunique : ∀ id < g.size, ∀ other < g.size, IsConcrete b.schema (g.node id) →
      (g.node id).pointer = (g.node other).pointer → id = other := by
    intro id hid other hother hconcrete heq
    have hconcrete' : IsConcrete b.schema (g.node other) := by
      obtain ⟨value, hvalue, hbare⟩ := hconcrete
      exact ⟨value, heq ▸ hvalue, hbare⟩
    have hsame := hown other hother hconcrete'
    rw [← heq, hown id hid hconcrete] at hsame
    exact Option.some.inj hsame
  refine ⟨hunique, fun hrefers => ?_⟩
  have hcanonical : ∀ id < g.size, Canonical b.schema (g.node id).pointer := by
    intro id hid
    obtain ⟨value, hvalue⟩ := haccounted id hid
    refine hvalue.met.canonical hkeys hrefers ?_
    rw [hvalue.found]
    rfl
  have hspot : ∀ id < g.size, ∀ other < g.size, IsConcrete b.schema (g.node id) →
      SameSpot b.schema (Pointer.split (g.node id).pointer)
        (Pointer.split (g.node other).pointer) → id = other := fun id hid other hother hid' heq =>
    hunique id hid other hother hid' ((hcanonical id hid).eq_of_sameSpot (hcanonical other hother)
      heq)
  refine ⟨hcanonical, hspot, l, hwalk, hnodes, ?_⟩
  intro pointer pointer' id id' last last' hid hid' hends hends' hsame
  have hstands := hplaced pointer id hid
  have hstands' := hplaced pointer' id' hid'
  have hlast : Pointer.split (g.node id).pointer = last := by
    rw [← hstands.place last hends, Linked.place, hnodes]
    rfl
  have hlast' : Pointer.split (g.node id').pointer = last' := by
    rw [← hstands'.place last' hends', Linked.place, hnodes]
    rfl
  have hlt := hstands.lt
  have hlt' := hstands'.lt
  rw [hnodes] at hlt hlt'
  obtain ⟨value, hvalue, hbare⟩ := hends.exists_value
  exact hspot id hlt id' hlt' ⟨value, by rw [Pointer.resolve?, hlast, hvalue], hbare⟩
    (hlast.symm ▸ hlast'.symm ▸ hsame)

/-- Two properties of one type, which a key with a tilde defines. -/
def tildes : Json :=
  .object [("properties", .object [("a", .object [("$ref", .string "#/definitions/x~0y")]),
      ("b", .object [("$ref", .string "#/definitions/x~0y")])]),
    ("definitions", .object [("x~y", .object [("type", .string "string")])])]

/-- Both are linked to the node of the definition. -/
theorem ofBundle_one_node_for_each_place_tildes :
    ∃ b g, Bundle.ofSchema tildes {} .none = .ok b ∧ ofBundle b {} = .ok g ∧ g.size = 2 ∧
      ∀ id < g.size, Canonical b.schema (g.node id).pointer := by
  have hrun : (Bundle.ofSchema tildes {} .none).toOption.any (fun b =>
      isCanonicalWithin b.schema ["#", "#/properties/a", "#/properties/b", "#/definitions/x~0y"] &&
        (ofBundle b {}).toOption.any fun g => decide (g.size = 2)) = true := by
    decide +kernel
  obtain ⟨b, hb, hrun⟩ := exists_ok_of_any hrun
  obtain ⟨hwithin, hrun⟩ := Bool.and_eq_true_iff.1 hrun
  obtain ⟨g, hg, hsize⟩ := exists_ok_of_any hrun
  have hsource : ∀ uri value, DocumentSource.none.fetch uri = .ok value →
      value.hasDistinctKeys = true :=
    fun uri value hfetch => nomatch hfetch
  obtain ⟨-, hall⟩ := ofBundle_one_node_for_each_place (by decide) hsource hb hg
  exact ⟨b, g, hb, hg, of_decide_eq_true hsize,
    (hall (refersCanonically_of_isCanonicalWithin _ hwithin)).1⟩

/-- The same with the tilde written as it is in one of the references. -/
def looseTildes : Json :=
  .object [("properties", .object [("a", .object [("$ref", .string "#/definitions/x~0y")]),
      ("b", .object [("$ref", .string "#/definitions/x~y")])]),
    ("definitions", .object [("x~y", .object [("type", .string "string")])])]

/-- **Two nodes in one place**: the two references lead to one definition, and each is linked to a
node of its own. -/
theorem ofBundle_looseTildes_has_two_nodes_in_one_place :
    looseTildes.hasDistinctKeys = true ∧
      ∃ b g, Bundle.ofSchema looseTildes {} .none = .ok b ∧ ofBundle b {} = .ok g ∧
        (g.node g.root).properties = [("a", 1), ("b", 2)] ∧
        Pointer.split (g.node 1).pointer = Pointer.split (g.node 2).pointer ∧
        (Pointer.resolve? b.schema (g.node 1).pointer).isSome = true ∧
        ¬ Canonical b.schema (g.node 2).pointer := by
  have hrun : (Bundle.ofSchema looseTildes {} .none).toOption.any (fun b =>
      (ofBundle b {}).toOption.any fun g =>
        decide ((g.node g.root).properties = [("a", 1), ("b", 2)]) &&
          decide (Pointer.split (g.node 1).pointer = Pointer.split (g.node 2).pointer) &&
          (Pointer.resolve? b.schema (g.node 1).pointer).isSome &&
          decide (¬ Canonical b.schema (g.node 2).pointer)) = true := by
    decide +kernel
  obtain ⟨b, hb, hrun⟩ := exists_ok_of_any hrun
  obtain ⟨g, hg, hchecks⟩ := exists_ok_of_any hrun
  simp only [Bool.and_eq_true, decide_eq_true_iff] at hchecks
  obtain ⟨⟨⟨hproperties, hsame⟩, hresolves⟩, hloose⟩ := hchecks
  exact ⟨by decide, b, g, hb, hg, hproperties, hsame, hresolves, hloose⟩

end SchemaGraph
end SchemaTypings
