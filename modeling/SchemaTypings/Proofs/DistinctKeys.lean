import SchemaTypings.Proofs.ItemBounds
import SchemaTypings.Proofs.MetPlaces
import SchemaTypings.Proofs.Redefinitions

/-! # Properties with distinct keys

The keys of an object in a document are distinct.  Linking makes the properties of a schema from one
object, so that they have its keys, whatever has been linked before.  Rules for keys give many keys
one form; then the first property of each form stays.
-/
namespace SchemaTypings

namespace Dict

/-- As many keys as there are values for. -/
theorem nodup_keys_zip {α β : Type} {d : Dict α} (h : d.keys.Nodup) (values : List β) :
    (Dict.keys (d.keys.zip values)).Nodup := by
  have hsublist : ∀ (ks : List String) (values : List β),
      ((ks.zip values).map Prod.fst).Sublist ks := by
    intro ks
    induction ks with
    | nil => exact fun _ => List.nil_sublist _
    | cons k ks ih =>
      intro values
      cases values with
      | nil => exact List.nil_sublist _
      | cons value values => exact (ih values).cons_cons k
  exact h.sublist (hsublist d.keys values)

end Dict

namespace SchemaNode

/-- **No property of a schema has the key of another.** -/
def DistinctProperties (n : SchemaNode) : Prop := n.properties.keys.Nodup

theorem DistinctProperties.of_eq {n m : SchemaNode} (hm : m.DistinctProperties)
    (h : n.properties = m.properties) : n.DistinctProperties := by
  rw [DistinctProperties, h]
  exact hm

/-! ### Normalizing -/

/-- **Rewritten keys are distinct**: the first property of each canonical key stays. -/
theorem nodup_keys_canonicalProperties (rules : List KeyRule) (properties : Dict SchemaId) :
    (canonicalProperties rules properties).keys.Nodup := by
  refine List.foldlRecOn (motive := fun done : Dict SchemaId => done.keys.Nodup) properties _
    List.nodup_nil fun done hdone entry _ => ?_
  dsimp only
  split
  · exact hdone
  · exact Dict.nodup_keys_insert hdone _ _

section Kept

variable (n : SchemaNode)

theorem properties_withDescriptions (kept : Bool) :
    (n.withDescriptions kept).properties = n.properties := by
  unfold withDescriptions
  split <;> rfl

theorem properties_escapeDescription : n.escapeDescription.properties = n.properties := by
  unfold escapeDescription
  split <;> rfl

theorem properties_dropNullType : n.dropNullType.properties = n.properties := by
  unfold dropNullType
  split <;> rfl

theorem properties_constantAsEnum : n.constantAsEnum.properties = n.properties := by
  unfold constantAsEnum
  split <;> rfl

theorem properties_defaultAdditionalProperties (value : Bool) :
    (n.defaultAdditionalProperties value).properties = n.properties := by
  unfold defaultAdditionalProperties
  split <;> rfl

theorem properties_tagBounds : n.tagBounds.properties = n.properties := by
  unfold tagBounds
  split <;> rfl

theorem properties_normalizeBounds (kept : Bool) (o : Options) :
    (n.normalizeBounds kept o).properties = n.properties := by
  have hitems : ∀ m : SchemaNode, m.withoutItems.properties = m.properties := fun _ => rfl
  rw [← hitems, withoutItems_normalizeBounds, hitems]
  split
  · exact n.properties_tagBounds
  · rfl

end Kept

theorem DistinctProperties.canonicalizeKeys {n : SchemaNode} (h : n.DistinctProperties)
    (rules : List KeyRule) : (n.canonicalizeKeys rules).DistinctProperties := by
  have hnodup := nodup_keys_canonicalProperties rules n.properties
  unfold SchemaNode.canonicalizeKeys
  split
  · exact h
  · unfold canonicalKeyName canonicalRequired
    split <;> split <;> exact hnodup

/-- **Normal schemas have distinct properties**, if they had before. -/
theorem DistinctProperties.normalize {n : SchemaNode} (h : n.DistinctProperties) (o : Options)
    (isRoot : Bool) : (n.normalize o isRoot).DistinctProperties := by
  have hprepared : (n.prepared o isRoot).DistinctProperties := by
    refine DistinctProperties.of_eq ?_ (properties_defaultAdditionalProperties _ _)
    refine DistinctProperties.canonicalizeKeys ?_ o.keyRules
    refine h.of_eq ?_
    rw [properties_constantAsEnum, properties_dropNullType, properties_escapeDescription,
      properties_withDescriptions]
  rw [normalize_eq]
  split
  · exact hprepared.of_eq (properties_normalizeBounds _ _ o)
  · exact hprepared

end SchemaNode

namespace SchemaGraph

open SchemaTypings.Bundle (bareRef?)

/-! ### Linking -/

/-- All nodes so far have distinct properties. -/
def Distinct (l : Linked) : Prop := ∀ id, (nodeAt l.nodes id).DistinctProperties

theorem distinct_start : Distinct ⟨#[], [], []⟩ := fun _ => List.nodup_nil

theorem Distinct.modifyNode {l : Linked} (h : Distinct l) (id : SchemaId)
    {f : SchemaNode → SchemaNode} (hf : ∀ n, n.DistinctProperties → (f n).DistinctProperties) :
    Distinct (l.modifyNode id f) := by
  intro other
  rw [nodeAt_modifyNode]
  split
  · exact hf _ (h other)
  · exact h other

theorem distinct_change (id : SchemaId) {f : SchemaNode → SchemaNode}
    (hf : ∀ n, n.DistinctProperties → (f n).DistinctProperties) : Keeps Distinct (change id f) :=
  fun _ hl => yields_modify.2 (hl.modifyNode id hf)

/-- A node without properties may be added. -/
theorem Distinct.push {l : Linked} (h : Distinct l) {node : SchemaNode}
    (hnode : node.properties = []) : Distinct (l.push node) := by
  intro id
  rw [nodeAt_push_eq]
  split
  · rw [SchemaNode.DistinctProperties, hnode]
    exact List.nodup_nil
  · exact h id

theorem distinct_register (pointer : String) (id : SchemaId) :
    Keeps Distinct (register pointer id) := keeps_register fun _ hl _ => hl

theorem distinct_closeCycle (stack : List SchemaId) (id : SchemaId) :
    Keeps Distinct (closeCycle stack id) :=
  keeps_closeCycle (fun member => distinct_change member fun _ hn => hn) fun _ _ _ hl => hl

/-- **A keyword gives a schema distinct properties**, if the keys in its value are distinct. -/
theorem distinct_linkKeyword {visit : Visit} {value : Json} (hkeys : value.hasDistinctKeys = true)
    (hvisit : ∀ pointer child origin, value.Within child →
      Keeps Distinct (visit pointer child origin))
    (id : SchemaId) (hint : Option String) (keyword base : String) :
    Keeps Distinct (linkKeyword visit id hint keyword value base) := by
  by_cases hkeyword : keyword = "properties"
  · subst hkeyword
    cases value with
    | object entries =>
      have hentries := (Json.hasDistinctKeys_object.1 hkeys).1
      rw [linkKeyword]
      simp only [linkNamed_eq, bind_assoc, pure_bind]
      refine keeps_bind (keeps_mapM fun call hcall => hvisit _ _ _ (within_of_mem_namedCalls hcall))
        fun ids => distinct_change id fun _ _ => ?_
      exact Dict.nodup_keys_zip hentries ids
    | _ => exact keeps_pure _
  · obtain ⟨calls, absorb, hlinks, heq⟩ := takesOn_linkKeyword id hint keyword value base
    rw [show linkKeyword visit id hint keyword value base = _ from heq visit, takeOn]
    refine keeps_bind (keeps_mapM fun call hcall => hvisit _ _ _ (hlinks.within call hcall))
      fun ids => distinct_change id fun n hn => hn.of_eq ?_
    have hne : Field.properties.keyword ≠ keyword := fun h => hkeyword h.symm
    exact hlinks.absorbs.get_eq ids n hne

/-- What is below a node of a document with distinct keys. -/
theorem distinct_linkBelow {root : Json} (hroot : root.hasDistinctKeys = true) {visit : Visit}
    (hvisit : ∀ pointer child origin, root.Within child →
      Keeps Distinct (visit pointer child origin))
    (id : SchemaId) (pointer : String) (hint : Option String) {value : Json}
    (hvalue : root.Within value) : Keeps Distinct (linkBelow visit root id pointer hint value) := by
  intro l hl
  refine yields_linkBelow_of_contents hroot (hvalue.hasDistinctKeys hroot) fun m hm => ?_
  have hdistinct : Distinct m := by
    rcases hm with rfl | ⟨target, rfl⟩
    · exact hl
    · exact hl.modifyNode id fun _ hn => hn
  refine keeps_forM (fun entry hentry => ?_) m hdistinct
  have hwithin := within_of_mem_contents hvalue hentry
  exact distinct_linkKeyword (hwithin.hasDistinctKeys hroot) (fun _ _ _ hchild =>
    hvisit _ _ _ (hwithin.trans hchild)) id hint entry.1 entry.2.2

/-- **Every visit keeps properties distinct**, by induction on the levels. -/
theorem distinct_linkNode {root : Json} (hroot : root.hasDistinctKeys = true) (limit levels : Nat)
    (stack : List SchemaId) (pointer : String) {value : Json} (hvalue : root.Within value)
    (origin : Origin) : Keeps Distinct (linkNode root limit levels stack pointer value origin) := by
  induction levels generalizing stack pointer value origin with
  | zero => exact fun _ _ => yields_throw
  | succ levels ih =>
    intro l hl
    refine yields_linkNode ?follow ?lost ?again ?new
    case follow =>
      intro target targetValue _ htarget _
      exact (ih stack target (Pointer.within_of_follow? htarget) origin l hl).mono
        fun id => distinct_register pointer id
    case lost =>
      intro target _ _
      exact yields_addNode _ (distinct_register pointer _ _ (hl.push rfl))
    case again =>
      intro id _ _
      exact (distinct_closeCycle stack id l hl).mono fun _ =>
        distinct_change id (f := adopt origin) fun _ hn => hn
    case new =>
      intro _ _
      exact (distinct_register pointer _ _ (hl.push rfl)).mono fun _ =>
        distinct_linkBelow hroot (fun _ _ _ hchild => ih _ _ hchild _) _ pointer origin.hint hvalue

/-- **The schemas of a linked graph have distinct properties.** -/
theorem distinctProperties_of_ofBundle {b : Bundle} {o : Options} {g : SchemaGraph}
    (hkeys : b.schema.hasDistinctKeys = true) (h : ofBundle b o = .ok g) (id : SchemaId) :
    (g.node id).DistinctProperties := by
  obtain ⟨⟨root, l⟩, hrun, heq⟩ := bind_eq_ok_iff.1 h
  cases heq
  exact distinct_linkNode hkeys o.maxDepth (o.maxDepth + 1) [] "#" (.self _) {} _ distinct_start _ _
    hrun id

/-- **The schemas of a normal graph have distinct properties**, where no document has an object with
a key twice. -/
theorem distinctProperties_normalize {schema : Json} {o : Options} {source : DocumentSource}
    (hschema : schema.hasDistinctKeys = true)
    (hsource : ∀ uri value, source.fetch uri = .ok value → value.hasDistinctKeys = true)
    {g : SchemaGraph} (hgraph : linkedGraph schema o source = .ok g) (name : String) (id : SchemaId) :
    ((g.normalize name o).node id).DistinctProperties := by
  obtain ⟨b, hbundle, hlinked⟩ := bind_eq_ok_iff.1 hgraph
  obtain ⟨-, -, lib, whole, -, -, hlib⟩ := Library.exists_of_ofSchema hschema hsource hbundle
  have hlinks := distinctProperties_of_ofBundle (hlib.alike.hasDistinctKeys hlib.keys) hlinked
  exact node_normalize_induction List.nodup_nil
    (fun id => (hlinks id).normalize o (id = g.root)) (fun _ _ h => h) name id

end SchemaGraph
end SchemaTypings
