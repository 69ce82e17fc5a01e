import SchemaTypings.Proofs.Linking
import SchemaTypings.Proofs.Pointers

/-! # Where linked nodes stand

Linking remembers the node of every place that it reaches.  The node of a place stands where the
bare references from there end: at the place itself, when its value is none.  This holds along the
whole walk, for nodes stay where they were made and every value is visited at its own pointer.
-/
namespace SchemaTypings

namespace SchemaGraph

open SchemaTypings.Bundle (EndsAt)

namespace Linked

/-- The place of a node. -/
def place (l : Linked) (id : SchemaId) : List String :=
  Pointer.split (l.nodes[id]?.getD { pointer := "" }).pointer

/-- Nodes stay, each in its place. -/
structure Stays (l m : Linked) : Prop where
  size : l.nodes.size ≤ m.nodes.size
  place : ∀ id < l.nodes.size, m.place id = l.place id

theorem Stays.refl (l : Linked) : l.Stays l := ⟨Nat.le_refl _, fun _ _ => rfl⟩

theorem Stays.trans {l m n : Linked} (hlm : l.Stays m) (hmn : m.Stays n) : l.Stays n where
  size := Nat.le_trans hlm.size hmn.size
  place := fun id hid =>
    (hmn.place id (Nat.lt_of_lt_of_le hid hlm.size)).trans (hlm.place id hid)

instance : IsPreorder Linked Stays where
  refl := .refl
  trans := fun _ _ _ => .trans

/-- **A node stands for a place**: it is at the end of the bare references from there. -/
structure StandsFor (root : Json) (l : Linked) (path : List String) (id : SchemaId) : Prop where
  lt : id < l.nodes.size
  place : ∀ last, EndsAt root path last → l.place id = last

theorem StandsFor.of_stays {root : Json} {l m : Linked} {path : List String} {id : SchemaId}
    (h : l.StandsFor root path id) (hstays : l.Stays m) : m.StandsFor root path id where
  lt := Nat.lt_of_lt_of_le h.lt hstays.size
  place := fun last hends => (hstays.place id h.lt).trans (h.place last hends)

/-- Every place that was reached has a node that stands for it. -/
def Placed (root : Json) (l : Linked) : Prop :=
  ∀ pointer id, l.byPointer.lookup pointer = some id → l.StandsFor root (Pointer.split pointer) id

/-- A change of anything but places keeps all nodes placed. -/
theorem Placed.of_stays {root : Json} {l m : Linked} (h : l.Placed root) (hstays : l.Stays m)
    (hplaces : m.byPointer = l.byPointer) : m.Placed root :=
  fun pointer id hid => (h pointer id (hplaces ▸ hid)).of_stays hstays

theorem stays_modifyNode (l : Linked) (id : SchemaId) {f : SchemaNode → SchemaNode}
    (hf : ∀ node, (f node).pointer = node.pointer) : l.Stays (l.modifyNode id f) where
  size := by simp [modifyNode]
  place := by
    intro other hother
    simp only [place, modifyNode, Array.getElem?_modify]
    by_cases hid : id = other
    · simp [hid, hother, hf]
    · simp [hid]

theorem stays_push (l : Linked) (node : SchemaNode) : l.Stays (l.push node) where
  size := by simp [push]
  place := by
    intro other hother
    simp only [place, push, Array.getElem?_push]
    rw [if_neg (Nat.ne_of_lt hother)]

theorem place_push (l : Linked) (node : SchemaNode) :
    (l.push node).place l.nodes.size = Pointer.split node.pointer := by
  simp [place, push]

end Linked

variable {root : Json}

/-- The promise of a visit: the node that it brings back stands for the place that was visited. -/
def Visit.Reaches (visit : Visit) (root : Json) : Prop :=
  ∀ pointer value origin l, Pointer.resolve? root pointer = some value → Linked.Placed root l →
    Yields (visit pointer value origin) l fun id m =>
      Linked.Placed root m ∧ Linked.Stays l m ∧ m.StandsFor root (Pointer.split pointer) id

/-- What every step of the walk keeps. -/
def KeepsPlaces (root : Json) {α : Type} (x : Linking α) : Prop :=
  ∀ l, Linked.Placed root l → Yields x l fun _ m => Linked.Placed root m ∧ Linked.Stays l m

/-! ### Keywords -/

theorem keepsPlaces_pure {α : Type} (a : α) : KeepsPlaces root (pure a : Linking α) :=
  fun l hl => yields_pure.2 ⟨hl, .refl l⟩

theorem keepsPlaces_iff {α : Type} {x : Linking α} :
    KeepsPlaces root x ↔ ∀ l, Keeps (fun m => Linked.Placed root m ∧ Linked.Stays l m) x :=
  keeps_above_iff.symm

theorem keepsPlaces_bind {α β : Type} {x : Linking α} {k : α → Linking β}
    (hx : KeepsPlaces root x) (hk : ∀ a, KeepsPlaces root (k a)) : KeepsPlaces root (x >>= k) :=
  keepsPlaces_iff.2 fun l =>
    keeps_bind (keepsPlaces_iff.1 hx l) fun a => keepsPlaces_iff.1 (hk a) l

theorem keepsPlaces_change (id : SchemaId) {f : SchemaNode → SchemaNode}
    (hf : ∀ node, (f node).pointer = node.pointer) : KeepsPlaces root (change id f) :=
  fun l hl => yields_modify.2 ⟨hl.of_stays (l.stays_modifyNode id hf) rfl, l.stays_modifyNode id hf⟩

theorem keepsPlaces_mapM {α β : Type} {f : α → Linking β} {as : List α}
    (hf : ∀ a ∈ as, KeepsPlaces root (f a)) : KeepsPlaces root (as.mapM f) :=
  keepsPlaces_iff.2 fun l => keeps_mapM fun a ha => keepsPlaces_iff.1 (hf a ha) l

theorem keepsPlaces_forM {α : Type} {f : α → Linking PUnit} {as : List α}
    (hf : ∀ a ∈ as, KeepsPlaces root (f a)) : KeepsPlaces root (as.forM f) :=
  keepsPlaces_iff.2 fun l => keeps_forM fun a ha => keepsPlaces_iff.1 (hf a ha) l

theorem Visit.Reaches.keepsPlaces {visit : Visit} (hvisit : visit.Reaches root) {pointer : String}
    {value : Json} (hvalue : Pointer.resolve? root pointer = some value) (origin : Origin) :
    KeepsPlaces root (visit pointer value origin) :=
  fun l hl => (hvisit pointer value origin l hvalue hl).mono fun _ _ ⟨hm, hlm, _⟩ => ⟨hm, hlm⟩

/-- One segment further. -/
theorem resolve?_build_snoc {base : String} (segments : List String) {value next : Json}
    {segment : String} (h : Pointer.resolve? root (Pointer.build base segments) = some value)
    (hstep : Pointer.step? value segment = some next) :
    Pointer.resolve? root (Pointer.build base (segments ++ [segment])) = some next := by
  unfold Pointer.resolve? at h ⊢
  rw [Pointer.split_build] at h ⊢
  rw [← List.append_assoc, Pointer.follow?_snoc h, hstep]

/-- **A keyword whose value stands at its pointer** is linked there. -/
theorem keepsPlaces_linkKeyword {visit : Visit} {base keyword : String}
    (hkeys : root.hasDistinctKeys = true) (hvisit : visit.Reaches root) (id : SchemaId)
    (hint : Option String) {value : Json}
    (hvalue : Pointer.resolve? root (Pointer.build base [keyword]) = some value) :
    KeepsPlaces root (linkKeyword visit id hint keyword value base) := by
  obtain ⟨calls, absorb, hlinks, heq⟩ := takesOnAt_linkKeyword id hint keyword value base
  rw [show linkKeyword visit id hint keyword value base = _ from heq visit, takeOn]
  refine keepsPlaces_bind (keepsPlaces_mapM fun call hcall => ?_) fun ids =>
    keepsPlaces_change id (hlinks.absorbs.pointer_eq ids)
  obtain ⟨-, -, -, hfound⟩ := hlinks.resolve? hkeys hvalue hcall
  exact hvisit.keepsPlaces hfound call.origin

/-! ### Nodes -/

/-- An entry to link stands at the pointer of the object that holds it. -/
def Stands (root : Json) (entry : String × Json × String) : Prop :=
  Pointer.resolve? root (Pointer.build entry.2.2 [entry.1]) = some entry.2.1

theorem mem_overlay {entries : Entries} {base : String} {object : Dict Json}
    {entry : String × Json × String} (h : entry ∈ entries.overlay base object) :
    entry ∈ entries ∨ ∃ own ∈ object, entry = (own.1, own.2, base) := by
  unfold Entries.overlay at h
  induction object generalizing entries with
  | nil => exact Or.inl h
  | cons own rest ih =>
    rw [List.foldl_cons] at h
    rcases ih h with hmem | ⟨other, hother, rfl⟩
    · rcases Dict.mem_insert hmem with hold | rfl
      · exact Or.inl hold
      · exact Or.inr ⟨own, List.mem_cons_self, rfl⟩
    · exact Or.inr ⟨other, List.mem_cons_of_mem _ hother, rfl⟩

/-- The entries of an object stand at its pointer. -/
theorem stands_of_mem (hkeys : root.hasDistinctKeys = true) {pointer : String} {object : Dict Json}
    (hvalue : Pointer.resolve? root pointer = some (.object object)) {own : String × Json}
    (hown : own ∈ object) : Stands root (own.1, own.2, pointer) := by
  have hnodup := (Json.hasDistinctKeys_object.1
    (Pointer.hasDistinctKeys_of_follow? hkeys hvalue)).1
  exact resolve?_build_snoc [] hvalue (Dict.get?_of_mem hnodup hown)

/-- **The keywords that are gathered** stand where they are linked, inherited ones at the target. -/
theorem yields_gather (hkeys : root.hasDistinctKeys = true) {id : SchemaId} {pointer : String}
    {object : Dict Json} (hvalue : Pointer.resolve? root pointer = some (.object object))
    {l : Linked} (hl : Linked.Placed root l) :
    Yields (gather root id pointer object) l fun entries m =>
      Linked.Placed root m ∧ Linked.Stays l m ∧ ∀ entry ∈ entries, Stands root entry := by
  have hown : ∀ {taken : Entries}, (∀ entry ∈ taken, Stands root entry) →
      ∀ entry ∈ ownEntries taken pointer object, Stands root entry := by
    intro taken htaken entry hentry
    have hmem := List.mem_of_mem_filter (List.mem_of_mem_filter hentry)
    rcases mem_overlay hmem with hold | ⟨own, hown, rfl⟩
    · exact htaken entry hold
    · exact stands_of_mem hkeys hvalue hown
  unfold gather
  split
  · exact yields_pure.2 ⟨hl, .refl l, hown fun _ h => nomatch h⟩
  · next taken target htaken =>
    refine yields_pure.2 ⟨hl, .refl l, hown ?_⟩
    obtain ⟨t, -, hsome⟩ := Option.map_eq_some_iff.1 htaken
    split at hsome
    · next other hother =>
      cases hsome
      obtain ⟨targetValue, htarget, hobject⟩ := Option.bind_eq_some_iff.1 hother
      cases targetValue with
      | object entries =>
        cases hobject
        intro entry hentry
        rcases mem_overlay hentry with hnone | ⟨own, hkept, rfl⟩
        · cases hnone
        · exact stands_of_mem hkeys htarget (List.mem_of_mem_filter hkept)
      | _ => cases hobject
    · cases hsome
  · next target _ =>
    refine yields_bind.2 ((keepsPlaces_change id
      (f := fun node => { node with unresolvedRef := some target }) (fun _ => rfl) l hl).mono
      fun _ m ⟨hm, hlm⟩ => yields_pure.2 ?_)
    exact ⟨hm, hlm, hown fun _ h => nomatch h⟩

/-- From a bare reference to its own place no chain leads anywhere. -/
theorem not_endsAt_of_self {path last : List String} {value : Json} {target : String}
    (hvalue : Pointer.follow? root path = some value)
    (hbare : Bundle.bareRef? value = some target) (hself : Pointer.split target = path) :
    ¬ EndsAt root path last := by
  intro h
  induction h with
  | here hvalue' hbare' =>
    rw [hvalue] at hvalue'
    cases hvalue'
    rw [hbare] at hbare'
    cases hbare'
  | next hvalue' hbare' _ ih =>
    rw [hvalue] at hvalue'
    cases hvalue'
    rw [hbare] at hbare'
    cases hbare'
    exact ih (hself ▸ hvalue) (by rw [hself])

/-- A new node stands for its own place, where no bare reference is. -/
theorem Linked.standsFor_push (l : Linked) {pointer : String} {value : Json}
    (hvalue : Pointer.resolve? root pointer = some value) (hbare : Bundle.bareRef? value = none)
    {node : SchemaNode} (hnode : node.pointer = pointer) :
    (l.push node).StandsFor root (Pointer.split pointer) l.nodes.size where
  lt := by simp [push]
  place := by
    intro last hends
    rw [place_push, hnode]
    cases hends with
    | here => rfl
    | next hvalue' hbare' =>
      cases hvalue.symm.trans hvalue'
      cases hbare.symm.trans hbare'

/-- Remembering a node for a place that it stands for. -/
theorem yields_register_of_standsFor {pointer : String} {id : SchemaId} {l : Linked}
    (hl : Linked.Placed root l) (hid : l.StandsFor root (Pointer.split pointer) id) :
    Yields (register pointer id) l fun _ m =>
      Linked.Placed root m ∧ Linked.Stays l m ∧ m.StandsFor root (Pointer.split pointer) id := by
  refine yields_modify.2 ?_
  split
  · exact ⟨hl, .refl l, hid⟩
  · refine ⟨?_, ⟨Nat.le_refl _, fun _ _ => rfl⟩, ⟨hid.lt, hid.place⟩⟩
    intro other found hfound
    rw [List.lookup_cons] at hfound
    split at hfound
    · next heq =>
      cases hfound
      rw [beq_iff_eq] at heq
      exact ⟨heq ▸ hid.lt, heq ▸ hid.place⟩
    · have hold := hl other found hfound
      exact ⟨hold.lt, hold.place⟩

theorem keepsPlaces_closeCycle (stack : List SchemaId) (id : SchemaId) :
    KeepsPlaces root (closeCycle stack id) := by
  refine keepsPlaces_iff.2 fun l => keeps_closeCycle (fun member => keepsPlaces_iff.1
    (keepsPlaces_change member (f := fun node => { node with cyclic := true }) fun _ => rfl) l) ?_
  rintro m members - ⟨hm, hlm⟩
  exact ⟨hm.of_stays ⟨Nat.le_refl _, fun _ _ => rfl⟩ rfl, hlm.size, hlm.place⟩

/-- What is below a node stands where it is linked. -/
theorem keepsPlaces_linkBelow (hkeys : root.hasDistinctKeys = true) {visit : Visit}
    (hvisit : visit.Reaches root) (id : SchemaId) {pointer : String} (hint : Option String)
    {value : Json} (hvalue : Pointer.resolve? root pointer = some value) :
    KeepsPlaces root (linkBelow visit root id pointer hint value) := by
  cases value with
  | object object =>
    intro l hl
    refine yields_bind.2 ((yields_gather hkeys hvalue hl).mono ?_)
    rintro entries m ⟨hm, hlm, hentries⟩
    refine (keepsPlaces_forM (fun entry hentry =>
      keepsPlaces_linkKeyword hkeys hvisit id hint (hentries entry hentry)) m hm).mono ?_
    rintro - n ⟨hn, hmn⟩
    exact ⟨hn, hlm.trans hmn⟩
  | _ => exact keepsPlaces_pure _

/-- An unresolved reference has a node of its own; no chain from its place ends. -/
theorem yields_addUnresolved {pointer target : String} {origin : Origin} {l : Linked}
    (hl : Linked.Placed root l) (hnone : ∀ last, ¬ EndsAt root (Pointer.split pointer) last) :
    Yields (addUnresolved pointer target origin) l fun id m =>
      Linked.Placed root m ∧ Linked.Stays l m ∧ m.StandsFor root (Pointer.split pointer) id := by
  refine yields_addNode _ ⟨hl.of_stays (l.stays_push _) rfl, l.stays_push _, ?_, ?_⟩
  · simp [Linked.push]
  · exact fun last hends => absurd hends (hnone last)

/-- **Every visit brings back a node that stands for the place visited.**  By induction on the
levels: a bare reference takes on the node of its target, and any other value has its own. -/
theorem reaches_linkNode (hkeys : root.hasDistinctKeys = true) (limit levels : Nat)
    (stack : List SchemaId) : Visit.Reaches (linkNode root limit levels stack) root := by
  induction levels generalizing stack with
  | zero => exact fun _ _ _ _ _ _ => yields_throw
  | succ levels ih =>
    intro pointer value origin l hvalue hl
    -- what stands for the place is remembered for it
    have hregister : ∀ id m, Linked.Placed root m ∧ Linked.Stays l m ∧
          m.StandsFor root (Pointer.split pointer) id →
        Yields (register pointer id) m fun _ n => Linked.Placed root n ∧ Linked.Stays l n ∧
          n.StandsFor root (Pointer.split pointer) id := by
      rintro id m ⟨hm, hlm, hid⟩
      refine (yields_register_of_standsFor hm hid).mono ?_
      rintro - n ⟨hn, hmn, hid⟩
      exact ⟨hn, hlm.trans hmn, hid⟩
    refine yields_linkNode ?follow ?lost ?again ?new
    case follow =>
      intro target targetValue hbare htarget _
      refine (ih stack target targetValue origin l htarget hl).mono ?_
      rintro id m ⟨hm, hlm, hid⟩
      exact hregister id m ⟨hm, hlm, hid.lt, fun last hends =>
        hid.place last (hends.of_bareRef hvalue hbare)⟩
    case lost =>
      intro target hbare hlost
      refine (yields_addUnresolved hl fun last hends => ?_).mono hregister
      rcases hlost with hnone | rfl
      · obtain ⟨missing, hmissing⟩ := (hends.of_bareRef hvalue hbare).exists_start
        cases hnone.symm.trans hmissing
      · exact not_endsAt_of_self hvalue hbare rfl hends
    case again =>
      intro id _ hid
      refine (keepsPlaces_closeCycle stack id l hl).mono ?_
      rintro - m ⟨hm, hlm⟩
      refine (keepsPlaces_change id (f := adopt origin) (fun _ => rfl) m hm).mono ?_
      rintro - n ⟨hn, hmn⟩
      exact ⟨hn, hlm.trans hmn, (hl pointer id hid).of_stays (hlm.trans hmn)⟩
    case new =>
      intro hbare _
      refine (yields_register_of_standsFor (hl.of_stays (l.stays_push _) rfl)
        (l.standsFor_push hvalue hbare rfl)).mono ?_
      rintro - m ⟨hm, hlm, hid⟩
      refine (keepsPlaces_linkBelow hkeys (ih _) _ origin.hint hvalue m hm).mono ?_
      rintro - n ⟨hn, hmn⟩
      exact ⟨hn, (l.stays_push _).trans (hlm.trans hmn), hid.of_stays hmn⟩

end SchemaGraph
end SchemaTypings
