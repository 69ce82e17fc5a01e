import SchemaTypings.Proofs.LinkedDocument
import SchemaTypings.Proofs.Visits

/-! # Schemas that define a key twice

The two keywords for definitions share a field of a node, so a schema that has a key under both of
them keeps one of the two definitions.  Whether a schema does is a matter of what it says in the
end: its own keywords over those of the object to which its reference leads.
-/
namespace SchemaTypings

namespace Dict

variable {α : Type}

/-- What is written over a dictionary is found before what was there. -/
theorem get?_extend {d other : Dict α} (hother : other.keys.Nodup) (key : String) :
    (d.extend other).get? key = (other.get? key).or (d.get? key) := by
  induction other generalizing d with
  | nil => rfl
  | cons entry rest ih =>
    obtain ⟨k, v⟩ := entry
    obtain ⟨hnot, hrest⟩ := List.nodup_cons.1 hother
    have hstep : d.extend ((k, v) :: rest) = (d.insert k v).extend rest := rfl
    rw [hstep, ih hrest, get?_cons]
    split
    · next heq =>
      subst heq
      rw [get?_eq_none_of_not_mem hnot, get?_insert_self]
      rfl
    · next hne => rw [get?_insert_of_ne d v hne]

end Dict

namespace Json

mutual

/-- **Whether every object in a value passes a test.** -/
def everyObject (p : Dict Json → Bool) : Json → Bool
  | .array items => everyObjectOfItems p items
  | .object entries => p entries && everyObjectOfEntries p entries
  | _ => true

/-- Whether every object in the items of an array passes a test. -/
def everyObjectOfItems (p : Dict Json → Bool) : List Json → Bool
  | [] => true
  | item :: rest => everyObject p item && everyObjectOfItems p rest

/-- Whether every object in the values of an object passes a test. -/
def everyObjectOfEntries (p : Dict Json → Bool) : List (String × Json) → Bool
  | [] => true
  | (_, value) :: rest => everyObject p value && everyObjectOfEntries p rest

end

variable {p : Dict Json → Bool}

theorem everyObject_of_mem_items {items : List Json} (h : everyObjectOfItems p items = true) :
    ∀ item ∈ items, everyObject p item = true := by
  induction items with
  | nil => exact fun item hitem => absurd hitem List.not_mem_nil
  | cons first rest ih =>
    rw [everyObjectOfItems, Bool.and_eq_true] at h
    exact List.forall_mem_cons.2 ⟨h.1, ih h.2⟩

theorem everyObject_of_mem_entries {entries : Dict Json}
    (h : everyObjectOfEntries p entries = true) :
    ∀ entry ∈ entries, everyObject p entry.2 = true := by
  induction entries with
  | nil => exact fun entry hentry => absurd hentry List.not_mem_nil
  | cons first rest ih =>
    rw [everyObjectOfEntries, Bool.and_eq_true] at h
    exact List.forall_mem_cons.2 ⟨h.1, ih h.2⟩

/-- The objects in a value are those that are within it. -/
theorem Within.of_everyObject {root : Json} {object : Dict Json}
    (h : root.Within (.object object)) (hall : everyObject p root = true) : p object = true := by
  generalize hvalue : Json.object object = value at h
  induction h with
  | self =>
    subst hvalue
    rw [everyObject, Bool.and_eq_true] at hall
    exact hall.1
  | item hitem _ ih =>
    rw [everyObject] at hall
    exact ih (everyObject_of_mem_items hall _ hitem) hvalue
  | entry hentry _ ih =>
    rw [everyObject, Bool.and_eq_true] at hall
    exact ih (everyObject_of_mem_entries hall.2 _ hentry) hvalue

end Json

namespace SchemaGraph

variable {root : Json} {pointer : String} {object : Dict Json}

/-! ### What is said in the end -/

/-- The object to which the reference of an object leads; empty if there is none. -/
def referred (root : Json) (object : Dict Json) : Dict Json :=
  ((Bundle.reference? object).bind fun target =>
    (Pointer.resolve? root target).bind Json.object?).getD []

/-- **The keywords of an object over those of the object to which its reference leads.** -/
def overlaid (root : Json) (object : Dict Json) : Dict Json :=
  (referred root object).extend object

/-- **No schema has a key under both keywords for definitions**, also together with what it takes
from the target of its reference. -/
def definesOnceOverlaid (root : Json) : Bool :=
  root.everyObject fun object => definesApart (overlaid root object)

/-- What is referred to is empty, or an object of the document. -/
theorem referred_eq_nil_or (root : Json) (object : Dict Json) :
    (referred root object = [] ∧ heritage root object = []) ∨ ∃ target,
      Pointer.resolve? root target = some (.object (referred root object)) ∧ heritage root object =
        (Entries.of target (referred root object)).filter fun entry => isInherited entry.1 := by
  cases hreference : Bundle.reference? object with
  | none => exact .inl ⟨by rw [referred, hreference]; rfl, by rw [heritage, hreference]⟩
  | some target =>
    have hreferred : referred root object =
        ((Pointer.resolve? root target).bind Json.object?).getD [] := by
      rw [referred, hreference, Option.bind_some]
    cases hother : Pointer.resolve? root target with
    | none =>
      rw [hother] at hreferred
      exact .inl ⟨hreferred, by simp only [heritage, hreference, hother, Option.bind_none]⟩
    | some other =>
      rw [hother, Option.bind_some] at hreferred
      cases other with
      | object entries =>
        obtain rfl : referred root object = entries := hreferred
        exact .inr ⟨target, hother, heritage_eq hreference hother⟩
      | _ =>
        exact .inl ⟨hreferred, by
          simp only [heritage, hreference, hother, Option.bind_some, Json.object?]⟩

theorem nodup_keys_referred (hkeys : root.hasDistinctKeys = true) (object : Dict Json) :
    (referred root object).keys.Nodup := by
  rcases referred_eq_nil_or root object with ⟨hnil, -⟩ | ⟨target, htarget, -⟩
  · rw [hnil]
    exact List.nodup_nil
  · exact nodup_keys_of_resolve? hkeys htarget

theorem get?_entriesOf (base : String) (object : Dict Json) (key : String) :
    Dict.get? (Entries.of base object) key = (object.get? key).map fun value => (value, base) := by
  induction object with
  | nil => rfl
  | cons entry rest ih =>
    obtain ⟨k, v⟩ := entry
    rw [Entries.of, List.map_cons, Dict.get?_cons, Dict.get?_cons]
    split
    · rfl
    · exact ih

/-- What a schema says in the end of a keyword that it may inherit is its own, or what is referred
to says it. -/
theorem get?_overlaid_of_mem_contents (hkeys : root.hasDistinctKeys = true)
    (hobject : object.keys.Nodup) {entry : String × Json × String}
    (h : entry ∈ contents root pointer (.object object)) (hentry : isInherited entry.1 = true) :
    (overlaid root object).get? entry.1 = some entry.2.1 := by
  have hlinked : isLinked entry.1 = true := (Bool.and_eq_true_iff.1 hentry).1
  rw [overlaid, Dict.get?_extend hobject]
  rcases List.mem_append.1 h with h | h
  · obtain ⟨taken, htaken, rfl⟩ := List.mem_map.1 h
    rcases referred_eq_nil_or root object with ⟨-, hnil⟩ | ⟨target, -, heq⟩
    · rw [hnil] at htaken
      cases htaken
    · rw [heq] at htaken
      obtain ⟨said, hsaid, rfl⟩ := List.mem_map.1 (List.mem_of_mem_filter htaken)
      rw [Dict.get?_filter, if_pos hlinked, get?_entriesOf,
        Dict.get?_of_mem (nodup_keys_referred hkeys object) hsaid]
      cases object.get? said.1 <;> rfl
  · obtain ⟨own, hown, rfl⟩ := List.mem_map.1 (List.mem_of_mem_filter (List.mem_of_mem_filter h))
    rw [Dict.get?_of_mem hobject hown]
    rfl

/-- What a schema says in the end is said within the document. -/
theorem within_of_mem_contents {value : Json} (hvalue : root.Within value)
    {entry : String × Json × String} (h : entry ∈ contents root pointer value) :
    root.Within entry.2.1 := by
  cases value with
  | object object =>
    rcases own_or_taken_of_mem_contents h with ⟨-, hmem⟩ | ⟨other, -, hother, hmem⟩
    · exact hvalue.trans (.entry hmem (.self _))
    · exact (Pointer.within_of_follow? hother).trans (.entry hmem (.self _))
  | _ => cases h

/-! ### Keywords one after the other -/

/-- A keyword takes nothing away from another one: it is another keyword, and if both are for
definitions, they have no key in common. -/
structure Spares (said later : String × Json × String) : Prop where
  keyword : said.1 ≠ later.1
  definitions : isDefinitions said.1 = true → isDefinitions later.1 = true →
    ∀ entries others : Dict Json, said.2.1 = .object entries → later.2.1 = .object others →
      ∀ key ∈ entries.keys, key ∉ others.keys

/-- A later keyword of a schema is still to be said after an earlier one that spares it. -/
theorem Unsaid.absorb {said later : String × Json × String} {n : SchemaNode}
    (h : Unsaid later.1 later.2.1 n) (hspares : Spares said later) {count : Nat}
    {absorb : List SchemaId → SchemaNode → SchemaNode}
    (habsorbs : Absorbs said.1 said.2.1 count absorb) (ids : List SchemaId) :
    Unsaid later.1 later.2.1 (absorb ids n) where
  field := by
    intro field hfield
    rw [habsorbs.get_eq ids n fun heq => hspares.keyword (heq.symm.trans hfield)]
    exact h.field field hfield
  definitions := by
    intro hlater others hothers key hkey hmem
    rcases habsorbs.mem_keys_definitions hmem with hold | ⟨hsaid, entries, hentries, hnew⟩
    · exact h.definitions hlater others hothers key hkey hold
    · exact hspares.definitions hsaid hlater entries others hentries hothers key hnew hkey

/-- The keys under the two keywords for definitions are different ones. -/
theorem definesApart_spec {d entries others : Dict Json} (h : definesApart d = true)
    (hdefinitions : d.get? "definitions" = some (.object entries))
    (hdefs : d.get? "$defs" = some (.object others)) : ∀ key ∈ entries.keys, key ∉ others.keys := by
  intro key hkey hmem
  obtain ⟨entry, hentry, rfl⟩ := List.mem_map.1 hkey
  rw [definesApart, hdefinitions, hdefs] at h
  have hnot := List.all_eq_true.1 h entry hentry
  rw [Bool.not_eq_true', Bool.eq_false_iff, Ne, Dict.contains_iff_mem_keys] at hnot
  exact hnot hmem

theorem isDefinitions_iff {keyword : String} : isDefinitions keyword = true ↔
    keyword = "definitions" ∨ keyword = "$defs" := by
  rw [isDefinitions, Bool.or_eq_true, decide_eq_true_iff, decide_eq_true_iff]

/-- **The keywords of a schema spare each other**, where it defines nothing twice. -/
theorem pairwise_spares_contents (hkeys : root.hasDistinctKeys = true)
    (hobject : object.keys.Nodup) (hapart : definesApart (overlaid root object) = true) :
    (contents root pointer (.object object)).Pairwise Spares := by
  have hnodup : (contents root pointer (.object object)).keys.Nodup :=
    nodup_keys_contents_object hkeys hobject
  rw [Dict.keys, List.nodup_iff_pairwise_ne, List.pairwise_map] at hnodup
  refine hnodup.imp_of_mem fun {said later} hsaid hlater hne => ⟨hne, ?_⟩
  intro hsaidDefines hlaterDefines entries others hentries hothers
  have hget : ∀ entry ∈ contents root pointer (.object object), isDefinitions entry.1 = true →
      (overlaid root object).get? entry.1 = some entry.2.1 := by
    intro entry hentry hdefines
    refine get?_overlaid_of_mem_contents hkeys hobject hentry ?_
    rcases isDefinitions_iff.1 hdefines with heq | heq <;> rw [heq] <;> decide
  have hfirst := hget said hsaid hsaidDefines
  have hsecond := hget later hlater hlaterDefines
  rw [hentries] at hfirst
  rw [hothers] at hsecond
  rcases isDefinitions_iff.1 hsaidDefines with hsaidKey | hsaidKey <;>
    rcases isDefinitions_iff.1 hlaterDefines with hlaterKey | hlaterKey
  · exact absurd (hsaidKey.trans hlaterKey.symm) hne
  · exact definesApart_spec hapart (hsaidKey ▸ hfirst) (hlaterKey ▸ hsecond)
  · exact fun key hkey hmem =>
      definesApart_spec hapart (hlaterKey ▸ hsecond) (hsaidKey ▸ hfirst) key hmem hkey
  · exact absurd (hsaidKey.trans hlaterKey.symm) hne

end SchemaGraph
end SchemaTypings
