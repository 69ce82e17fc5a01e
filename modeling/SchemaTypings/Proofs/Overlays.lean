import SchemaTypings.Proofs.LinkedPlaces

/-! # What a schema says in the end

A schema beside a reference says what its target says, but for what it says itself.  Linking writes
its keywords over those of the target, one after the other; `contents` says what comes of it: every
keyword of the target keeps its place, with the value that the schema itself gives it if there is
one, and the other keywords of the schema follow.
-/
namespace SchemaTypings

namespace Dict

variable {α : Type}

theorem insert_of_mem {d : Dict α} {key : String} (hnodup : d.keys.Nodup) (h : key ∈ d.keys)
    (value : α) : d.insert key value =
      d.map fun entry => (entry.1, if entry.1 = key then value else entry.2) := by
  induction d with
  | nil => cases h
  | cons entry rest ih =>
    rw [keys, List.map_cons] at hnodup h
    obtain ⟨hnot, hrest⟩ := List.nodup_cons.1 hnodup
    rw [insert, List.map_cons]
    by_cases heq : entry.1 = key
    · subst heq
      have hsame : rest.map (fun other => (other.1, if other.1 = entry.1 then value else other.2)) =
          rest := by
        conv_rhs => rw [← List.map_id rest]
        refine List.map_congr_left fun other hother => ?_
        have hne : other.1 ≠ entry.1 := fun heq => hnot (heq ▸ List.mem_map_of_mem hother)
        rw [if_neg hne]
        rfl
      rw [if_pos rfl, if_pos rfl, hsame]
    · rw [if_neg heq, if_neg heq, ih hrest ((List.mem_cons.1 h).resolve_left fun h => heq h.symm)]

/-- **Writing one dictionary over another**: keys that are known keep their place and take on the
new value, and the others follow. -/
theorem extend_eq {d other : Dict α} (hd : d.keys.Nodup) (hother : other.keys.Nodup) :
    d.extend other =
      d.map (fun entry => (entry.1, (other.get? entry.1).getD entry.2)) ++
        other.filter fun entry => !d.contains entry.1 := by
  induction other generalizing d with
  | nil => simp [extend]
  | cons entry rest ih =>
    obtain ⟨key, value⟩ := entry
    obtain ⟨hnot, hrest⟩ := List.nodup_cons.1 hother
    have hnone : Dict.get? rest key = none := get?_eq_none_of_not_mem hnot
    have hstep : d.extend ((key, value) :: rest) = (d.insert key value).extend rest := rfl
    rw [hstep, ih (nodup_keys_insert hd key value) hrest]
    by_cases hkey : key ∈ d.keys
    · have hcontains : d.contains key = true := (contains_iff_mem_keys d key).2 hkey
      have hsame : ∀ other : String, (d.insert key value).contains other = d.contains other := by
        intro other
        rw [Bool.eq_iff_iff, contains_iff_mem_keys, contains_iff_mem_keys, keys_insert, if_pos hkey]
      rw [List.filter_cons, if_neg (by simp [hcontains])]
      simp only [hsame]
      rw [insert_of_mem hd hkey, List.map_map]
      congr 1
      refine List.map_congr_left fun other _ => ?_
      by_cases heq : other.1 = key
      · simp [heq, hnone, get?]
      · simp [get?, Ne.symm heq]
        simp [heq]
    · have hcontains : d.contains key = false := by
        rw [Bool.eq_false_iff, Ne, contains_iff_mem_keys]
        exact hkey
      rw [insert_of_not_mem hkey, List.map_append, List.filter_cons, if_pos (by simp [hcontains]),
        List.append_assoc]
      congr 1
      · refine List.map_congr_left fun other hmem => ?_
        have hne : key ≠ other.1 := fun heq => hkey (heq ▸ List.mem_map_of_mem hmem)
        rw [get?_cons, if_neg hne]
      · have hfilter : rest.filter (fun entry => !Dict.contains (d ++ [(key, value)]) entry.1) =
            rest.filter fun entry => !d.contains entry.1 := by
          refine List.filter_congr fun other hmem => ?_
          have hne : key ≠ other.1 := by
            rintro rfl
            exact hnot (List.mem_map.2 ⟨other, hmem, rfl⟩)
          simp [contains, hne]
        simp [hnone, hfilter]

/-- Leaving out keys leaves the others alone. -/
theorem get?_filter (d : Dict α) (p : String → Bool) (key : String) :
    Dict.get? (d.filter fun entry => p entry.1) key = if p key then d.get? key else none := by
  induction d with
  | nil => simp
  | cons entry rest ih =>
    obtain ⟨k, v⟩ := entry
    rw [List.filter_cons, get?_cons]
    by_cases hp : p k
    · rw [if_pos hp, get?_cons, ih]
      by_cases heq : k = key
      · subst heq
        simp [hp]
      · simp [heq]
    · rw [if_neg hp, ih]
      by_cases heq : k = key
      · subst heq
        simp [hp]
      · simp [heq]

theorem contains_filter (d : Dict α) (p : String → Bool) (key : String) :
    Dict.contains (d.filter fun entry => p entry.1) key = (p key && d.contains key) := by
  rw [Bool.eq_iff_iff]
  simp only [contains, List.any_eq_true, List.mem_filter, Bool.and_eq_true, decide_eq_true_iff]
  constructor
  · rintro ⟨entry, ⟨hmem, hp⟩, rfl⟩
    exact ⟨hp, entry, hmem, rfl⟩
  · rintro ⟨hp, entry, hmem, rfl⟩
    exact ⟨entry, ⟨hmem, hp⟩, rfl⟩

end Dict

namespace SchemaGraph

/-- The keywords of an object, each with the pointer of the object. -/
def Entries.of (base : String) (object : Dict Json) : Entries :=
  object.map fun entry => (entry.1, entry.2, base)

/-- Whether a keyword is linked: it is neither the reference nor the bundled documents. -/
def isLinked (keyword : String) : Bool := keyword ≠ Keyword.ref && keyword ≠ Keyword.external

/-- Whether a schema takes a keyword from the target of its reference. -/
def isInherited (keyword : String) : Bool :=
  isLinked keyword && (keyword ≠ "title" && keyword ≠ "$id")

/-- What a schema takes from the target of its reference. -/
def heritage (root : Json) (object : Dict Json) : Entries :=
  match Bundle.reference? object with
  | none => []
  | some target =>
    match (Pointer.resolve? root target).bind Json.object? with
    | none => []
    | some other => (Entries.of target other).filter fun entry => isInherited entry.1

/-- **What the schema at a pointer says in the end**: each keyword with the pointer of the object
that holds it. -/
def contents (root : Json) (pointer : String) : Json → Entries
  | .object object =>
    let own := (Entries.of pointer object).filter fun entry => isLinked entry.1
    let taken := heritage root object
    taken.map (fun entry => (entry.1, (Dict.get? own entry.1).getD entry.2)) ++
      own.filter fun entry => !Dict.contains taken entry.1
  | _ => []

theorem Entries.keys_of (base : String) (object : Dict Json) :
    Dict.keys (Entries.of base object) = object.keys := by
  simp [Dict.keys, Entries.of, Function.comp_def]

theorem Entries.overlay_eq (entries : Entries) (base : String) (object : Dict Json) :
    entries.overlay base object = Dict.extend entries (Entries.of base object) := by
  rw [overlay, Dict.extend, Entries.of, List.foldl_map]

/-- What is linked, where the keywords that are taken on are known. -/
theorem ownEntries_eq {taken : Entries} {pointer : String} {object : Dict Json}
    (htaken : taken.keys.Nodup) (hobject : object.keys.Nodup) :
    ownEntries taken pointer object =
      (taken.filter fun entry => isLinked entry.1).map (fun entry =>
        (entry.1, (Dict.get? ((Entries.of pointer object).filter fun own => isLinked own.1)
          entry.1).getD entry.2)) ++
      ((Entries.of pointer object).filter fun entry => isLinked entry.1).filter fun entry =>
        !Dict.contains (taken.filter fun entry => isLinked entry.1) entry.1 := by
  have herase : ∀ entries : Entries, (entries.erase Keyword.ref).erase Keyword.external =
      entries.filter fun entry => isLinked entry.1 := by
    intro entries
    rw [Dict.erase, Dict.erase, List.filter_filter]
    refine List.filter_congr fun entry _ => ?_
    rw [isLinked, Bool.and_comm]
  rw [ownEntries, herase, Entries.overlay_eq,
    Dict.extend_eq htaken (by rw [Entries.keys_of]; exact hobject), List.filter_append]
  congr 1
  · rw [List.filter_map]
    refine List.map_congr_left fun entry hentry => ?_
    have hlinked : isLinked entry.1 = true := (List.mem_filter.1 hentry).2
    rw [Dict.get?_filter, if_pos hlinked]
  · rw [List.filter_filter, List.filter_filter]
    refine List.filter_congr fun entry _ => ?_
    rw [Dict.contains_filter]
    cases isLinked entry.1 <;> simp

variable {root : Json}

/-- The keys of an object in a document are distinct. -/
theorem nodup_keys_of_resolve? (hkeys : root.hasDistinctKeys = true) {pointer : String}
    {object : Dict Json} (hvalue : Pointer.resolve? root pointer = some (.object object)) :
    object.keys.Nodup :=
  (Json.hasDistinctKeys_object.1 (Pointer.hasDistinctKeys_of_follow? hkeys hvalue)).1

theorem nodup_keys_filter {α : Type} {d : Dict α} (h : d.keys.Nodup) (p : String × α → Bool) :
    Dict.keys (d.filter p) |>.Nodup :=
  (List.filter_sublist.map Prod.fst).nodup h

/-- What is taken from an object. -/
theorem heritage_eq {object other : Dict Json} {target : String}
    (hreference : Bundle.reference? object = some target)
    (htarget : Pointer.resolve? root target = some (.object other)) :
    heritage root object = (Entries.of target other).filter fun entry => isInherited entry.1 := by
  rw [heritage, hreference]
  simp only [htarget, Option.bind_some, Json.object?]

/-- A schema takes nothing on, or it takes what the object says to which its reference leads. -/
theorem heritage_eq_nil_or (root : Json) (object : Dict Json) : heritage root object = [] ∨
    ∃ target other, Bundle.reference? object = some target ∧
      Pointer.resolve? root target = some (.object other) ∧
      heritage root object = (Entries.of target other).filter fun entry => isInherited entry.1 := by
  unfold heritage
  split
  · exact Or.inl rfl
  · next target hreference =>
    split
    · exact Or.inl rfl
    · next other hother =>
      obtain ⟨found, hfound, hsome⟩ := Option.bind_eq_some_iff.1 hother
      cases found with
      | object entries =>
        cases hsome
        exact Or.inr ⟨target, _, hreference, hfound, rfl⟩
      | _ => cases hsome

theorem nodup_keys_heritage (hkeys : root.hasDistinctKeys = true) (object : Dict Json) :
    (heritage root object).keys.Nodup := by
  rcases heritage_eq_nil_or root object with hnil | ⟨target, other, -, hother, heq⟩
  · rw [hnil]
    exact List.nodup_nil
  · rw [heq]
    refine nodup_keys_filter ?_ _
    rw [Entries.keys_of]
    exact nodup_keys_of_resolve? hkeys hother

/-- **What is gathered is what the schema says in the end**, where its reference, if it has one,
leads to an object. -/
theorem gather_eq (hkeys : root.hasDistinctKeys = true) (id : SchemaId) {pointer : String}
    {object : Dict Json} (hobject : object.keys.Nodup)
    (htarget : ∀ target, Bundle.reference? object = some target →
      ∃ other, Pointer.resolve? root target = some (.object other)) :
    gather root id pointer object = pure (contents root pointer (.object object)) := by
  have hnil : (Dict.keys ([] : Entries)).Nodup := List.nodup_nil
  cases hreference : Bundle.reference? object with
  | none =>
    have hnone : inherited? root object = none := by rw [inherited?, hreference]; rfl
    have htaken : heritage root object = [] := by rw [heritage, hreference]
    rw [gather, hnone, contents, htaken]
    show pure _ = pure _
    rw [ownEntries_eq hnil hobject]
    rfl
  | some target =>
    obtain ⟨other, hother⟩ := htarget target hreference
    have hsome : inherited? root object = some (some (Entries.overlay [] target
        (other.filter fun entry => entry.1 ≠ "title" && entry.1 ≠ "$id")), target) := by
      rw [inherited?, hreference, Option.map_some, hother]
      rfl
    have hkept : (Dict.keys (Entries.of target
        (other.filter fun entry => entry.1 ≠ "title" && entry.1 ≠ "$id"))).Nodup := by
      rw [Entries.keys_of]
      exact nodup_keys_filter (nodup_keys_of_resolve? hkeys hother) _
    have htaken : Entries.overlay [] target
        (other.filter fun entry => entry.1 ≠ "title" && entry.1 ≠ "$id") =
        Entries.of target (other.filter fun entry => entry.1 ≠ "title" && entry.1 ≠ "$id") := by
      rw [Entries.overlay_eq, Dict.extend_eq hnil hkept]
      simp [Dict.contains]
    have hlinked : (Entries.of target (other.filter fun entry =>
          entry.1 ≠ "title" && entry.1 ≠ "$id")).filter (fun entry => isLinked entry.1) =
        heritage root object := by
      rw [heritage_eq hreference hother, Entries.of, Entries.of, List.filter_map, List.filter_map,
        List.filter_filter]
      rfl
    rw [gather, hsome]
    show pure _ = pure _
    rw [htaken, ownEntries_eq hkept hobject, hlinked, contents]

/-- Where the reference leads to no object, the node is marked with its target, and what is gathered
is what the object says itself. -/
theorem gather_eq_mark (id : SchemaId) {pointer target : String} {object : Dict Json}
    (hobject : object.keys.Nodup) (hreference : Bundle.reference? object = some target)
    (hlost : (Pointer.resolve? root target).bind Json.object? = none) :
    gather root id pointer object = (do
      change id fun node => { node with unresolvedRef := some target }
      return contents root pointer (.object object)) := by
  have htaken : heritage root object = [] := by
    simp only [heritage, hreference, hlost]
  have hinherited : inherited? root object = some (none, target) := by
    rw [inherited?, hreference, Option.map_some, hlost]
  have hnil : (Dict.keys ([] : Entries)).Nodup := List.nodup_nil
  have hown : ownEntries [] pointer object = contents root pointer (.object object) := by
    rw [ownEntries_eq hnil hobject, contents, htaken]
    rfl
  rw [gather, hinherited, ← hown]

/-- What is gathered is what the schema says in the end, also where its reference leads to no
object; then the node is marked. -/
theorem gather_eq_or (hkeys : root.hasDistinctKeys = true) (id : SchemaId) {pointer : String}
    {object : Dict Json} (hobject : object.keys.Nodup) :
    gather root id pointer object = pure (contents root pointer (.object object)) ∨
      ∃ target, gather root id pointer object = (do
        change id fun node => { node with unresolvedRef := some target }
        return contents root pointer (.object object)) := by
  by_cases htarget : ∀ target, Bundle.reference? object = some target →
      ∃ other, Pointer.resolve? root target = some (.object other)
  · exact Or.inl (gather_eq hkeys id hobject htarget)
  · simp only [not_forall, not_exists] at htarget
    obtain ⟨target, hreference, hnone⟩ := htarget
    refine Or.inr ⟨target, gather_eq_mark id hobject hreference ?_⟩
    cases hother : Pointer.resolve? root target with
    | none => rfl
    | some other =>
      cases other with
      | object entries => exact absurd hother (hnone entries)
      | _ => rfl

/-- **What is below a node is what its schema says in the end**, where the document has distinct keys:
these keywords are linked, once the node is marked if its reference leads to no object. -/
theorem yields_linkBelow_of_contents (hkeys : root.hasDistinctKeys = true) {visit : Visit}
    {id : SchemaId} {pointer : String} {hint : Option String} {value : Json}
    (hvalue : value.hasDistinctKeys = true) {l : Linked} {Q : Unit → Linked → Prop}
    (h : ∀ m, m = l ∨ (∃ target,
        m = l.modifyNode id fun node => { node with unresolvedRef := some target }) →
      Yields ((contents root pointer value).forM fun entry =>
        linkKeyword visit id hint entry.1 entry.2.1 entry.2.2) m Q) :
    Yields (linkBelow visit root id pointer hint value) l Q := by
  cases value with
  | object object =>
    have hgather : gather root id pointer object = _ ∨ _ :=
      gather_eq_or hkeys id (Json.hasDistinctKeys_object.1 hvalue).1
    rcases hgather with heq | ⟨target, heq⟩
    · rw [linkBelow, heq, pure_bind]
      exact h l (.inl rfl)
    · rw [linkBelow, heq, bind_assoc]
      refine yields_bind.2 (yields_modify.2 ?_)
      rw [pure_bind]
      exact h _ (.inr ⟨target, rfl⟩)
  | _ => exact h l (.inl rfl)

/-- A schema says nothing twice. -/
theorem nodup_keys_contents_object (hkeys : root.hasDistinctKeys = true) {pointer : String}
    {object : Dict Json} (hobject : object.keys.Nodup) :
    (contents root pointer (.object object)).keys.Nodup := by
  have hown : (Dict.keys (Entries.of pointer object)).Nodup := by
    rw [Entries.keys_of]
    exact hobject
  rw [contents, Dict.keys, List.map_append, List.map_map, List.nodup_append]
  refine ⟨nodup_keys_heritage hkeys object, nodup_keys_filter (nodup_keys_filter hown _) _,
    fun key hkey other hother heq => ?_⟩
  obtain ⟨entry, hentry, hsame⟩ := List.mem_map.1 hkey
  obtain ⟨entry', hentry', hsame'⟩ := List.mem_map.1 hother
  have hnot := (List.mem_filter.1 hentry').2
  rw [Bool.not_eq_true', Bool.eq_false_iff, Ne, Dict.contains_iff_mem_keys] at hnot
  exact hnot (List.mem_map.2 ⟨entry, hentry, hsame.trans (heq.trans hsame'.symm)⟩)

theorem nodup_keys_contents (hkeys : root.hasDistinctKeys = true) {pointer : String} {value : Json}
    (hvalue : Pointer.resolve? root pointer = some value) :
    (contents root pointer value).keys.Nodup := by
  cases value with
  | object object =>
    exact nodup_keys_contents_object hkeys (nodup_keys_of_resolve? hkeys hvalue)
  | _ => exact List.nodup_nil

/-- **Who says what a schema says in the end**: the object itself, or the one to which its reference
leads. -/
theorem own_or_taken_of_mem_contents {pointer : String} {object : Dict Json}
    {entry : String × Json × String} (h : entry ∈ contents root pointer (.object object)) :
    (entry.2.2 = pointer ∧ (entry.1, entry.2.1) ∈ object) ∨
      ∃ other, Bundle.reference? object = some entry.2.2 ∧
        Pointer.resolve? root entry.2.2 = some (.object other) ∧ (entry.1, entry.2.1) ∈ other := by
  have hown : ∀ {own}, own ∈ (Entries.of pointer object).filter (fun entry => isLinked entry.1) →
      own.2.2 = pointer ∧ (own.1, own.2.1) ∈ object := by
    intro own hmem
    obtain ⟨said, hsaid, rfl⟩ := List.mem_map.1 (List.mem_of_mem_filter hmem)
    exact ⟨rfl, hsaid⟩
  rcases List.mem_append.1 h with h | h
  · obtain ⟨taken, htaken, rfl⟩ := List.mem_map.1 h
    cases hget : Dict.get? ((Entries.of pointer object).filter fun entry => isLinked entry.1)
        taken.1 with
    | some found => exact Or.inl (hown (Dict.mem_of_get? hget))
    | none =>
      rcases heritage_eq_nil_or root object with hnil | ⟨target, other, hreference, hother, heq⟩
      · rw [hnil] at htaken
        cases htaken
      · rw [heq] at htaken
        obtain ⟨said, hsaid, rfl⟩ := List.mem_map.1 (List.mem_of_mem_filter htaken)
        exact Or.inr ⟨other, hreference, hother, hsaid⟩
  · exact Or.inl (hown (List.mem_of_mem_filter h))

/-- What a schema says stands at the pointer of the object that holds it. -/
theorem stands_of_mem_contents (hkeys : root.hasDistinctKeys = true) {pointer : String}
    {value : Json} (hvalue : Pointer.resolve? root pointer = some value)
    {entry : String × Json × String} (h : entry ∈ contents root pointer value) :
    Stands root entry := by
  cases value with
  | object object =>
    rcases own_or_taken_of_mem_contents h with ⟨rfl, hmem⟩ | ⟨other, -, hother, hmem⟩
    · have hstands := stands_of_mem hkeys hvalue hmem
      exact hstands
    · have hstands := stands_of_mem hkeys hother hmem
      exact hstands
  | _ => cases h

/-- **What a schema does not say itself** it says as its target does. -/
theorem filter_contents_eq {p : String → Bool} (pointer : String) {target : String}
    {object other : Dict Json} (hown : ∀ key, p key = true → object.get? key = none)
    (hinherited : ∀ key, p key = true → isInherited key = true)
    (hreference : Bundle.reference? object = some target)
    (htarget : Pointer.resolve? root target = some (.object other))
    (hnone : Bundle.reference? other = none) :
    (contents root pointer (.object object)).filter (fun entry => p entry.1) =
      (contents root target (.object other)).filter fun entry => p entry.1 := by
  have hother : contents root target (.object other) =
      (Entries.of target other).filter fun entry => isLinked entry.1 := by
    rw [contents, heritage, hnone]
    simp [Dict.contains]
  have hget : ∀ key, p key = true → Dict.get? (Entries.of pointer object) key = none := by
    intro key hkey
    refine Dict.get?_eq_none_of_not_mem fun hmem => ?_
    rw [Entries.keys_of, ← Dict.get?_isSome_iff_mem_keys, hown key hkey] at hmem
    cases hmem
  rw [hother, contents, heritage_eq hreference htarget, List.filter_append, List.filter_map,
    List.filter_filter, List.filter_filter]
  have hrest : (((Entries.of pointer object).filter fun entry => isLinked entry.1).filter
      fun entry => p entry.1 && !Dict.contains ((Entries.of target other).filter
        fun entry => isInherited entry.1) entry.1) = [] := by
    refine List.filter_eq_nil_iff.2 fun entry hentry hp => ?_
    have hkey := hget entry.1 (Bool.and_eq_true_iff.1 hp).1
    rw [← Option.not_isSome_iff_eq_none, Dict.get?_isSome_iff_mem_keys] at hkey
    exact hkey (List.mem_map_of_mem (List.mem_of_mem_filter hentry))
  rw [hrest, List.append_nil, List.filter_filter]
  have hfilter : ∀ entry ∈ Entries.of target other, (p entry.1 && isInherited entry.1) =
      (p entry.1 && isLinked entry.1) := by
    intro entry _
    cases hp : p entry.1 with
    | false => rfl
    | true =>
      have h := hinherited entry.1 hp
      rw [h, (Bool.and_eq_true_iff.1 h).1]
  rw [← List.filter_congr hfilter]
  conv_rhs => rw [← List.map_id ((Entries.of target other).filter _)]
  refine List.map_congr_left fun entry hentry => ?_
  have hp := (Bool.and_eq_true_iff.1 (List.mem_filter.1 hentry).2).1
  rw [Dict.get?_filter, hget entry.1 hp, ite_self]
  rfl

end SchemaGraph
end SchemaTypings
