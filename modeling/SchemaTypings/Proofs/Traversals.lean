import SchemaTypings.Proofs.CanonicalPlaces
import SchemaTypings.Proofs.InPlace
import SchemaTypings.Proofs.Visits

/-! # Two traversals

Linking reads the keywords of an object by cases, and visiting reads them by their roles.  Both find
the same subschemas at the same pointers, but for the schema under `not`, which has no counterpart
among types, and a boolean under `items`, which is a schema for linking alone.  So whatever object
linking comes to from an object, by its keywords and those of the objects below it, is at a place that
visiting comes to, and its reference is one that rewriting has written.
-/
namespace SchemaTypings

/-! ### Schemas of alike documents -/

namespace Bundle

variable {T : String → String → Prop}

/-- In values that are alike the same paths lead to subschemas. -/
theorem leads_of_alike {keyword : String} {value other child : Json} {path : List String}
    (halike : Alike T value other) (h : Subschema.Leads keyword value path child) :
    ∃ child', Subschema.Leads keyword other path child' ∧ Alike T child child' := by
  cases h with
  | @named key entries _ hrole hget =>
    obtain ⟨others, rfl, -⟩ := halike.object_right
    have hstep := halike.step? key
    simp only [Pointer.step?, hget] at hstep
    generalize hother : Dict.get? others key = found at hstep
    cases hstep with
    | some hchild => exact ⟨_, .named hrole hother, hchild⟩
  | whole hrole =>
    obtain ⟨others, rfl, -⟩ := halike.object_right
    exact ⟨_, .whole hrole, halike⟩
  | @listed _ items i _ hrole hindex hitem =>
    obtain ⟨others, rfl, hitems⟩ := halike.array_right
    have hrel := rel_getElem? hitems i
    rw [hitem] at hrel
    generalize hother : others[i]? = found at hrel
    cases hrel with
    | some hchild => exact ⟨_, .listed hrole hindex hother, hchild⟩

/-- **In documents that are alike schemas stand at the same places.** -/
theorem schemaAt_of_alike {document other schema : Json} {path : List String}
    (halike : Alike T document other) (h : SchemaAt document path schema) :
    ∃ schema', SchemaAt other path schema' := by
  induction h generalizing other with
  | here => exact ⟨other, .here other⟩
  | @under entries keyword value child schema path rest hvalue hchild _ ih =>
    obtain ⟨others, rfl, -⟩ := halike.object_right
    have hstep := halike.step? keyword
    simp only [Pointer.step?, hvalue] at hstep
    generalize hother : Dict.get? others keyword = found at hstep
    cases hstep with
    | some hnext =>
      obtain ⟨child', hchild', hbelow⟩ := leads_of_alike hnext hchild
      obtain ⟨schema', hat⟩ := ih hbelow
      exact ⟨schema', .under hother hchild' hat⟩

end Bundle

namespace SchemaGraph

open SchemaTypings.Bundle (Collected Progress SchemaAt TextAt alike_repoint collected_start pointerTo
  reference? repoint rewrite schemaAt_of_alike textAt_iff yields_rewrite)

/-! ### The schemas that a keyword links -/

/-- **The subschemas that linking finds under a keyword**, each behind the segments that lead to
it. -/
def linked (keyword : String) (value : Json) : List Spot :=
  if keyword = "not" then []
  else if keyword = "items" ∧ value.isBool = true then [([], value)]
  else Subschema.below keyword value

/-- What is visited from a keyword before anything else is done: these values at these pointers. -/
def Sees (base keyword : String) (seen : List Spot) (x : Visit → Linking Unit) : Prop :=
  ∃ (calls : List Call) (finish : List SchemaId → Linking Unit),
    (∀ visit, x visit = calls.mapM visit.answer >>= finish) ∧
      calls.map (fun call => (call.pointer, call.value)) =
        seen.map fun spot => (Pointer.build base (keyword :: spot.1), spot.2)

section Forms

variable {base keyword : String} {value : Json} {entries : Dict Json} {items : List Json}

theorem sees_nothing (x : Linking Unit) : Sees base keyword [] fun _ => x :=
  ⟨[], fun _ => x, fun visit => by rw [List.mapM_nil, pure_bind], rfl⟩

/-- A schema for each key. -/
theorem sees_named (hrole : Keyword.role? keyword = some .named) (origin : String → Origin)
    (next : Dict SchemaId → Linking Unit) :
    Sees base keyword (Subschema.below keyword (.object entries)) fun visit =>
      linkNamed visit base keyword origin entries >>= next := by
  rw [Subschema.below_named hrole]
  refine ⟨namedCalls base keyword origin entries, fun ids => next (entries.keys.zip ids),
    fun visit => ?_, ?_⟩
  · simp only [linkNamed_eq, bind_assoc, pure_bind]
  · rw [namedCalls, List.map_map, List.map_map]
    rfl

/-- A schema for each item. -/
theorem sees_listed
    (hrole : Keyword.role? keyword = some .listed ∨ Keyword.role? keyword = some .either)
    (origin : Origin) (next : List SchemaId → Linking Unit) :
    Sees base keyword (Subschema.below keyword (.array items)) fun visit =>
      linkListed visit base keyword origin items >>= next := by
  rw [Subschema.below_listed hrole]
  refine ⟨listedCalls base keyword origin items, next, fun visit => ?_, ?_⟩
  · simp only [linkListed_eq]
  · rw [listedCalls, List.map_map, List.map_map]
    rfl

/-- One schema. -/
theorem sees_one (origin : Origin) (next : SchemaId → Linking Unit) :
    Sees base keyword [([], value)] fun visit =>
      visit (Pointer.build base [keyword]) value origin >>= next := by
  refine ⟨[⟨Pointer.build base [keyword], value, origin⟩], fun ids => next (ids.headD 0),
    fun visit => ?_, rfl⟩
  simp only [List.mapM_cons, List.mapM_nil, Visit.answer, bind_assoc, pure_bind, List.headD_cons]

/-- One schema that is an object. -/
theorem sees_whole
    (hrole : Keyword.role? keyword = some .single ∨ Keyword.role? keyword = some .either)
    (origin : Origin) (next : SchemaId → Linking Unit) :
    Sees base keyword (Subschema.below keyword (.object entries)) fun visit =>
      visit (Pointer.build base [keyword]) (.object entries) origin >>= next := by
  rw [Subschema.below_whole hrole]
  exact sees_one origin next

/-- A schema for each item of a list that a schema is put together from. -/
theorem sees_members
    (hrole : Keyword.role? keyword = some .listed ∨ Keyword.role? keyword = some .either)
    (origin : Origin) (next : Option (List SchemaId × Bool) → Linking Unit) :
    Sees base keyword (Subschema.below keyword (.array items)) fun visit =>
      linkMembers visit base keyword origin (.array items) >>= next := by
  simp only [linkMembers, bind_assoc, pure_bind]
  exact sees_listed hrole origin _

end Forms

/-! ### Keywords -/

theorem linked_eq_below {keyword : String} {value : Json} (hnot : keyword ≠ "not")
    (hitems : keyword ≠ "items" ∨ value.isBool = false) :
    linked keyword value = Subschema.below keyword value := by
  rw [linked, if_neg hnot, if_neg]
  rintro ⟨heq, hbool⟩
  rcases hitems with hne | hfalse
  · exact hne heq
  · rw [hbool] at hfalse
    cases hfalse

/-- Linking finds what is visited under keywords that hold schemas by name or in a list. -/
theorem linked_eq_below_of_role {keyword : String} {value : Json}
    (hrole : Keyword.role? keyword = some .named ∨ Keyword.role? keyword = some .listed) :
    linked keyword value = Subschema.below keyword value := by
  refine linked_eq_below ?_ (Or.inl ?_)
  all_goals
    rintro rfl
    revert hrole
    decide

section Keywords

variable {base keyword : String} {value : Json}

/-- Schemas under names, if the keyword holds an object. -/
theorem sees_linkNamed (hrole : Keyword.role? keyword = some .named) (origin : String → Origin)
    (next : Dict SchemaId → Linking Unit) :
    Sees base keyword (linked keyword value) fun visit =>
      match value with
      | .object entries => linkNamed visit base keyword origin entries >>= next
      | _ => pure () := by
  rw [linked_eq_below_of_role (Or.inl hrole)]
  cases value with
  | object entries => exact sees_named hrole origin next
  | _ =>
    simp only [Subschema.below, hrole]
    exact sees_nothing _

/-- A switch, or a schema for the rest. -/
theorem sees_linkAdditional (hrole : Keyword.role? keyword = some .single)
    (hnot : keyword ≠ "not") (origin : Origin) (next : Option Additional → Linking Unit) :
    Sees base keyword (linked keyword value) fun visit =>
      linkAdditional visit base keyword origin value >>= next := by
  rw [linked_eq_below hnot (Or.inl (by rintro rfl; cases hrole))]
  cases value with
  | object entries =>
    simp only [linkAdditional, bind_assoc, pure_bind]
    exact sees_whole (Or.inl hrole) origin _
  | _ =>
    simp only [Subschema.below, hrole, linkAdditional, pure_bind]
    exact sees_nothing _

/-- Schemas in a list, if the keyword holds one. -/
theorem sees_linkMembers (hrole : Keyword.role? keyword = some .listed) (origin : Origin)
    (next : Option (List SchemaId × Bool) → Linking Unit) :
    Sees base keyword (linked keyword value) fun visit =>
      linkMembers visit base keyword origin value >>= next := by
  rw [linked_eq_below_of_role (Or.inr hrole)]
  cases value with
  | array items => exact sees_members (Or.inl hrole) origin next
  | _ =>
    simp only [Subschema.below, hrole, linkMembers, pure_bind]
    exact sees_nothing _

/-- A schema for each item, one for all of them, or a switch. -/
theorem sees_linkItems (origin : Origin) (next : List SchemaId → Linking Unit)
    (rest : SchemaId → Linking Unit) :
    Sees base "items" (linked "items" value) fun visit =>
      match value with
      | .array items => linkListed visit base "items" origin items >>= next
      | .object _ | .bool _ => visit (Pointer.build base ["items"]) value origin >>= rest
      | _ => pure () := by
  have hrole : Keyword.role? "items" = some .either := by decide
  cases value with
  | array items =>
    rw [linked_eq_below (by decide) (Or.inr rfl)]
    exact sees_listed (Or.inr hrole) origin next
  | object entries =>
    rw [linked_eq_below (by decide) (Or.inr rfl)]
    exact sees_whole (Or.inr hrole) origin rest
  | bool switch => exact sees_one origin rest
  | _ => exact sees_nothing _

/-- The schemas that a schema extends, or the one. -/
theorem sees_linkExtends (origin : Origin) (next : SchemaId → Linking Unit)
    (rest : Option (List SchemaId × Bool) → Linking Unit) :
    Sees base "extends" (linked "extends" value) fun visit =>
      match value with
      | .object _ => visit (Pointer.build base ["extends"]) value origin >>= next
      | _ => linkMembers visit base "extends" origin value >>= rest := by
  have hrole : Keyword.role? "extends" = some .either := by decide
  rw [linked_eq_below (by decide) (Or.inl (by decide))]
  cases value with
  | object entries => exact sees_whole (Or.inr hrole) origin next
  | array items => exact sees_members (Or.inr hrole) origin rest
  | _ =>
    simp only [linkMembers, pure_bind]
    exact sees_nothing _

end Keywords

/-- **What linking a keyword visits.** -/
theorem sees_linkKeyword (id : SchemaId) (hint : Option String) (keyword : String) (value : Json)
    (base : String) : Sees base keyword (linked keyword value) fun visit =>
      linkKeyword visit id hint keyword value base := by
  unfold linkKeyword
  dsimp only
  split
  case h_1 | h_2 | h_3 | h_4 => exact sees_linkNamed (by decide) _ _
  case h_5 | h_6 => exact sees_linkAdditional (by decide) (by decide) _ _
  case h_7 => exact sees_linkItems _ _ _
  case h_8 | h_9 | h_10 => exact sees_linkMembers (by decide) _ _
  case h_11 => exact sees_linkExtends _ _ _
  case h_12 => exact sees_nothing _
  case h_13 =>
    rw [linked_eq_below (by assumption) (Or.inl (by assumption))]
    have hrole : Keyword.role? keyword = none := by
      unfold Keyword.role?
      grind
    have hnone : Subschema.below keyword value = [] := by
      simp only [Subschema.below, hrole]
    rw [hnone]
    exact sees_nothing _

/-! ### What is linked is visited -/

/-- What linking finds under a keyword is visited, unless it is a switch. -/
theorem mem_below_of_mem_linked {keyword : String} {value : Json} {spot : Spot}
    (h : spot ∈ linked keyword value) (hbool : spot.2.isBool = false) :
    spot ∈ Subschema.below keyword value := by
  unfold linked at h
  split at h
  · cases h
  · split at h
    · next hswitch =>
      cases List.mem_singleton.1 h
      rw [hswitch.2] at hbool
      cases hbool
    · exact h

/-- **Visited objects are linked, but for the one under `not`.** -/
theorem filter_places (entries : Dict Json) :
    (Subschema.places entries).filter (fun spot => spot.2.isObject) =
      (entries.flatMap fun entry =>
        (if entry.1 = "not" then Subschema.below entry.1 entry.2 else linked entry.1 entry.2).map
          (Spot.behind entry.1)).filter fun spot => spot.2.isObject := by
  rw [Subschema.places, List.filter_flatMap, List.filter_flatMap]
  refine List.flatMap_congr fun entry _ => ?_
  rw [List.filter_map, List.filter_map]
  refine congrArg (List.map (Spot.behind entry.1)) ?_
  split
  · rfl
  · next hnot =>
    by_cases hswitch : entry.1 = "items" ∧ entry.2.isBool = true
    · obtain ⟨keyword, value⟩ := entry
      obtain ⟨rfl, hbool⟩ := hswitch
      cases value with
      | bool switch => rfl
      | _ => cases hbool
    · rw [linked, if_neg hnot, if_neg hswitch]

/-- **What linking comes to from a value at a pointer**, by the keywords of objects. -/
inductive LinksDown : String → Json → String → Json → Prop
  | here (pointer : String) (value : Json) : LinksDown pointer value pointer value
  | under {pointer other : String} {entries : Dict Json} {entry : String × Json} {spot : Spot}
      {value : Json} (hentry : entry ∈ entries) (hspot : spot ∈ linked entry.1 entry.2)
      (h : LinksDown (Pointer.build pointer (entry.1 :: spot.1)) spot.2 other value) :
      LinksDown pointer (.object entries) other value

/-- **Linking comes to places that hold schemas.** -/
theorem LinksDown.exists_schemaAt {pointer other : String} {value : Json} {inner : Dict Json}
    (hkeys : value.hasDistinctKeys = true) (h : LinksDown pointer value other (.object inner)) :
    ∃ path, other = Pointer.build pointer path ∧ SchemaAt value path (.object inner) := by
  generalize hend : Json.object inner = last at h
  induction h with
  | here => exact ⟨[], rfl, .here _⟩
  | @under pointer other entries entry spot last hentry hspot h ih =>
    obtain ⟨hdistinct, hvalues⟩ := Json.hasDistinctKeys_object.1 hkeys
    have hbool : spot.2.isBool = false := by
      cases hchild : spot.2 with
      | bool switch =>
        rw [hchild] at h
        subst hend
        cases h
      | _ => rfl
    have hleads := Subschema.leads_of_mem_below (hvalues entry hentry)
      (mem_below_of_mem_linked hspot hbool)
    obtain ⟨path, rfl, hat⟩ := ih (Pointer.hasDistinctKeys_of_follow? (hvalues entry hentry)
      hleads.follow?) hend
    refine ⟨entry.1 :: (spot.1 ++ path), ?_,
      .under (Dict.get?_of_mem hdistinct hentry) hleads hat⟩
    rw [← Pointer.build_append, List.cons_append]

/-- **No reference escapes rewriting.**  Whatever reference linking comes to below a schema that was
rewritten, rewriting has written it. -/
theorem yields_rewrite_linksDown (limit levels : Nat) {source : DocumentSource} {root scope : Uri}
    {done : List (Uri × Json)} {pointer : String} {value : Json}
    (hkeys : value.hasDistinctKeys = true) {s : Progress}
    (hs : Collected source root done s.resolver) :
    Yields (rewrite limit scope levels pointer value) s fun after _ =>
      ∀ {other : String} {inner : Dict Json} {text : String},
        LinksDown pointer after other (.object inner) → reference? inner = some text →
        ∃ path before reference document fragment, other = Pointer.build pointer path ∧
          SchemaAt value path (.object before) ∧ reference? before = some reference ∧
          Resolver.target? scope reference = some (document, fragment) ∧
          text = pointerTo root document fragment := by
  refine (yields_rewrite limit levels hkeys hs).mono fun after t hafter => ?_
  obtain ⟨-, -, rfl, hrepointed⟩ := hafter
  intro other inner text hlinks href
  have halike := alike_repoint root scope levels value
  obtain ⟨path, hother, hat⟩ := hlinks.exists_schemaAt (halike.hasDistinctKeys hkeys)
  have htext : TextAt (repoint root scope levels value) path text :=
    textAt_iff.2 ⟨inner, hat.follow?, href⟩
  -- the place holds a schema with a reference before, too
  obtain ⟨schema, hbefore⟩ := schemaAt_of_alike halike.symm hat
  obtain ⟨child, hchild, hsame⟩ := halike.exists_follow?_left htext
  obtain ⟨reference, rfl, -⟩ := hsame.text_left
  obtain ⟨before, hfollow, hreference⟩ := textAt_iff.1 hchild
  cases hbefore.follow?.symm.trans hfollow
  obtain ⟨document, fragment, htarget, -, -, hwritten, -⟩ := hrepointed hbefore hreference
  refine ⟨path, before, reference, document, fragment, hother, hbefore, hreference, htarget, ?_⟩
  cases htext.symm.trans hwritten
  rfl

/-! ### Both traversals -/

/-- **Visiting and linking see the same subschemas.**  A pass that may change them visits each once,
in document order and at a pointer that names it; it changes nothing else, and nothing behind its
first failure.  The objects among them are those that linking visits from the keywords, at the same
pointers, and the one under `not`; so whatever reference linking comes to below the object, rewriting
has written it. -/
theorem traversals_agree {entries : Dict Json}
    (hkeys : (Json.object entries).hasDistinctKeys = true) (pointer : String) :
    ((Subschema.places entries).Sublist (Json.object entries).spots ∧
      ((Subschema.calls pointer entries).map Prod.fst).Nodup ∧
      ∀ document, Pointer.resolve? document pointer = some (.object entries) →
        ∀ call ∈ Subschema.calls pointer entries,
          Pointer.resolve? document call.1 = some call.2) ∧
    (∀ {σ ε : Type} (e : Editor σ ε) (s : σ), ∃ result,
      (Subschema.mapM e.step pointer entries).run (s, none) =
          (result, (e.sweep (Subschema.calls pointer entries) s).2) ∧
        List.Forall₂ (fun spot answer => Pointer.follow? (.object result) spot.1 = some answer)
          (Subschema.places entries) (e.sweep (Subschema.calls pointer entries) s).1 ∧
        Json.SameBut (· ∈ (Subschema.places entries).map Prod.fst) [] (.object entries)
          (.object result)) ∧
    ((∀ entry ∈ entries, ∀ id hint, Sees pointer entry.1 (linked entry.1 entry.2) fun visit =>
        linkKeyword visit id hint entry.1 entry.2 pointer) ∧
      (Subschema.places entries).filter (fun spot => spot.2.isObject) =
        (entries.flatMap fun entry =>
          (if entry.1 = "not" then Subschema.below entry.1 entry.2 else linked entry.1 entry.2).map
            (Spot.behind entry.1)).filter fun spot => spot.2.isObject) ∧
    ∀ {source : DocumentSource} {root scope : Uri} {done : List (Uri × Json)} {s : Progress}
      (limit levels : Nat), Collected source root done s.resolver →
      Yields (rewrite limit scope levels pointer (.object entries)) s fun after _ =>
        ∀ {other : String} {inner : Dict Json} {text : String},
          LinksDown pointer after other (.object inner) → reference? inner = some text →
          ∃ path before reference document fragment, other = Pointer.build pointer path ∧
            SchemaAt (.object entries) path (.object before) ∧
            reference? before = some reference ∧
            Resolver.target? scope reference = some (document, fragment) ∧
            text = pointerTo root document fragment := by
  refine ⟨⟨Subschema.places_sublist entries, ?_, fun document hobject call hcall => ?_⟩,
    fun e s => Subschema.mapM_editor hkeys pointer e s,
    ⟨fun entry _ id hint => sees_linkKeyword id hint entry.1 entry.2 pointer,
      filter_places entries⟩,
    fun limit levels hs => yields_rewrite_linksDown limit levels hkeys hs⟩
  · rw [Subschema.calls, List.map_map]
    exact Subschema.nodup_pointers hkeys pointer
  · obtain ⟨spot, hspot, rfl⟩ := List.mem_map.1 hcall
    exact Subschema.resolve?_of_mem_places hkeys hobject hspot

/-- A schema with keys that are empty, need escapes or look like keywords, and with values that are
no schemas. -/
def oddSchema : Dict Json :=
  [("properties", .object [("", .object [("$ref", .string "#")]), ("a/b", .bool true),
      ("not", .object [])]),
    ("items", .bool false), ("not", .object [("$ref", .string "#")]), ("allOf", .object []),
    ("anyOf", .array [.null, .object [("a~b", .null)]]), ("additionalProperties", .bool false)]

/-- Counts the visits, empties what it visits and fails at `null`. -/
def emptying : Editor Nat String := fun pointer child visits =>
  (.object [], visits + 1, if child.isNull then some pointer else none)

/-- The pass fails at the first alternative and leaves the second alone; linking visits the boolean
under `items`; and the reference below the empty key is one that rewriting wrote. -/
theorem traversals_agree_oddSchema :
    ((Subschema.calls "#" oddSchema).map Prod.fst = ["#/properties/", "#/properties/a~1b",
        "#/properties/not", "#/not", "#/anyOf/0", "#/anyOf/1"] ∧
      Pointer.resolve? (.object oddSchema) "#/properties/a~1b" = some (.bool true)) ∧
    (∃ result, (Subschema.mapM emptying.step "#" oddSchema).run (0, none) =
        (result, 5, some "#/anyOf/0") ∧
      Pointer.follow? (.object result) ["properties", "a/b"] = some (.object []) ∧
      Pointer.follow? (.object result) ["anyOf", "1"] = some (.object [("a~b", .null)])) ∧
    Sees "#" "items" [([], .bool false)] (fun visit =>
      linkKeyword visit 0 none "items" (.bool false) "#") ∧
    ∃ path before reference document fragment, "#/properties/" = Pointer.build "#" path ∧
      SchemaAt (.object oddSchema) path (.object before) ∧ reference? before = some reference ∧
      Resolver.target? defaultRoot reference = some (document, fragment) ∧
      "#" = pointerTo defaultRoot document fragment := by
  have hkeys : (Json.object oddSchema).hasDistinctKeys = true := by decide
  obtain ⟨⟨-, -, hresolve⟩, hpass, ⟨hlinks, -⟩, hrewrites⟩ := traversals_agree hkeys "#"
  refine ⟨⟨by decide +kernel, ?_⟩, ?_, ?_, ?_⟩
  · exact hresolve (.object oddSchema) rfl _ (List.mem_of_getElem? (i := 1) rfl)
  · obtain ⟨result, hrun, hanswers, -⟩ := hpass emptying 0
    have hanswer : ∀ (i : Nat) (spot : Spot) (answer : Json), ((Subschema.places oddSchema).zip
        (emptying.sweep (Subschema.calls "#" oddSchema) 0).1)[i]? = some (spot, answer) →
          Pointer.follow? (.object result) spot.1 = some answer :=
      fun i _ _ h => (List.forall₂_iff_zip.1 hanswers).2 (List.mem_of_getElem? h)
    exact ⟨result, hrun.trans rfl, hanswer 1 _ _ rfl, hanswer 5 _ _ rfl⟩
  · exact hlinks ("items", .bool false) (List.mem_of_getElem? (i := 1) rfl) 0 none
  · have hs : Collected .none (Resolver.rootUri (.object oddSchema) defaultRoot) []
        (.start (.object oddSchema) defaultRoot .none) := collected_start ..
    have hrun : ∃ t, (rewrite 9 defaultRoot 9 "#" (.object oddSchema)).run
        ⟨.start (.object oddSchema) defaultRoot .none, []⟩ = .ok (.object oddSchema, t) := ⟨_, rfl⟩
    have hlinked : LinksDown "#" (.object oddSchema) (Pointer.build "#" ["properties", ""])
        (.object [("$ref", .string "#")]) :=
      .under List.mem_cons_self List.mem_cons_self (.here _ _)
    have hpointer : Pointer.build "#" ["properties", ""] = "#/properties/" := by decide +kernel
    obtain ⟨t, hrun⟩ := hrun
    exact hrewrites 9 9 hs _ t hrun (hpointer ▸ hlinked) rfl

end SchemaGraph
end SchemaTypings
