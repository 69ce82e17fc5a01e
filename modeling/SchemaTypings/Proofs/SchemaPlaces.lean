import SchemaTypings.Proofs.Collapsing

/-! # Places that hold schemas

Rewriting visits the places of a document that structural keywords lead to.  `SchemaAt` is such a
place; `repoint` is a document with the references at these places as pointers into the bundle, and
with everything else as it was.
-/
namespace SchemaTypings

namespace Bundle

variable {T : String → String → Prop}

/-! ### Paths to one place -/

/-- **Two paths to one place**: they differ at most in how positions of items are written. -/
inductive SameSpot : Json → List String → List String → Prop
  | nil (value : Json) : SameSpot value [] []
  | key {value next : Json} {segment : String} {path path' : List String}
      (hstep : Pointer.step? value segment = some next) (h : SameSpot next path path') :
      SameSpot value (segment :: path) (segment :: path')
  | item {items : List Json} {item : Json} {i : Nat} {segment segment' : String}
      {path path' : List String} (hindex : Pointer.index? segment = some i)
      (hindex' : Pointer.index? segment' = some i) (hitem : items[i]? = some item)
      (h : SameSpot item path path') :
      SameSpot (.array items) (segment :: path) (segment' :: path')

namespace SameSpot

theorem follow?_eq {value : Json} {path path' : List String} (h : SameSpot value path path') :
    Pointer.follow? value path' = Pointer.follow? value path := by
  induction h with
  | nil => rfl
  | key hstep _ ih => rw [Pointer.follow?, Pointer.follow?, hstep, Option.bind_some, ih]; rfl
  | item hindex hindex' hitem _ ih =>
    rw [Pointer.follow?, Pointer.follow?, Pointer.step?, Pointer.step?, hindex, hindex',
      Option.bind_some, hitem, Option.bind_some, ih]
    rfl

/-- In documents that are alike the same paths lead to one place. -/
theorem of_alike {v w : Json} (halike : Alike T v w) {path path' : List String}
    (h : SameSpot v path path') : SameSpot w path path' := by
  induction h generalizing w with
  | nil => exact .nil w
  | @key _ _ segment _ _ hstep _ ih =>
    have hrel := halike.step? segment
    rw [hstep] at hrel
    generalize hother : Pointer.step? w segment = other at hrel
    cases hrel with
    | some hrel => exact .key hother (ih hrel)
  | @item items item i _ _ _ _ hindex hindex' hitem _ ih =>
    obtain ⟨ys, rfl, hitems⟩ := halike.array_right
    have hrel := rel_getElem? hitems i
    rw [hitem] at hrel
    generalize hother : ys[i]? = other at hrel
    cases hrel with
    | some hrel => exact .item hindex hindex' hother (ih hrel)

/-- The continuation of a path to one place. -/
theorem append {value : Json} {path path' : List String} (h : SameSpot value path path')
    {next : Json} (hnext : Pointer.follow? value path = some next) {rest rest' : List String}
    (hrest : SameSpot next rest rest') : SameSpot value (path ++ rest) (path' ++ rest') := by
  induction h with
  | nil =>
    cases hnext
    exact hrest
  | key hstep _ ih =>
    rw [Pointer.follow?, hstep] at hnext
    exact .key hstep (ih hnext)
  | item hindex hindex' hitem _ ih =>
    rw [Pointer.follow?, Pointer.step?, hindex, Option.bind_some, hitem] at hnext
    exact .item hindex hindex' hitem (ih hnext)

/-- A reference is the same text by both paths. -/
theorem textAt_iff {value : Json} {path path' : List String} (h : SameSpot value path path')
    {t : String} : TextAt value path' t ↔ TextAt value path t := by
  unfold TextAt
  rw [Pointer.follow?_append, Pointer.follow?_append, h.follow?_eq]

end SameSpot
end Bundle

/-! ### Plainly written paths -/

namespace Pointer

/-- **A path that is written plainly**: positions of items are decimals without zeros or signs in
front, which every reader of pointers takes for the same position. -/
inductive Plain : Json → List String → Prop
  | nil (value : Json) : Plain value []
  | key {entries : Dict Json} {key : String} {next : Json} {path : List String}
      (hget : Dict.get? entries key = some next) (h : Plain next path) :
      Plain (.object entries) (key :: path)
  | item {items : List Json} {i : Nat} {next : Json} {path : List String}
      (hitem : items[i]? = some next) (h : Plain next path) :
      Plain (.array items) (toString i :: path)

theorem Plain.append {value next : Json} {path rest : List String} (h : Plain value path)
    (hnext : follow? value path = some next) (hrest : Plain next rest) :
    Plain value (path ++ rest) := by
  induction h with
  | nil =>
    cases hnext
    exact hrest
  | key hget _ ih =>
    rw [follow?, step?, hget] at hnext
    exact .key hget (ih hnext)
  | item hitem _ ih =>
    rw [follow?, step?, index?_toString, Option.bind_some, hitem] at hnext
    exact .item hitem (ih hnext)

end Pointer

/-! ### Subschemas in their places -/

namespace Subschema

/-- The subschemas that one keyword holds, each behind the segments that lead to it. -/
def below (keyword : String) (value : Json) : List (List String × Json) :=
  match Keyword.role? keyword, value with
  | some .named, .object entries => entries.map fun entry => ([entry.1], entry.2)
  | some .single, .object _ => [([], value)]
  | some .listed, .array items => items.zipIdx.map fun item => ([toString item.2], item.1)
  | some .either, .array items => items.zipIdx.map fun item => ([toString item.2], item.1)
  | some .either, .object _ => [([], value)]
  | _, _ => []

/-- The value of a keyword with the subschemas that it holds changed. -/
def change (f : Json → Json) (keyword : String) (value : Json) : Json :=
  match Keyword.role? keyword, value with
  | some .named, .object entries => .object (entries.map fun entry => (entry.1, f entry.2))
  | some .single, .object _ => f value
  | some .listed, .array items => .array (items.map f)
  | some .either, .array items => .array (items.map f)
  | some .either, .object _ => f value
  | _, _ => value

/-- **A path from the value of a keyword to a subschema**, however positions are written. -/
inductive Leads : String → Json → List String → Json → Prop
  | named {keyword key : String} {entries : Dict Json} {child : Json}
      (hrole : Keyword.role? keyword = some .named) (h : Dict.get? entries key = some child) :
      Leads keyword (.object entries) [key] child
  | whole {keyword : String} {entries : Dict Json}
      (hrole : Keyword.role? keyword = some .single ∨ Keyword.role? keyword = some .either) :
      Leads keyword (.object entries) [] (.object entries)
  | listed {keyword segment : String} {items : List Json} {i : Nat} {child : Json}
      (hrole : Keyword.role? keyword = some .listed ∨ Keyword.role? keyword = some .either)
      (hindex : Pointer.index? segment = some i) (h : items[i]? = some child) :
      Leads keyword (.array items) [segment] child

/-- The reference of a schema is no subschema. -/
theorem change_ref (f : Json → Json) (value : Json) : change f Keyword.ref value = value := by
  have hrole : Keyword.role? Keyword.ref = none := by decide
  unfold change
  rw [hrole]

theorem below_ref (value : Json) : below Keyword.ref value = [] := by
  have hrole : Keyword.role? Keyword.ref = none := by decide
  unfold below
  rw [hrole]

theorem Leads.role_ne_none {keyword : String} {value child : Json} {path : List String}
    (h : Leads keyword value path child) : Keyword.role? keyword ≠ none := by
  cases h with
  | named hrole => rw [hrole]; exact fun h => nomatch h
  | whole hrole => rcases hrole with hrole | hrole <;> rw [hrole] <;> exact fun h => nomatch h
  | listed hrole => rcases hrole with hrole | hrole <;> rw [hrole] <;> exact fun h => nomatch h

theorem Leads.ne_ref {keyword : String} {value child : Json} {path : List String}
    (h : Leads keyword value path child) : keyword ≠ Keyword.ref := by
  rintro rfl
  exact h.role_ne_none (by decide)

/-- Changing subschemas changes them in place. -/
theorem Leads.follow?_change (f : Json → Json) {keyword : String} {value child : Json}
    {path : List String} (h : Leads keyword value path child) :
    Pointer.follow? (change f keyword value) path = some (f child) := by
  have hitems : ∀ {items : List Json} {segment : String} {i : Nat},
      Pointer.index? segment = some i → items[i]? = some child →
      Pointer.follow? (.array (items.map f)) [segment] = some (f child) := by
    intro items segment i hindex hitem
    rw [Pointer.follow?, Pointer.step?, hindex, Option.bind_some, List.getElem?_map, hitem]
    rfl
  unfold change
  cases h with
  | named hrole h =>
    rw [hrole, Pointer.follow?, Pointer.step?, Dict.get?_mapValues (fun _ => f), h]
    rfl
  | whole hrole =>
    rcases hrole with hrole | hrole
    · rw [hrole]
      rfl
    · rw [hrole]
      rfl
  | listed hrole hindex h =>
    rcases hrole with hrole | hrole
    · rw [hrole]
      exact hitems hindex h
    · rw [hrole]
      exact hitems hindex h

/-- **How a keyword is changed**: it stays as it is, or is a subschema as a whole, or each step into
it leads to one. -/
theorem change_cases (f : Json → Json) (keyword : String) (value : Json) :
    change f keyword value = value ∨
      change f keyword value = f value ∧ Leads keyword value [] value ∨
      (∀ t, value ≠ .string t) ∧ ∀ segment,
        Pointer.step? (change f keyword value) segment = (Pointer.step? value segment).map f ∧
          ∀ child, Pointer.step? value segment = some child →
            Leads keyword value [segment] child := by
  have hitems : ∀ (items : List Json) (segment : String),
      Pointer.step? (.array (items.map f)) segment =
        (Pointer.step? (.array items) segment).map f := by
    intro items segment
    rw [Pointer.step?, Pointer.step?, Option.map_bind]
    refine congrArg _ (funext fun i => ?_)
    rw [List.getElem?_map]
    rfl
  have hlisted : ∀ {items : List Json},
      Keyword.role? keyword = some .listed ∨ Keyword.role? keyword = some .either →
      ∀ segment child, Pointer.step? (.array items) segment = some child →
        Leads keyword (.array items) [segment] child := by
    intro items hrole segment child hchild
    obtain ⟨i, hindex, hitem⟩ := Option.bind_eq_some_iff.1 hchild
    exact .listed hrole hindex hitem
  unfold change
  split
  · next entries hrole =>
    exact Or.inr (Or.inr ⟨fun t => by simp, fun segment =>
      ⟨Dict.get?_mapValues (fun _ => f) .., fun child hchild => .named hrole hchild⟩⟩)
  · next hrole => exact Or.inr (Or.inl ⟨rfl, .whole (Or.inl hrole)⟩)
  · next hrole =>
    exact Or.inr (Or.inr ⟨fun t => by simp, fun segment =>
      ⟨hitems _ segment, hlisted (Or.inl hrole) segment⟩⟩)
  · next hrole =>
    exact Or.inr (Or.inr ⟨fun t => by simp, fun segment =>
      ⟨hitems _ segment, hlisted (Or.inr hrole) segment⟩⟩)
  · next hrole => exact Or.inr (Or.inl ⟨rfl, .whole (Or.inr hrole)⟩)
  · exact Or.inl rfl

/-- A path to a subschema is followed to it. -/
theorem Leads.follow? {keyword : String} {value child : Json} {path : List String}
    (h : Leads keyword value path child) : Pointer.follow? value path = some child := by
  cases h with
  | named _ h => rw [Pointer.follow?, Pointer.step?, h]; rfl
  | whole => rfl
  | listed _ hindex h => rw [Pointer.follow?, Pointer.step?, hindex, Option.bind_some, h]; rfl

/-- Each subschema that is visited has the path on which it is visited. -/
theorem leads_of_mem_below {keyword : String} {value : Json} {c : List String × Json}
    (hkeys : value.hasDistinctKeys = true) (h : c ∈ below keyword value) :
    Leads keyword value c.1 c.2 := by
  have hlisted : ∀ {items : List Json},
      Keyword.role? keyword = some .listed ∨ Keyword.role? keyword = some .either →
      c ∈ items.zipIdx.map (fun item => ([toString item.2], item.1)) →
      Leads keyword (.array items) c.1 c.2 := by
    intro items hrole hmapped
    obtain ⟨⟨item, i⟩, hmem, rfl⟩ := List.mem_map.1 hmapped
    exact .listed hrole (Pointer.index?_toString i) (List.mk_mem_zipIdx_iff_getElem?.1 hmem)
  unfold below at h
  split at h
  · next entries hrole =>
    obtain ⟨entry, hmem, rfl⟩ := List.mem_map.1 h
    exact .named hrole (Dict.get?_of_mem (Json.hasDistinctKeys_object.1 hkeys).1 hmem)
  · next hrole =>
    cases List.mem_singleton.1 h
    exact .whole (Or.inl hrole)
  · next hrole => exact hlisted (Or.inl hrole) h
  · next hrole => exact hlisted (Or.inr hrole) h
  · next hrole =>
    cases List.mem_singleton.1 h
    exact .whole (Or.inr hrole)
  · cases h

/-- Subschemas are visited on plainly written paths. -/
theorem plain_of_mem_below {keyword : String} {value : Json} {c : List String × Json}
    (hkeys : value.hasDistinctKeys = true) (h : c ∈ below keyword value) :
    Pointer.Plain value c.1 := by
  have hlisted : ∀ {items : List Json},
      c ∈ items.zipIdx.map (fun item => ([toString item.2], item.1)) →
      Pointer.Plain (.array items) c.1 := by
    intro items hmapped
    obtain ⟨⟨item, i⟩, hmem, rfl⟩ := List.mem_map.1 hmapped
    exact .item (List.mk_mem_zipIdx_iff_getElem?.1 hmem) (.nil item)
  unfold below at h
  split at h
  · obtain ⟨entry, hmem, rfl⟩ := List.mem_map.1 h
    exact .key (Dict.get?_of_mem (Json.hasDistinctKeys_object.1 hkeys).1 hmem) (.nil _)
  · cases List.mem_singleton.1 h
    exact .nil _
  · exact hlisted h
  · exact hlisted h
  · cases List.mem_singleton.1 h
    exact .nil _
  · cases h

open SchemaTypings.Bundle in
/-- Every subschema is visited, on a path to the same place. -/
theorem Leads.exists_below {keyword : String} {value child : Json} {path : List String}
    (h : Leads keyword value path child) :
    ∃ visited, (visited, child) ∈ below keyword value ∧ SameSpot value visited path := by
  have hlisted : ∀ {items : List Json} {segment : String} {i : Nat},
      Pointer.index? segment = some i → items[i]? = some child →
      ([toString i], child) ∈
          items.zipIdx.map (fun item => (([toString item.2], item.1) : List String × Json)) ∧
        SameSpot (.array items) [toString i] [segment] := by
    intro items segment i hindex hitem
    exact ⟨List.mem_map.2 ⟨(child, i), List.mk_mem_zipIdx_iff_getElem?.2 hitem, rfl⟩,
      .item (Pointer.index?_toString i) hindex hitem (.nil child)⟩
  unfold below
  cases h with
  | named hrole h =>
    rw [hrole]
    exact ⟨_, List.mem_map.2 ⟨(_, child), Dict.mem_of_get? h, rfl⟩, .key h (.nil child)⟩
  | whole hrole =>
    refine ⟨[], ?_, .nil _⟩
    rcases hrole with hrole | hrole
    · rw [hrole]
      exact List.mem_singleton_self _
    · rw [hrole]
      exact List.mem_singleton_self _
  | listed hrole hindex h =>
    refine ⟨_, ?_, (hlisted hindex h).2⟩
    rcases hrole with hrole | hrole
    · rw [hrole]
      exact (hlisted hindex h).1
    · rw [hrole]
      exact (hlisted hindex h).1

end Subschema

namespace Bundle

variable {T : String → String → Prop}

/-- **A place that holds a schema**: structural keywords alone lead to it. -/
inductive SchemaAt : Json → List String → Json → Prop
  | here (schema : Json) : SchemaAt schema [] schema
  | under {entries : Dict Json} {keyword : String} {value child schema : Json}
      {path rest : List String} (hvalue : Dict.get? entries keyword = some value)
      (hchild : Subschema.Leads keyword value path child) (h : SchemaAt child rest schema) :
      SchemaAt (.object entries) (keyword :: (path ++ rest)) schema

/-! ### Documents with repointed references -/

/-- The pointer to a place of a document in the bundle. -/
def pointerTo (root document : Uri) (fragment : String) : String :=
  (if document.text = root.text then "#" else Pointer.build "#" [Keyword.external, document.text]) ++
    fragment

/-- The entries of a schema in the document `scope`, with the reference as a pointer. -/
def repointOwn (root scope : Uri) (entries : Dict Json) : Dict Json :=
  match (reference? entries).bind (Resolver.target? scope) with
  | some (document, fragment) =>
    entries.insert Keyword.ref (.string (pointerTo root document fragment))
  | none => entries

/-- **A document with the references at its schemas as pointers**, at most `levels` deep. -/
def repoint (root scope : Uri) : Nat → Json → Json
  | 0, value => value
  | levels + 1, .object entries =>
    .object ((repointOwn root scope entries).map fun entry =>
      (entry.1, Subschema.change (repoint root scope levels) entry.1 entry.2))
  | _ + 1, value => value

variable {root scope : Uri}

theorem mem_repointOwn {entries : Dict Json} {entry : String × Json} (hne : entry.1 ≠ Keyword.ref) :
    entry ∈ repointOwn root scope entries ↔ entry ∈ entries := by
  unfold repointOwn
  split
  · exact Dict.mem_insert_of_ne hne
  · rfl

theorem get?_repointOwn {entries : Dict Json} {key : String} (hne : key ≠ Keyword.ref) :
    Dict.get? (repointOwn root scope entries) key = Dict.get? entries key := by
  unfold repointOwn
  split
  · exact Dict.get?_insert_of_ne _ _ (Ne.symm hne)
  · rfl

/-- What stands under a key of a repointed object. -/
theorem get?_repoint (levels : Nat) (entries : Dict Json) {key : String} (hne : key ≠ Keyword.ref) :
    Pointer.step? (repoint root scope (levels + 1) (.object entries)) key =
      (Dict.get? entries key).map (Subschema.change (repoint root scope levels) key) := by
  rw [repoint, Pointer.step?, Dict.get?_mapValues (Subschema.change _), get?_repointOwn hne]

theorem Alike.of_forall {xs : Dict Json} {g : String → Json → Json}
    (h : ∀ entry ∈ xs, Alike T entry.2 (g entry.1 entry.2)) :
    Alike T (.object xs) (.object (xs.map fun entry => (entry.1, g entry.1 entry.2))) := by
  refine .object ?_ ?_
  · simp [Dict.keys]
  · rw [Dict.values, Dict.values, List.map_map, List.forall₂_map_left_iff,
      List.forall₂_map_right_iff]
    exact List.forall₂_same.2 h

theorem Alike.map_items {xs : List Json} {f : Json → Json} (h : ∀ x ∈ xs, Alike T x (f x)) :
    Alike T (.array xs) (.array (xs.map f)) :=
  .array (List.forall₂_map_right_iff.2 (List.forall₂_same.2 h))

/-- Changing subschemas into alike ones. -/
theorem alike_change {f : Json → Json} (hf : ∀ value, Alike T value (f value)) (keyword : String)
    (value : Json) : Alike T value (Subschema.change f keyword value) := by
  unfold Subschema.change
  split
  · exact .of_forall (g := fun _ => f) fun entry _ => hf entry.2
  · exact hf _
  · exact .map_items fun item _ => hf item
  · exact .map_items fun item _ => hf item
  · exact hf _
  · exact .same _

theorem mapValues_insert (f : String → Json → Json) (d : Dict Json) (key : String) (value : Json) :
    (d.insert key value).map (fun entry => (entry.1, f entry.1 entry.2)) =
      Dict.insert (d.map fun entry => (entry.1, f entry.1 entry.2)) key (f key value) := by
  induction d with
  | nil => rfl
  | cons entry rest ih =>
    obtain ⟨k, v⟩ := entry
    rw [Dict.insert, List.map_cons, Dict.insert]
    split
    · next heq => rw [List.map_cons, heq]
    · rw [List.map_cons, ih]

/-- **Repointing changes texts only.** -/
theorem alike_repoint (root scope : Uri) (levels : Nat) (value : Json) :
    Alike (fun _ _ => True) value (repoint root scope levels value) := by
  induction levels generalizing value with
  | zero => exact .same value
  | succ levels ih =>
    cases value with
    | object entries =>
      have hbelow := Alike.of_forall fun (entry : String × Json) (_ : entry ∈ entries) =>
        alike_change ih entry.1 entry.2
      rw [repoint, repointOwn]
      split
      · next document fragment htarget =>
        obtain ⟨reference, href, -⟩ := Option.bind_eq_some_iff.1 htarget
        obtain ⟨text, htext, hstring⟩ := Option.bind_eq_some_iff.1 href
        cases text with
        | string t =>
          obtain ⟨ys, hys, hkeys, hvalues⟩ := hbelow.object_right
          cases hys
          have hget : Dict.get? (entries.map fun entry =>
              (entry.1, Subschema.change (repoint root scope levels) entry.1 entry.2)) Keyword.ref =
              some (.string t) := by
            rw [Dict.get?_mapValues (Subschema.change _), htext, Option.map_some,
              Subschema.change_ref]
          rw [mapValues_insert (Subschema.change _), Subschema.change_ref]
          exact .object (hkeys.trans (Dict.keys_insert_of_get? hget _).symm)
            (forall₂_insert hkeys hvalues htext trivial)
        | _ => cases hstring
      · exact hbelow
    | _ => exact .same _

/-- Repointing makes no value a text. -/
theorem eq_string_of_repoint {levels : Nat} {value : Json} {t : String}
    (h : repoint root scope levels value = .string t) : value = .string t := by
  cases levels with
  | zero => exact h
  | succ levels =>
    cases value with
    | object entries => cases h
    | _ => exact h

/-- A text among changed subschemas stands in one of them, or is as it was. -/
theorem leads_or_textAt_of_change {f : Json → Json}
    (hstring : ∀ {child : Json} {t : String}, f child = .string t → child = .string t)
    (hf : ∀ {child : Json} {path : List String} {t : String}, TextAt (f child) path t →
      (∃ schema, SchemaAt child path schema) ∨ TextAt child path t)
    {keyword : String} {value : Json} {path : List String} {t : String}
    (h : TextAt (Subschema.change f keyword value) path t) :
    (∃ start rest child schema, path = start ++ rest ∧ Subschema.Leads keyword value start child ∧
      SchemaAt child rest schema) ∨ TextAt value path t := by
  rcases Subschema.change_cases f keyword value with hsame | ⟨hwhole, hleads⟩ | ⟨-, hsteps⟩
  · exact Or.inr (hsame ▸ h)
  · rw [hwhole] at h
    refine (hf h).imp_left fun ⟨schema, hat⟩ => ?_
    exact ⟨[], path, value, schema, rfl, hleads, hat⟩
  · cases path with
    | nil =>
      -- a name for a subschema that happens to be the key of references
      obtain ⟨after, hstep, heq⟩ := Option.bind_eq_some_iff.1 h
      cases heq
      rw [(hsteps _).1] at hstep
      obtain ⟨child, hchild, hafter⟩ := Option.map_eq_some_iff.1 hstep
      refine Or.inr ?_
      rw [TextAt, List.nil_append, Pointer.follow?, hchild, hstring hafter]
      rfl
    | cons segment rest =>
      obtain ⟨after, hstep, hrest⟩ := Option.bind_eq_some_iff.1 h
      rw [(hsteps segment).1] at hstep
      obtain ⟨child, hchild, rfl⟩ := Option.map_eq_some_iff.1 hstep
      rcases hf hrest with ⟨schema, hat⟩ | htext
      · exact Or.inl ⟨[segment], rest, child, schema, rfl, (hsteps segment).2 child hchild, hat⟩
      · refine Or.inr ?_
        rw [TextAt, List.cons_append, Pointer.follow?, hchild]
        exact htext

/-- **Elsewhere references stay as they are**: only the references at schemas are repointed. -/
theorem schemaAt_or_textAt_of_repoint {levels : Nat} {value : Json} {path : List String} {t : String}
    (h : TextAt (repoint root scope levels value) path t) :
    (∃ schema, SchemaAt value path schema) ∨ TextAt value path t := by
  induction levels generalizing value path t with
  | zero => exact Or.inr h
  | succ levels ih =>
    cases value with
    | object entries =>
      cases path with
      | nil => exact Or.inl ⟨_, .here _⟩
      | cons key path =>
        rw [TextAt, List.cons_append, Pointer.follow?] at h
        obtain ⟨after, hstep, hrest⟩ := Option.bind_eq_some_iff.1 h
        by_cases hkey : key = Keyword.ref
        · subst hkey
          refine Or.inr ?_
          rw [repoint, Pointer.step?, Dict.get?_mapValues (Subschema.change _),
            Option.map_eq_some_iff] at hstep
          obtain ⟨value, hvalue, rfl⟩ := hstep
          rw [Subschema.change_ref] at hrest
          -- nothing stands below the text of a reference
          unfold repointOwn at hvalue
          split at hvalue
          · rw [Dict.get?_insert_self] at hvalue
            cases hvalue
            cases path with
            | nil => cases hrest
            | cons => cases hrest
          · rw [TextAt, List.cons_append, Pointer.follow?, Pointer.step?, hvalue]
            exact hrest
        · rw [get?_repoint levels entries hkey] at hstep
          obtain ⟨value, hvalue, rfl⟩ := Option.map_eq_some_iff.1 hstep
          rcases leads_or_textAt_of_change eq_string_of_repoint ih hrest with
            ⟨start, rest, child, schema, rfl, hchild, hat⟩ | htext
          · exact Or.inl ⟨schema, .under hvalue hchild hat⟩
          · refine Or.inr ?_
            rw [TextAt, List.cons_append, Pointer.follow?, Pointer.step?, hvalue]
            exact htext
    | _ => exact Or.inr h

end Bundle
end SchemaTypings
