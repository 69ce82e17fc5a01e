import SchemaTypings.Proofs.Gathering

/-! # Texts that bundling keeps

Bundling writes over the references at schemas and puts documents below the reserved key of the
root.  All other texts of the root and of the documents stand in the bundle as they were written,
and nothing but texts is changed.
-/
namespace SchemaTypings

namespace Pointer

/-- Nothing stands below a text. -/
theorem follow?_string {s t : String} {path : List String}
    (h : follow? (.string s) path = some (.string t)) : path = [] ∧ s = t := by
  cases path with
  | nil => exact ⟨rfl, Json.string.inj (Option.some.inj h)⟩
  | cons segment path => cases h

/-- One step into an object that was changed below a key. -/
theorem step?_modify_object (change : Json → Json) (key : String) (rest : List String)
    (entries : Dict Json) (segment : String) :
    step? (modify change (key :: rest) (.object entries)) segment =
      (Dict.get? entries segment).map fun child =>
        if segment = key then modify change rest child else child := by
  rw [modify, ← Dict.get?_mapValues fun key' child =>
    if key' = key then modify change rest child else child]
  refine congrArg (fun changed => Dict.get? changed segment) (List.map_congr_left fun entry _ => ?_)
  obtain ⟨key', child⟩ := entry
  simp only
  split <;> rfl

/-- One step into an array that was changed below a position. -/
theorem step?_modify_array (change : Json → Json) {key : String} {i : Nat}
    (hkey : index? key = some i) (rest : List String) (items : List Json) (segment : String) :
    step? (modify change (key :: rest) (.array items)) segment =
      (index? segment).bind fun j => items[j]?.map fun item =>
        if j = i then modify change rest item else item := by
  rw [modify, hkey]
  simp only [step?, List.getElem?_mapIdx]

open SchemaTypings.Bundle in
/-- **One step into what was changed below a step**: a step to the same place finds the change, and
every other one what it found before. -/
theorem step?_modify_cases (change : Json → Json) {value next child : Json} {key segment : String}
    (rest : List String) (hnext : step? value key = some next)
    (hchild : step? value segment = some child) :
    step? (modify change (key :: rest) value) segment = some (modify change rest next) ∧
        child = next ∧
        (∀ {path path'}, SameSpot next path path' →
          SameSpot value (key :: path) (segment :: path')) ∨
      step? (modify change (key :: rest) value) segment = some child := by
  cases value with
  | object entries =>
    have hstep := step?_modify_object change key rest entries segment
    rw [show Dict.get? entries segment = some child from hchild, Option.map_some] at hstep
    by_cases hsegment : segment = key
    · subst hsegment
      rw [if_pos rfl] at hstep
      cases hnext.symm.trans hchild
      exact Or.inl ⟨hstep, rfl, .key hchild⟩
    · rw [if_neg hsegment] at hstep
      exact Or.inr hstep
  | array items =>
    obtain ⟨i, hi, hitem⟩ := Option.bind_eq_some_iff.1 hnext
    obtain ⟨j, hj, hget⟩ := Option.bind_eq_some_iff.1 hchild
    have hstep := step?_modify_array change hi rest items segment
    rw [hj, Option.bind_some, hget, Option.map_some] at hstep
    by_cases hposition : j = i
    · subst hposition
      rw [if_pos rfl] at hstep
      cases hitem.symm.trans hget
      exact Or.inl ⟨hstep, rfl, .item hi hj hget⟩
    · rw [if_neg hposition] at hstep
      exact Or.inr hstep
  | _ => cases hnext

end Pointer

namespace Bundle

/-- **A change that keeps texts**: each stands where it stood, or at one of the paths `changed`. -/
def KeepsTexts (changed : List String → Prop) (before after : Json) : Prop :=
  ∀ path t, Pointer.follow? before path = some (.string t) →
    Pointer.follow? after path = some (.string t) ∨ changed path

variable {changed : List String → Prop} {before after : Json}

theorem KeepsTexts.mono {others : List String → Prop} (h : KeepsTexts changed before after)
    (hle : ∀ path, changed path → others path) : KeepsTexts others before after :=
  fun path t ht => (h path t ht).imp_right (hle path)

theorem KeepsTexts.trans {last : Json} (h : KeepsTexts changed before after)
    (h' : KeepsTexts changed after last) : KeepsTexts changed before last :=
  fun path t ht => (h path t ht).elim (h' path t) Or.inr

/-- Below one step texts are kept as they are there. -/
theorem KeepsTexts.below {segment : String} {path : List String} {t : String} {next next' : Json}
    (hnext : Pointer.step? before segment = some next)
    (hnext' : Pointer.step? after segment = some next')
    (ht : Pointer.follow? before (segment :: path) = some (.string t))
    (h : KeepsTexts changed next next') :
    Pointer.follow? after (segment :: path) = some (.string t) ∨ changed path := by
  rw [Pointer.follow?, hnext] at ht
  rw [Pointer.follow?, hnext']
  exact h path t ht

/-! ### Moving one reference -/

/-- **Moving one reference keeps all other texts.** -/
theorem keepsTexts_modify {A : Json} {site : List String} {s : String} (hsite : TextAt A site s)
    (target : String) :
    KeepsTexts (SameSpot A (site ++ [Keyword.ref])) A
      (Pointer.modify (retarget target) site A) := by
  induction site generalizing A with
  | nil =>
    obtain ⟨entries, hentries, -⟩ := textAt_iff.1 hsite
    cases hentries
    obtain ⟨value, hvalue, hnil⟩ := Option.bind_eq_some_iff.1 hsite
    cases hnil
    intro path t ht
    cases path with
    | nil => cases ht
    | cons segment path =>
      by_cases hsegment : segment = Keyword.ref
      · subst hsegment
        rw [Pointer.follow?, hvalue] at ht
        obtain ⟨rfl, -⟩ := Pointer.follow?_string ht
        exact Or.inr (.key hvalue (.nil _))
      · refine Or.inl ?_
        rw [Pointer.modify, retarget, Pointer.follow?, Pointer.step?,
          Dict.get?_insert_of_ne _ _ (Ne.symm hsegment)]
        exact ht
  | cons key site ih =>
    obtain ⟨next, hnext, hrest⟩ := Option.bind_eq_some_iff.1 hsite
    intro path t ht
    cases path with
    | nil =>
      cases ht
      cases hnext
    | cons segment path =>
      obtain ⟨child, hchild, htext⟩ := Option.bind_eq_some_iff.1 ht
      rcases Pointer.step?_modify_cases (retarget target) site hnext hchild with
        ⟨hstep, rfl, hspot⟩ | hstep
      · exact (KeepsTexts.below hchild hstep ht (ih hrest)).imp_right hspot
      · refine Or.inl ?_
        rw [Pointer.follow?, hstep]
        exact htext

/-! ### Repointing -/

/-- Changing subschemas keeps all texts that stand in none of them. -/
theorem keepsTexts_change {f : Json → Json} {P : Json → List String → Prop}
    (hf : ∀ child, KeepsTexts (P child) child (f child)) (keyword : String) (value : Json) :
    KeepsTexts (fun path => ∃ start rest child, path = start ++ rest ∧
      Subschema.Leads keyword value start child ∧ P child rest) value
      (Subschema.change f keyword value) := by
  intro path t ht
  rcases Subschema.change_cases f keyword value with hsame | ⟨hwhole, hleads⟩ | ⟨hstring, hsteps⟩
  · exact Or.inl (hsame.symm ▸ ht)
  · rw [hwhole]
    exact (hf value path t ht).imp_right fun hat => ⟨[], path, value, rfl, hleads, hat⟩
  · cases path with
    | nil => exact absurd (Option.some.inj ht) (hstring t)
    | cons segment path =>
      obtain ⟨child, hchild, -⟩ := Option.bind_eq_some_iff.1 ht
      have hstep := (hsteps segment).1
      rw [hchild, Option.map_some] at hstep
      exact (KeepsTexts.below hchild hstep ht (hf child)).imp_right fun hat =>
        ⟨[segment], path, child, rfl, (hsteps segment).2 child hchild, hat⟩

/-- The path to the reference of a schema. -/
def ReferencePath (value : Json) (path : List String) : Prop :=
  ∃ start entries reference, path = start ++ [Keyword.ref] ∧
    SchemaAt value start (.object entries) ∧ reference? entries = some reference

/-- **Repointing keeps all texts but the references of schemas.** -/
theorem keepsTexts_repoint (root scope : Uri) (levels : Nat) (value : Json) :
    KeepsTexts (ReferencePath value) value (repoint root scope levels value) := by
  induction levels generalizing value with
  | zero => exact fun path t ht => Or.inl ht
  | succ levels ih =>
    cases value with
    | object entries =>
      intro path t ht
      cases path with
      | nil => cases ht
      | cons key path =>
        obtain ⟨value, hfirst, htext⟩ := Option.bind_eq_some_iff.1 ht
        have hvalue : Dict.get? entries key = some value := hfirst
        by_cases hkey : key = Keyword.ref
        · subst hkey
          cases hreference : reference? entries with
          | some reference =>
            -- the text is the reference itself, below which nothing stands
            obtain ⟨text, hget, hstring⟩ := Option.bind_eq_some_iff.1 hreference
            cases hvalue.symm.trans hget
            cases value with
            | string s =>
              obtain ⟨rfl, -⟩ := Pointer.follow?_string htext
              exact Or.inr ⟨[], entries, reference, rfl, .here _, hreference⟩
            | _ => cases hstring
          | none =>
            refine Or.inl ?_
            rw [repoint, repointOwn, hreference, Pointer.follow?, Pointer.step?, Option.bind_none,
              Dict.get?_mapValues (Subschema.change _), hvalue, Option.map_some,
              Subschema.change_ref]
            exact htext
        · have hstep := @get?_repoint root scope levels entries key hkey
          rw [hvalue, Option.map_some] at hstep
          refine (KeepsTexts.below hfirst hstep ht (keepsTexts_change ih key value)).imp_right ?_
          rintro ⟨start, rest, child, rfl, hchild, inner, object, reference, rfl, hat, href⟩
          refine ⟨key :: (start ++ inner), object, reference, ?_, .under hvalue hchild hat, href⟩
          rw [List.cons_append, List.append_assoc]
    | _ => exact fun path t ht => Or.inl ht

/-- Alike objects stay alike when alike values are written under one key. -/
theorem Alike.insert {T : String → String → Prop} {xs ys : Dict Json} {key : String} {v w : Json}
    (hkeys : xs.keys = ys.keys) (hvalues : List.Forall₂ (Alike T) xs.values ys.values)
    (hvw : Alike T v w) :
    Alike T (.object (Dict.insert xs key v)) (.object (Dict.insert ys key w)) := by
  refine .object (by rw [Dict.keys_insert, Dict.keys_insert, hkeys]) ?_
  induction xs generalizing ys with
  | nil =>
    cases ys with
    | nil => exact .cons hvw .nil
    | cons y ys => cases hkeys
  | cons x xs ih =>
    cases ys with
    | nil => cases hkeys
    | cons y ys =>
      obtain ⟨hkey, hrest⟩ := List.cons.inj hkeys
      obtain ⟨k, x⟩ := x
      obtain ⟨k', y⟩ := y
      replace hkey : k = k' := hkey
      subst hkey
      cases hvalues with
      | cons hxy hvalues =>
        rw [Dict.insert, Dict.insert]
        split
        · exact .cons hvw hvalues
        · exact .cons hxy (ih hrest hvalues)

end Bundle

namespace Library

open SchemaTypings.Bundle

variable {lib : Library} {levels : Nat} {base whole : Json}

/-! ### The bundle with the documents as they were written

Nothing is repointed at no levels, so that `Holds 0` is the bundle with the documents as written. -/

/-- There is a bundle with the documents as they were written. -/
theorem Holds.exists_written (h : lib.Holds levels whole) : ∃ base, lib.Holds 0 base := by
  unfold Holds at h ⊢
  rcases Holds.cases h with ⟨hothers, -⟩ | ⟨-, entries, hentries, -⟩
  · rw [hothers]
    exact ⟨_, rfl⟩
  · have halike := alike_repoint lib.root lib.root levels lib.schema
    rw [hentries] at halike
    unfold attach
    split
    · exact ⟨_, rfl⟩
    · generalize lib.schema = schema at halike
      cases halike with
      | same => exact ⟨_, rfl⟩
      | object => exact ⟨_, rfl⟩

/-- As written and with its references repointed, the bundle has the same documents below the
reserved key of the root, if it has any. -/
theorem Holds.written_cases (hbase : lib.Holds 0 base) (h : lib.Holds levels whole) :
    base = lib.schema ∧ whole = repoint lib.root lib.root levels lib.schema ∨
      ∃ written entries, lib.schema = .object written ∧
        repoint lib.root lib.root levels lib.schema = .object entries ∧
        base = .object (Dict.insert written Keyword.external
          (.object (lib.others.map (bundled lib.root 0)))) ∧
        whole = .object (Dict.insert entries Keyword.external
          (.object (lib.others.map (bundled lib.root levels)))) := by
  rcases h.cases with ⟨hnone, hwhole⟩ | ⟨hsome, entries, hentries, hwhole⟩
  · rcases hbase.cases with ⟨-, hbase⟩ | ⟨hsome, -⟩
    · exact Or.inl ⟨hbase, hwhole⟩
    · exact absurd hnone hsome
  · rcases hbase.cases with ⟨hnone, -⟩ | ⟨-, written, hwritten, hbase⟩
    · exact absurd hnone hsome
    · exact Or.inr ⟨written, entries, hwritten, hentries, hbase, hwhole⟩

/-- **Repointing changes texts only**, in the bundle as a whole. -/
theorem Holds.alike (hbase : lib.Holds 0 base) (h : lib.Holds levels whole) :
    Alike (fun _ _ => True) base whole := by
  have hroot := alike_repoint lib.root lib.root levels lib.schema
  rcases hbase.written_cases h with ⟨rfl, rfl⟩ | ⟨written, entries, hwritten, hentries, rfl, rfl⟩
  · exact hroot
  · rw [hentries, hwritten] at hroot
    obtain ⟨ys, hys, hkeys, hvalues⟩ := hroot.object_right
    cases hys
    refine .insert hkeys hvalues (.object ?_ ?_)
    · simp only [Dict.keys, List.map_map]
      rfl
    · simp only [Dict.values, List.map_map, List.forall₂_map_left_iff,
        List.forall₂_map_right_iff]
      exact List.forall₂_same.2 fun d _ => alike_repoint lib.root d.1 levels d.2

/-- The path in the bundle to the reference at a schema. -/
def ReferencePath (lib : Library) (path : List String) : Prop :=
  ∃ p reference, path = lib.path p ++ [Keyword.ref] ∧ lib.IsSchema p ∧
    lib.reference? p = some reference

/-- The reference of a schema in a document is one of the library. -/
theorem referencePath_of_document {text : String} {d : Uri × Json} {path : List String}
    (hd : lib.find? text = some d) (h : Bundle.ReferencePath d.2 path) :
    lib.ReferencePath (lib.path ⟨text, []⟩ ++ path) := by
  obtain ⟨start, entries, reference, rfl, hat, href⟩ := h
  refine ⟨⟨text, start⟩, reference, ?_, ⟨d, _, hd, hat⟩,
    reference?_eq_some.2 ⟨d, hd, textAt_iff.2 ⟨entries, hat.follow?, href⟩⟩⟩
  unfold Library.path
  split <;> rfl

/-- **The bundle keeps all texts but the references at schemas.** -/
theorem Holds.keepsTexts (hbase : lib.Holds 0 base) (h : lib.Holds levels whole) :
    KeepsTexts lib.ReferencePath base whole := by
  have hroot : KeepsTexts lib.ReferencePath lib.schema
      (repoint lib.root lib.root levels lib.schema) :=
    (keepsTexts_repoint lib.root lib.root levels lib.schema).mono fun path hpath => by
      have hat := referencePath_of_document find?_root hpath
      rwa [Library.path, if_pos rfl] at hat
  rcases hbase.written_cases h with ⟨rfl, rfl⟩ | ⟨written, entries, hwritten, hentries, rfl, rfl⟩
  · exact hroot
  · rw [hentries, hwritten] at hroot
    intro path t ht
    cases path with
    | nil => cases ht
    | cons key path =>
      by_cases hkey : key = Keyword.external
      · subst hkey
        rw [Pointer.follow?, Pointer.step?, Dict.get?_insert_self, Option.bind_some] at ht ⊢
        cases path with
        | nil => cases ht
        | cons text path =>
          obtain ⟨value, hvalue, htext⟩ := Option.bind_eq_some_iff.1 ht
          obtain ⟨d, hd, heq⟩ := List.mem_map.1 (Dict.mem_of_get? hvalue)
          cases heq
          have hfound : lib.find? d.1.text = some d :=
            find?_eq_some.2 ⟨List.mem_cons_of_mem _ hd, rfl⟩
          have hother : d.1.text ≠ lib.root.text := fun heq =>
            (List.nodup_cons.1 lib.distinct).1 (heq ▸ List.mem_map.2 ⟨d, hd, rfl⟩)
          have hstep : Pointer.step? (.object (lib.others.map (bundled lib.root levels)))
              d.1.text = some (repoint lib.root d.1 levels d.2) := get?_bundled hd
          refine (KeepsTexts.below hvalue hstep ht
            (keepsTexts_repoint lib.root d.1 levels d.2)).imp_right fun hpath => ?_
          have hat := referencePath_of_document hfound hpath
          rwa [Library.path, if_neg hother] at hat
      · rw [Pointer.follow?, Pointer.step?, Dict.get?_insert_of_ne _ _ (Ne.symm hkey)] at ht ⊢
        exact hroot (key :: path) t ht

end Library
end SchemaTypings
