import SchemaTypings.Proofs.KeptTexts
import SchemaTypings.Proofs.MetPlaces

/-! # References that are reported as unresolved

Bundling accepts a reference whatever the value is that it leads to, and refuses one that leads
nowhere.  Linking asks for more: a reference beside other keywords is marked unless it leads to an
object.  Where all references stand at schemas, so that bundling has seen them, these are the only
ones that are reported.
-/
namespace SchemaTypings

namespace Bundle

/-- **All references of a document stand at schemas**, where bundling visits them. -/
def RefersAtSchemas (document : Json) : Prop :=
  ∀ path t, TextAt document path t → ∃ schema, SchemaAt document path schema

/-- The reference below one key of an object. -/
theorem textAt_object_cons {entries : Dict Json} {key : String} {path : List String} {t : String} :
    TextAt (.object entries) (key :: path) t ↔
      ∃ value, (entries.get? key) = some value ∧ TextAt value path t := by
  unfold TextAt
  rw [List.cons_append, Pointer.follow?, Option.bind_eq_some_iff]
  rfl

/-- **A reference beside other keywords misses an object**: it leads to another value. -/
def MissesObject (root : Json) (pointer target : String) : Prop :=
  ∃ object value, Pointer.resolve? root pointer = some (.object object) ∧
    bareRef? (.object object) = none ∧ reference? object = some target ∧
    Pointer.resolve? root target = some value ∧ value.object? = none

end Bundle

/-- The text of a URI is not the keyword for references. -/
theorem Uri.text_ne_ref (uri : Uri) : uri.text ≠ Keyword.ref := by
  intro heq
  have hcolon : ':' ∈ uri.text.toList := by
    simp [Uri.text]
  rw [heq] at hcolon
  exact absurd hcolon (by decide)

namespace Library

open SchemaTypings.Bundle

variable {lib : Library} {source : DocumentSource} {levels : Nat} {base whole settled : Json}

/-- **Every reference in the bundle is one of a document**, as long as nothing is repointed. -/
theorem Holds.exists_place (h : lib.Holds 0 base) {path : List String} {t : String}
    (htext : TextAt base path t) : ∃ p, lib.path p = path ∧ lib.reference? p = some t := by
  have hroot : ∀ path, TextAt lib.schema path t →
      ∃ p, lib.path p = path ∧ lib.reference? p = some t := fun path htext =>
    ⟨⟨lib.root.text, path⟩, if_pos rfl, reference?_eq_some.2 ⟨_, find?_root, htext⟩⟩
  rcases h.cases with ⟨-, rfl⟩ | ⟨-, entries, hentries, rfl⟩
  · exact hroot path htext
  · replace hentries : lib.schema = .object entries := hentries
    rw [hentries] at hroot
    have hget : ∀ {key}, key ≠ Keyword.external →
        Dict.get? (Dict.insert entries Keyword.external
          (.object (lib.others.map (bundled lib.root 0)))) key = Dict.get? entries key :=
      fun hne => Dict.get?_insert_of_ne _ _ (Ne.symm hne)
    cases path with
    | nil =>
      refine hroot [] ?_
      rw [TextAt, List.nil_append, Pointer.follow?, Pointer.step?] at htext ⊢
      rwa [hget (by decide)] at htext
    | cons key path =>
      by_cases hkey : key = Keyword.external
      · subst hkey
        obtain ⟨documents, hdocuments, htext⟩ := textAt_object_cons.1 htext
        rw [Dict.get?_insert_self] at hdocuments
        cases hdocuments
        cases path with
        | nil =>
          -- no document has the keyword for its URI
          obtain ⟨value, hvalue, -⟩ := Option.bind_eq_some_iff.1 htext
          obtain ⟨d, -, heq⟩ := List.mem_map.1 (Dict.mem_of_get? hvalue)
          exact absurd (Prod.mk.inj heq).1 (Uri.text_ne_ref d.1)
        | cons text path =>
          obtain ⟨value, hvalue, htext⟩ := textAt_object_cons.1 htext
          obtain ⟨d, hd, heq⟩ := List.mem_map.1 (Dict.mem_of_get? hvalue)
          cases heq
          have hother : d.1.text ≠ lib.root.text := fun heq =>
            (List.nodup_cons.1 lib.distinct).1 (heq ▸ List.mem_map.2 ⟨d, hd, rfl⟩)
          exact ⟨⟨d.1.text, path⟩, if_neg hother, reference?_eq_some.2
            ⟨d, find?_eq_some.2 ⟨List.mem_cons_of_mem _ hd, rfl⟩, htext⟩⟩
      · refine hroot (key :: path) ?_
        obtain ⟨value, hvalue, htext⟩ := textAt_object_cons.1 htext
        rw [hget hkey] at hvalue
        exact textAt_object_cons.2 ⟨value, hvalue, htext⟩

/-- **Every reference in the bundle leads to a value**, which is no bare reference, where all
references of the documents stand at schemas. -/
theorem Bundles.concrete (h : lib.Bundles source levels whole settled)
    (hplaces : ∀ d ∈ lib.documents, RefersAtSchemas d.2) {path : List String} {t : String}
    (htext : TextAt settled path t) :
    ∃ value, Pointer.resolve? settled t = some value ∧ bareRef? value = none := by
  obtain ⟨base, hbase⟩ := h.holds.exists_written
  obtain ⟨shown, hshown, -⟩ := htext.left h.alike
  obtain ⟨written, hwritten, -⟩ := hshown.left (hbase.alike h.holds)
  obtain ⟨p, rfl, hreference⟩ := hbase.exists_place hwritten
  obtain ⟨d, hd, hplace⟩ := reference?_eq_some.1 hreference
  obtain ⟨schema, hschema⟩ := hplaces d (find?_eq_some.1 hd).1 p.path written hplace
  exact h.concrete_at ⟨d, schema, hd, hschema⟩ hreference htext

end Library

namespace SchemaGraph

open SchemaTypings.Bundle

/-- A reference that leads nowhere misses an object, where every reference leads to a value that is
no bare reference. -/
theorem lostTarget?_eq_some {root value : Json} {pointer target : String}
    (hroot : ∀ path t, TextAt root path t →
      ∃ value, Pointer.resolve? root t = some value ∧ bareRef? value = none)
    (hvalue : Pointer.resolve? root pointer = some value) :
    lostTarget? root pointer value = some target ↔ MissesObject root pointer target := by
  unfold lostTarget?
  cases hbare : bareRef? value with
  | some t =>
    obtain ⟨other, hother, hnone⟩ := hroot _ _ (Library.textAt_of_bareRef? hvalue hbare)
    have hkept : ¬ ((Pointer.resolve? root t).isNone ∨ t = pointer) := by
      rintro (hlost | rfl)
      · rw [hother] at hlost
        cases hlost
      · cases hvalue.symm.trans hother
        cases hbare.symm.trans hnone
    simp only [if_neg hkept]
    constructor
    · exact fun h => nomatch h
    · rintro ⟨object, -, hobject, hnone, -⟩
      cases hvalue.symm.trans hobject
      cases hbare.symm.trans hnone
  | none =>
    constructor
    · intro h
      simp only at h
      split at h
      · next t ht =>
        split at h
        · next hmisses =>
          cases h
          obtain ⟨object, hobject, hreference⟩ := Option.bind_eq_some_iff.1 ht
          cases value with
          | object entries =>
            cases hobject
            obtain ⟨other, hother, -⟩ := hroot _ _ (textAt_iff.2 ⟨_, hvalue, hreference⟩)
            refine ⟨_, other, hvalue, hbare, hreference, hother, ?_⟩
            rw [hother, Option.bind_some] at hmisses
            exact Option.isNone_iff_eq_none.1 hmisses
          | _ => cases hobject
        · cases h
      · cases h
    · rintro ⟨object, other, hobject, -, hreference, hother, hmisses⟩
      cases hvalue.symm.trans hobject
      have hfound : (Json.object object).object?.bind reference? = some target := hreference
      simp only [hfound, hother, Option.bind_some, hmisses]
      rfl

/-- A node is reported for its reference when it is marked. -/
theorem unresolvedReference_mem_nodeViolations {n : SchemaNode} {pointer target : String} :
    .unresolvedReference pointer target ∈ nodeViolations n ↔
      n.pointer = pointer ∧ n.unresolvedRef = some target := by
  have hothers : ∀ violation ∈ requiredViolations n ++ countViolations n ++ boundViolations n ++
      deprecatedViolations n ++ patternViolations n ++ enumViolations n,
      violation ≠ .unresolvedReference pointer target := by
    intro violation hmem
    simp only [List.mem_append, or_assoc] at hmem
    rcases hmem with hmem | hmem | hmem | hmem | hmem | hmem
    · obtain ⟨_, -, rfl⟩ := List.mem_map.1 hmem
      exact fun h => nomatch h
    · obtain ⟨_, -, hmem⟩ := List.mem_flatMap.1 hmem
      grind
    · grind [boundViolations]
    · grind [deprecatedViolations]
    · obtain ⟨_, -, rfl⟩ := List.mem_map.1 hmem
      exact fun h => nomatch h
    · grind [enumViolations]
  have hown : .unresolvedReference pointer target ∈ referenceViolations n ↔
      n.pointer = pointer ∧ n.unresolvedRef = some target := by
    unfold referenceViolations
    cases n.unresolvedRef with
    | none => simp
    | some other => simp [eq_comm]
  rw [← hown]
  simp only [nodeViolations, List.mem_append, or_assoc] at hothers ⊢
  constructor
  · intro hmem
    by_contra hnot
    exact hothers _ (by tauto) rfl
  · tauto

/-- Unresolved references are reported for the nodes that are marked. -/
theorem unresolvedReference_mem_violations {g : SchemaGraph} {name pointer target : String} :
    .unresolvedReference pointer target ∈ g.violations name ↔
      ∃ id < g.size, (g.node id).pointer = pointer ∧ (g.node id).unresolvedRef = some target := by
  have hroot : .unresolvedReference pointer target ∉ g.rootViolations name := by
    grind [rootViolations]
  have hcycles : .unresolvedReference pointer target ∉
      g.cycles.flatMap (g.cycleViolations name) := by
    intro hmem
    obtain ⟨_, -, hmem⟩ := List.mem_flatMap.1 hmem
    grind [cycleViolations]
  simp only [violations, List.mem_append, hroot, hcycles, false_or, or_false, List.mem_flatMap,
    unresolvedReference_mem_nodeViolations]
  constructor
  · rintro ⟨n, hmem, hn⟩
    obtain ⟨id, hid, rfl⟩ := List.mem_iff_getElem.1 hmem
    refine ⟨id, by simpa [size] using hid, ?_⟩
    rw [Array.length_toList] at hid
    rw [node, Array.getElem?_eq_getElem hid]
    simpa using hn
  · rintro ⟨id, hid, hn⟩
    have hnode : g.node id = g.nodes[id] := by
      rw [node, Array.getElem?_eq_getElem hid]
      rfl
    exact ⟨g.nodes[id], Array.getElem_mem_toList hid, hnode ▸ hn⟩

/-- **Which references are unresolved.**  Where all references stand at schemas, in the root and in
the documents that the source gives, a node is marked exactly when its schema refers, beside other
keywords, to a value that is no object; and exactly these references are reported.  In particular no
bare reference is, and none beside other keywords that leads to an object. -/
theorem unresolvedRef_of_ofBundle {schema : Json} {o : Options} {source : DocumentSource}
    {b : Bundle} {g : SchemaGraph} (hschema : schema.hasDistinctKeys = true)
    (hsource : ∀ uri value, source.fetch uri = .ok value → value.hasDistinctKeys = true)
    (hplaces : RefersAtSchemas schema)
    (hothers : ∀ uri value, source.fetch uri = .ok value → RefersAtSchemas value)
    (hbundle : Bundle.ofSchema schema o source = .ok b) (hgraph : ofBundle b o = .ok g) :
    (∀ id < g.size, ∀ target, (g.node id).unresolvedRef = some target ↔
      MissesObject b.schema (g.node id).pointer target) ∧
    ∀ name pointer target, .unresolvedReference pointer target ∈ g.violations name ↔
      ∃ id < g.size, (g.node id).pointer = pointer ∧ MissesObject b.schema pointer target := by
  obtain ⟨-, -, lib, whole, -, hlib, h⟩ := Library.exists_of_ofSchema hschema hsource hbundle
  have hdocuments : ∀ d ∈ lib.documents, RefersAtSchemas d.2 := by
    intro d hd
    rcases List.mem_cons.1 hd with rfl | hd
    · rwa [hlib]
    · exact hothers _ _ (h.fetched d hd)
  obtain ⟨-, -, -, hnodes, -⟩ := accounted_of_ofBundle (h.alike.hasDistinctKeys h.keys) hgraph
  have hmarked : ∀ id < g.size, ∀ target, (g.node id).unresolvedRef = some target ↔
      MissesObject b.schema (g.node id).pointer target := by
    intro id hid target
    obtain ⟨value, hvalue⟩ := hnodes id hid
    exact (Eq.congr_left hvalue.target).trans
      (lostTarget?_eq_some (fun _ _ => h.concrete hdocuments) hvalue.found)
  refine ⟨hmarked, fun name pointer target => unresolvedReference_mem_violations.trans ?_⟩
  constructor
  · rintro ⟨id, hid, rfl, htarget⟩
    exact ⟨id, hid, rfl, (hmarked id hid target).1 htarget⟩
  · rintro ⟨id, hid, rfl, hmisses⟩
    exact ⟨id, hid, rfl, (hmarked id hid target).2 hmisses⟩

/-- A schema that refers to a definition which allows everything, once barely and once beside a
description. -/
def described : Json :=
  .object [("properties", .object [("a", .object [("$ref", .string "#/definitions/T")]),
      ("b", .object [("$ref", .string "#/definitions/T"), ("description", .string "anything")])]),
    ("definitions", .object [("T", .bool true)])]

theorem refersAtSchemas_described : RefersAtSchemas described := by
  have hstring : ∀ s path t, ¬ TextAt (.string s) path t := by
    intro s path t h
    cases path <;> cases h
  intro path t htext
  cases path with
  | nil => cases htext
  | cons key path =>
    obtain ⟨value, hvalue, htext⟩ := textAt_object_cons.1 htext
    cases path with
    | nil =>
      rcases List.mem_pair.1 (Dict.mem_of_get? hvalue) with heq | heq
      all_goals
        cases heq
        cases htext
    | cons name path =>
      rcases List.mem_pair.1 (Dict.mem_of_get? hvalue) with heq | heq
      · cases heq
        obtain ⟨schema, hschema, htext⟩ := textAt_object_cons.1 htext
        cases path with
        | nil => exact ⟨schema, .under hvalue (.named rfl hschema) (.here schema)⟩
        | cons key path =>
          -- in neither schema there is more than texts
          rcases List.mem_pair.1 (Dict.mem_of_get? hschema) with heq | heq
          all_goals
            cases heq
            obtain ⟨value, hvalue, htext⟩ := textAt_object_cons.1 htext
            have hmem := Dict.mem_of_get? hvalue
            simp only [List.mem_cons, List.not_mem_nil, or_false, Prod.mk.injEq] at hmem
            grind
      · cases heq
        obtain ⟨schema, hschema, htext⟩ := textAt_object_cons.1 htext
        cases List.mem_singleton.1 (Dict.mem_of_get? hschema)
        cases path <;> cases htext

/-- The bare reference is linked to the definition, and only the other one is marked. -/
theorem unresolvedRef_of_ofBundle_described :
    ∃ b g, Bundle.ofSchema described {} .none = .ok b ∧ ofBundle b {} = .ok g ∧ g.size = 3 ∧
      (∀ id < g.size, ∀ target, (g.node id).unresolvedRef = some target ↔
        MissesObject b.schema (g.node id).pointer target) := by
  have hrun : (Bundle.ofSchema described {} .none).toOption.any (fun b =>
      (ofBundle b {}).toOption.any fun g => decide (g.size = 3)) = true := by
    decide +kernel
  obtain ⟨b, hb, hrun⟩ := exists_ok_of_any hrun
  obtain ⟨g, hg, hsize⟩ := exists_ok_of_any hrun
  have hnone : ∀ {p : Json → Prop} uri value, DocumentSource.none.fetch uri = .ok value → p value :=
    fun uri value hfetch => nomatch hfetch
  exact ⟨b, g, hb, hg, of_decide_eq_true hsize, (unresolvedRef_of_ofBundle (by decide) hnone
    refersAtSchemas_described hnone hb hg).1⟩

/-- **A reference that is accepted and then reported**: it stands at a schema and leads to a value,
and still its node is marked. -/
theorem violations_described_report_accepted_reference :
    described.hasDistinctKeys = true ∧ RefersAtSchemas described ∧
      ∃ b g, Bundle.ofSchema described {} .none = .ok b ∧ ofBundle b {} = .ok g ∧
        (Pointer.resolve? b.schema "#/definitions/T").isSome = true ∧
        .unresolvedReference "#/properties/b" "#/definitions/T" ∈ g.violations "Root" := by
  have hrun : (Bundle.ofSchema described {} .none).toOption.any (fun b =>
      (Pointer.resolve? b.schema "#/definitions/T").isSome &&
        (ofBundle b {}).toOption.any fun g => decide (2 < g.size) &&
          decide ((g.node 2).pointer = "#/properties/b") &&
          decide ((g.node 2).unresolvedRef = some "#/definitions/T")) = true := by
    decide +kernel
  obtain ⟨b, hb, hrun⟩ := exists_ok_of_any hrun
  obtain ⟨hresolves, hrun⟩ := Bool.and_eq_true_iff.1 hrun
  obtain ⟨g, hg, hchecks⟩ := exists_ok_of_any hrun
  simp only [Bool.and_eq_true, decide_eq_true_iff] at hchecks
  obtain ⟨⟨hsize, hpointer⟩, htarget⟩ := hchecks
  exact ⟨by decide, refersAtSchemas_described, b, g, hb, hg, hresolves,
    unresolvedReference_mem_violations.2 ⟨2, hsize, hpointer, htarget⟩⟩

end SchemaGraph
end SchemaTypings
