import SchemaTypings.Proofs.Fragments
import SchemaTypings.Proofs.ReferenceTargets

/-! # Pointers from inside and from outside

A reference to a place of a document is a bare fragment inside the document, and outside it the URI
of the document with a fragment.  The bare fragment is kept as it is written; the other one goes
through the reading of URIs, which encodes it.  So the two lead to the same pointer exactly when
nothing in the fragment is encoded.
-/
namespace SchemaTypings
namespace Resolver

open Uri.Reader (IsAbsolute cleanEnd)

/-! ### Targets -/

/-- The fragment of a reference as the reading of URIs brings it. -/
def readFragment (fragment : String) : String :=
  String.ofList (Uri.Percent.encode Uri.Percent.inFragment (cleanEnd fragment.toList))

/-- **A fragment stays as it is written exactly when nothing in it is encoded.** -/
theorem readFragment_eq_iff {fragment : String} : readFragment fragment = fragment ↔
    ∀ c ∈ fragment.toList, Uri.Percent.inFragment c = false := by
  rw [← Uri.Reader.encode_cleanEnd_eq_iff, readFragment, ← String.toList_inj, String.toList_ofList]

/-- A pointer is read as a pointer. -/
theorem isPointer_readFragment {fragment : String} (h : isPointer fragment = true) :
    isPointer (readFragment fragment) = true := by
  rcases Bool.or_eq_true_iff.1 h with hempty | hslash
  · rw [String.isEmpty_iff.1 hempty]
    decide
  · obtain ⟨more, hmore⟩ := List.head?_eq_some_iff.1 (of_decide_eq_true hslash)
    have hhead : (readFragment fragment).toList.head? = some '/' := by
      rw [readFragment, String.toList_ofList, hmore, Uri.Reader.cleanEnd_cons_slash]
      rfl
    rw [isPointer, hhead]
    exact Bool.or_true _

/-- A bare fragment is a place of the document in which it stands. -/
theorem target?_bare (scope : Uri) (fragment : String) :
    target? scope ("#" ++ fragment) = some (scope, fragment) := by
  have hchars : ("#" ++ fragment).toList = '#' :: fragment.toList := by simp
  simp only [target?, hchars, String.ofList_toList]

/-- **An absolute reference is a place of the document that it names**, whatever the scope is. -/
theorem target?_absolute {text : String} (htext : IsAbsolute text.toList) {u : Uri}
    (hu : Uri.read? text = .ok u) (scope : Uri) (fragment : String) :
    target? scope (text ++ "#" ++ fragment) = some (u.document, readFragment fragment) := by
  obtain ⟨scheme, rest, hscheme, -⟩ := htext.named
  obtain ⟨c, more, hcons, hc⟩ := Uri.Reader.isAlpha_of_scheme? hscheme
  have hchars : (text ++ "#" ++ fragment).toList = c :: (more ++ '#' :: fragment.toList) := by
    simp [hcons]
  unfold target?
  split
  · next heq =>
    rw [hchars] at heq
    cases heq
    cases hc
  · rw [Uri.join?_fragment htext hu]
    rfl

/-! ### Answers -/

/-- A document that is the root, or that the source serves. -/
def Serves (r : Resolver) (document : Uri) : Prop :=
  r.isRoot document = true ∨ ∃ value, r.source.fetch document = .ok value

/-- A document that is served can be had. -/
theorem Serves.request {r : Resolver} {document : Uri} (h : r.Serves document) :
    ∃ after, r.request document = (.ok (), after) ∧ after.root = r.root := by
  by_cases hknown : (r.isRoot document || r.asked.contains document.text) = true
  · exact ⟨r, if_pos hknown, rfl⟩
  · obtain ⟨value, hvalue⟩ := h.resolve_left fun hroot => hknown (by rw [hroot, Bool.true_or])
    simp only [Resolver.request, if_neg hknown, hvalue]
    exact ⟨_, rfl, rfl⟩

/-- **A reference to a place of a document that is served is answered** by the place below the
document. -/
theorem Serves.resolve {r : Resolver} {document : Uri} (h : r.Serves document)
    {reference fragment : String} {scope : Uri}
    (htarget : target? scope reference = some (document, fragment))
    (hpointer : isPointer fragment = true) (site : String) :
    (r.resolve reference scope site).1 = .ok (r.documentPointer document ++ fragment) := by
  obtain ⟨after, hrequest, hroot⟩ := h.request
  have hsame : after.documentPointer document = r.documentPointer document := by
    rw [documentPointer, documentPointer, isRoot, isRoot, hroot]
  simp only [Resolver.resolve, htarget, hpointer, not_true, if_false, hrequest, hsame]

/-- **When a pointer names the same place from inside and from outside.**  A bare fragment in a
document that is served leads to the place below the document as it is written.  The URI of the
document with the fragment leads, from whatever scope, to the place that the encoded fragment names.
The two are the same exactly when nothing in the fragment is encoded. -/
theorem outside_eq_inside_iff {r : Resolver} {text : String} (htext : IsAbsolute text.toList)
    {u : Uri} (hu : Uri.read? text = .ok u) (hserves : r.Serves u.document) {fragment : String}
    (hpointer : isPointer fragment = true) (scope : Uri) (inside outside : String) :
    (r.resolve ("#" ++ fragment) u.document inside).1 =
      .ok (r.documentPointer u.document ++ fragment) ∧
    (r.resolve (text ++ "#" ++ fragment) scope outside).1 =
      .ok (r.documentPointer u.document ++ readFragment fragment) ∧
    (r.isRoot u.document = true → r.documentPointer u.document = "#") ∧
    ((r.resolve (text ++ "#" ++ fragment) scope outside).1 =
        (r.resolve ("#" ++ fragment) u.document inside).1 ↔
      ∀ c ∈ fragment.toList, Uri.Percent.inFragment c = false) := by
  have hinside := hserves.resolve (target?_bare u.document fragment) hpointer inside
  have houtside := hserves.resolve (target?_absolute htext hu scope fragment)
    (isPointer_readFragment hpointer) outside
  refine ⟨hinside, houtside, fun hroot => if_pos hroot, ?_⟩
  rw [hinside, houtside, ← readFragment_eq_iff]
  constructor
  · intro h
    have happend := congrArg String.toList (Except.ok.inj h)
    rw [String.toList_append, String.toList_append] at happend
    exact String.toList_inj.1 (List.append_cancel_left happend)
  · intro h
    rw [h]

/-- The URI of the other document as it is written. -/
theorem isAbsolute_otherText : IsAbsolute otherText.toList where
  clean := by decide
  bare := by decide
  named := ⟨"file", "///other.json".toList, by decide, by decide,
    fun _ => ⟨'/', '/', "/other.json".toList, by decide, rfl, rfl⟩⟩

/-- A definition of the other document is named alike in the root and in the document itself. -/
theorem outside_eq_inside_otherDefinitions :
    ((start withDefinitions defaultRoot otherSource).resolve
        "file:///other.json#/definitions/D" defaultRoot "#/properties/a").1 =
      ((start withDefinitions defaultRoot otherSource).resolve "#/definitions/D" otherUri
        "#/definitions/X").1 := by
  have hread : (Uri.read? otherText).toOption.any (fun uri => uri = otherUri) = true := by
    decide +kernel
  obtain ⟨uri, hread, heq⟩ := exists_ok_of_any hread
  obtain rfl := of_decide_eq_true heq
  have htext : otherUri.document.text = otherText := by decide
  have hserves : (start withDefinitions defaultRoot otherSource).Serves otherUri.document :=
    Or.inr ⟨otherDefinitions, DocumentSource.fetch_ofDocuments.2 (by rw [htext]; rfl)⟩
  have hpointer : isPointer "/definitions/D" = true := by decide
  have hplain : "/definitions/D".toList.all (fun c => !Uri.Percent.inFragment c) = true := by
    decide
  have hsame := (outside_eq_inside_iff isAbsolute_otherText hread hserves hpointer defaultRoot
    "#/definitions/X" "#/properties/a").2.2.2.2 fun c hc => by
      simpa using List.all_eq_true.1 hplain c hc
  have houtside : otherText ++ "#" ++ "/definitions/D" = "file:///other.json#/definitions/D" := by
    decide +kernel
  have hinside : "#" ++ "/definitions/D" = "#/definitions/D" := by decide
  rwa [houtside, hinside, show otherUri.document = otherUri from by decide] at hsame

/-- **A pointer that names two places**: a blank is kept inside the document, and encoded outside. -/
theorem outside_ne_inside_blank :
    Uri.read? "file:///schema.json" = .ok defaultRoot ∧ defaultRoot.document = defaultRoot ∧
    (start (.object []) defaultRoot .none).isRoot defaultRoot = true ∧
    isPointer "/definitions/my type" = true ∧
    ((start (.object []) defaultRoot .none).resolve "#/definitions/my type" defaultRoot
      "#/properties/a").1 = .ok "#/definitions/my type" ∧
    ((start (.object []) defaultRoot .none).resolve "file:///schema.json#/definitions/my type"
      defaultRoot "#/properties/a").1 = .ok "#/definitions/my%20type" ∧
    "#/definitions/my%20type" ≠ "#/definitions/my type" := by
  have hread : (Uri.read? "file:///schema.json").toOption.any (· = defaultRoot) = true := by
    decide +kernel
  have hinside : ((start (.object []) defaultRoot .none).resolve "#/definitions/my type"
      defaultRoot "#/properties/a").1.toOption.any (· = "#/definitions/my type") = true := by
    decide +kernel
  have houtside : ((start (.object []) defaultRoot .none).resolve
      "file:///schema.json#/definitions/my type" defaultRoot "#/properties/a").1.toOption.any
        (· = "#/definitions/my%20type") = true := by
    decide +kernel
  obtain ⟨_, hread, heq⟩ := exists_ok_of_any hread
  obtain ⟨_, hinside, heqInside⟩ := exists_ok_of_any hinside
  obtain ⟨_, houtside, heqOutside⟩ := exists_ok_of_any houtside
  exact ⟨of_decide_eq_true heq ▸ hread, by decide, by decide, by decide,
    of_decide_eq_true heqInside ▸ hinside, of_decide_eq_true heqOutside ▸ houtside, by decide⟩

end Resolver
end SchemaTypings
