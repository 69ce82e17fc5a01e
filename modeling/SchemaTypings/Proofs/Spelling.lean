import SchemaTypings.Proofs.Literals
import SchemaTypings.Proofs.Memory

/-! # The text of a type is that of its phrase

What rendering writes for a kind is the text of the phrase of the kind, where it writes the texts of
the phrases of its parts; and the phrase is proper, where those of its parts are.
-/
namespace SchemaTypings
namespace Phrase
open TypeGraph

/-! ### Proper phrases of kinds -/

theorem isWord_of_isIdentifier {s : String} (h : Identifier.isIdentifier s = true) : IsWord s :=
  Or.inl (isPlain_of_isIdentifier h)

theorem proper_keyword {s : String} (h : Identifier.isIdentifier s = true) : Proper .open (word s) :=
  .tight (.word (isWord_of_isIdentifier h))

theorem proper_ofUnion {ps : List Phrase} (h : ∀ p ∈ ps, Proper .open p) :
    Proper .open (ofUnion ps) := by
  match ps with
  | [] => exact proper_keyword (by decide)
  | [p] => exact h p (List.mem_singleton_self p)
  | p :: q :: rest =>
    refine .tight (.group ?_ fun part hpart => ?_)
    · have hp := List.length_pos_iff.2 (h p (by simp)).alternatives_ne_nil
      have hq := List.length_pos_iff.2 (h q (by simp)).alternatives_ne_nil
      simp only [List.flatMap_cons, List.length_append]
      omega
    · obtain ⟨r, hr, hpart⟩ := List.mem_flatMap.1 hpart
      exact (h r hr).of_mem_alternatives hpart

theorem proper_ofIntersection {ps : List Phrase} (h : ∀ p ∈ ps, Proper .open p) :
    Proper .open (ofIntersection ps) := by
  match ps with
  | [] => exact proper_keyword (by decide)
  | [p] => exact h p (List.mem_singleton_self p)
  | p :: q :: rest =>
    refine .tight (.group (by simp) fun part hpart => ?_)
    obtain ⟨r, hr, rfl⟩ := List.mem_map.1 hpart
    exact (h r hr).grouped

theorem proper_loose {ps : List Phrase} (hne : ps ≠ []) (h : ∀ p ∈ ps, Proper .closed p) :
    Proper .open (loose ps) := by
  match ps with
  | [] => exact absurd rfl hne
  | [p] => exact .tight (h p (List.mem_singleton_self p))
  | p :: q :: rest => exact .either (by simp) h

theorem proper_ofShape {shape : List Phrase × Option Phrase}
    (helements : ∀ p ∈ shape.1, Proper .open p) (hrest : ∀ p ∈ shape.2, Proper .open p) :
    Proper .closed (ofShape shape) := by
  refine .tuple fun p hp => ?_
  rcases List.mem_append.1 hp with hp | hp
  · exact .item (helements p hp)
  · obtain ⟨q, hq, rfl⟩ := List.mem_map.1 hp
    exact .spread (hrest q (Option.mem_toList.1 hq)).grouped

theorem proper_ofMember (o : Options) (m : Member) {type : Phrase} (h : Proper .open type) :
    Proper .field (ofMember o m type) := by
  refine .field ?_
  split
  · refine .either (by simp) fun p hp => ?_
    simp only [List.mem_cons, List.not_mem_nil, or_false] at hp
    rcases hp with rfl | rfl
    · exact h.grouped
    · exact .word (isWord_of_isIdentifier (by decide))
  · exact h

end Phrase

namespace TypeGraph

theorem tupleShapes_map {α β : Type} (f : α → β) (placeholder : α) (elements : List α) (min : Nat)
    (max : Option Nat) (spread : Option α) :
    tupleShapes (f placeholder) (elements.map f) min max (spread.map f) =
      (tupleShapes placeholder elements min max spread).map fun shape =>
        (shape.1.map f, shape.2.map f) := by
  have hall : tupleElements (f placeholder) (elements.map f) max (spread.map f) =
      (tupleElements placeholder elements max spread).map f := by
    cases spread <;> cases max <;> simp [tupleElements]
  have hrest : tupleSpread (f placeholder) elements.length min max (spread.map f) =
      (tupleSpread placeholder elements.length min max spread).map f := by
    cases spread <;> cases max <;> simp [tupleSpread, apply_ite]
  simp only [tupleShapes, hall, hrest, List.length_map, List.map_append, List.map_map,
    List.map_cons, List.map_nil, Function.comp_def, List.map_take, Option.map_none]

/-- Every element of an alternative, and its spread, is an element of the whole, its spread or the
placeholder. -/
theorem forall_mem_tupleShapes {α : Type} {R : α → Prop} {placeholder : α} {elements : List α}
    {spread : Option α} (hplaceholder : R placeholder) (helements : ∀ a ∈ elements, R a)
    (hspread : ∀ a ∈ spread, R a) (min : Nat) (max : Option Nat) :
    ∀ shape ∈ tupleShapes placeholder elements min max spread,
      (∀ a ∈ shape.1, R a) ∧ ∀ a ∈ shape.2, R a := by
  have hall : ∀ a ∈ tupleElements placeholder elements max spread, R a := by
    intro a ha
    unfold tupleElements at ha
    split at ha
    · rcases List.mem_append.1 ha with ha | ha
      · exact helements a ha
      · exact List.eq_of_mem_replicate ha ▸ hplaceholder
    · exact helements a ha
  intro shape hshape
  rcases List.mem_append.1 hshape with hshape | hshape
  · obtain ⟨i, -, rfl⟩ := List.mem_map.1 hshape
    exact ⟨fun a ha => hall a (List.mem_of_mem_take ha), by simp⟩
  · rw [List.mem_singleton.1 hshape]
    refine ⟨hall, fun a ha => ?_⟩
    unfold tupleSpread at ha
    split at ha
    · split at ha
      · cases ha
        exact hplaceholder
      · cases ha
    · exact hspread a ha

end TypeGraph

/-- A kind whose own words can be told apart in a text: its values are scalar, and it holds no text
of unknown form. -/
def TypeKind.IsSpelled : TypeKind → Prop
  | .literal value => value.IsScalar
  | .enumeration entries => ∀ entry ∈ entries, entry.value.IsScalar
  | .reference target => Identifier.isIdentifier target = true
  | .custom _ => False
  | _ => True

namespace Phrase
open TypeGraph

theorem proper_placeholder (o : Options) : Proper .open (word o.placeholder) := by
  refine proper_keyword ?_
  unfold Options.placeholder
  split <;> decide

/-- The phrase of a kind is proper where those of the parts that it shows are. -/
theorem proper_ofKind (o : Options) {use : TypeId → Phrase} {kind : TypeKind}
    (hkind : kind.IsSpelled) (huse : ∀ c ∈ kind.shown, Proper .open (use c)) :
    Proper .open (ofKind o use kind) := by
  have hparts : ∀ ids : List TypeId, (∀ c ∈ ids, c ∈ kind.shown) →
      ∀ p ∈ ids.map use, Proper .open p := by
    intro ids hids p hp
    obtain ⟨c, hc, rfl⟩ := List.mem_map.1 hp
    exact huse c (hids c hc)
  cases kind with
  | literal value => exact .tight (.word (Json.isWord_text hkind))
  | array element => exact .tight (.array (huse element (List.mem_singleton_self _)).grouped)
  | tuple elements min max spread =>
    have hspread : ∀ p ∈ spread.map use, Proper .open p := by
      intro p hp
      obtain ⟨c, hc, rfl⟩ := Option.map_eq_some_iff.1 hp
      exact huse c (List.mem_append_right _ (Option.mem_toList.2 hc))
    have hshapes := forall_mem_tupleShapes (proper_placeholder o)
      (hparts elements fun c hc => List.mem_append_left _ hc) hspread min max
    refine proper_loose (by simp [tupleShapes]) fun p hp => ?_
    obtain ⟨shape, hshape, rfl⟩ := List.mem_map.1 hp
    exact proper_ofShape (hshapes shape hshape).1 (hshapes shape hshape).2
  | union members => exact proper_ofUnion (hparts members fun _ hc => hc)
  | intersection members => exact proper_ofIntersection (hparts members fun _ hc => hc)
  | enumeration entries =>
    refine proper_ofUnion fun p hp => ?_
    obtain ⟨entry, hentry, rfl⟩ := List.mem_map.1 hp
    exact .tight (.word (Json.isWord_text (hkind entry hentry)))
  | record members bases =>
    refine .tight (.record fun p hp => ?_)
    obtain ⟨m, hm, rfl⟩ := List.mem_map.1 hp
    exact proper_ofMember o m (huse m.type (List.mem_map.2 ⟨m, hm, rfl⟩))
  | reference target => exact proper_keyword hkind
  | custom text => exact hkind.elim
  | _ => exact proper_keyword (by decide)

/-! ### Their texts -/

theorem text_alternatives (p : Phrase) : " | ".intercalate (p.alternatives.map text) = p.text := by
  cases p <;> simp [alternatives, text]

theorem text_flatMap_alternatives {ps : List Phrase} (h : ∀ p ∈ ps, Proper .open p) :
    " | ".intercalate ((ps.flatMap alternatives).map text) = " | ".intercalate (ps.map text) := by
  induction ps with
  | nil => rfl
  | cons p ps ih =>
    have ih := ih fun q hq => h q (List.mem_cons_of_mem _ hq)
    rw [List.flatMap_cons, List.map_append, List.map_cons]
    match ps with
    | [] => simpa using text_alternatives p
    | q :: rest =>
      have hne : (((q :: rest).flatMap alternatives).map text) ≠ [] := by
        have hq := (h q (by simp)).alternatives_ne_nil
        simp [hq]
      rw [String.intercalate_append_of_ne_nil
        (by simpa using (h p (by simp)).alternatives_ne_nil) hne, text_alternatives, ih,
        List.map_cons, String.intercalate_cons_cons]

theorem text_ofUnion {ps : List Phrase} (h : ∀ p ∈ ps, Proper .open p) :
    (ofUnion ps).text = unionText (ps.map text) := by
  match ps with
  | [] => simp [ofUnion, text, unionText]
  | [p] => rfl
  | p :: q :: rest =>
    rw [ofUnion, text, operator, if_pos rfl, text_flatMap_alternatives h]
    · rfl
    · simp
    · simp

theorem map_text_grouped {ps : List Phrase} (h : ∀ p ∈ ps, Proper .open p) :
    (ps.map grouped).map text = (ps.map text).map parenthesize := by
  rw [List.map_map, List.map_map]
  exact List.map_congr_left fun p hp => ((h p hp).parenthesize_text).symm

theorem text_ofIntersection {ps : List Phrase} (h : ∀ p ∈ ps, Proper .open p) :
    (ofIntersection ps).text = intersectionText (ps.map text) := by
  match ps with
  | [] => simp [ofIntersection, text, intersectionText]
  | [p] => rfl
  | p :: q :: rest =>
    rw [ofIntersection, text, operator, if_neg Bool.false_ne_true, map_text_grouped h]
    · rfl
    · simp
    · simp

theorem text_array_grouped {p : Phrase} (h : Proper .open p) :
    (array p.grouped).text = arrayText p.text := by
  rw [text, arrayText, h.parenthesize_text]

theorem text_loose (ps : List Phrase) : (loose ps).text = " | ".intercalate (ps.map text) := by
  match ps with
  | [] => rw [loose, text]; simp
  | [p] => simp [loose]
  | p :: q :: rest => rw [loose, text]; simp

theorem text_ofShape {shape : List Phrase × Option Phrase} (hrest : ∀ p ∈ shape.2, Proper .open p) :
    (ofShape shape).text = tupleText (shape.1.map text) (shape.2.map text) := by
  obtain ⟨elements, rest⟩ := shape
  rw [ofShape, text, tupleText, List.map_append]
  cases rest with
  | none => rfl
  | some p =>
    have harray := text_array_grouped (hrest p rfl)
    rw [text] at harray
    simp [text, harray]

theorem text_ofMember (o : Options) (m : Member) {type : Phrase} (h : Proper .open type) :
    (ofMember o m type).text = signatureText o m type.text := by
  have hkey : m.field.text =
      (if m.isIndex then Identifier.indexSignature else Identifier.keyText m.key) ++
        (if m.isRequired then "" else "?") := by
    cases hindex : m.isIndex <;> cases hrequired : m.isRequired <;>
      simp [Field.text, Member.field, hindex, hrequired]
  have htype : (if m.isIndex && o.strictIndexSignatures then
      either [type.grouped, word "undefined"] else type).text =
      if m.isIndex && o.strictIndexSignatures then parenthesize type.text ++ " | undefined"
        else type.text := by
    split
    · rw [h.parenthesize_text, text]
      simp [text, String.append_assoc]
    · rfl
  rw [ofMember, text, hkey, htype]
  rfl

theorem text_ofBounded {placeholder : String} {elements : List Phrase} {min : Nat}
    {max : Option Nat} {spread : Option Phrase} (helements : ∀ p ∈ elements, Proper .open p)
    (hspread : ∀ p ∈ spread, Proper .open p) (hplaceholder : Proper .open (word placeholder)) :
    (loose ((tupleShapes (word placeholder) elements min max spread).map ofShape)).text =
      boundedText placeholder (elements.map text) min max (spread.map text) := by
  have hshapes := forall_mem_tupleShapes hplaceholder helements hspread min max
  have htext := tupleShapes_map text (word placeholder) elements min max spread
  rw [text] at htext
  rw [text_loose, boundedText, htext, List.map_map, List.map_map]
  refine congrArg _ (List.map_congr_left fun shape hshape => ?_)
  exact text_ofShape (hshapes shape hshape).2

/-! ### Texts of kinds -/

/-- **The text of a kind is that of its phrase**, where the texts of its parts are those of their
phrases. -/
theorem textFrom_text {o : Options} {use : TypeId → Phrase} {kind : TypeKind}
    (hkind : kind.IsSpelled) (hproper : ∀ c ∈ kind.shown, Proper .open (use c)) :
    textFrom o (fun c => (use c).text) kind = (ofKind o use kind).text := by
  have hparts : ∀ ids : List TypeId, (∀ c ∈ ids, c ∈ kind.shown) →
      ∀ p ∈ ids.map use, Proper .open p := by
    intro ids hids p hp
    obtain ⟨c, hc, rfl⟩ := List.mem_map.1 hp
    exact hproper c (hids c hc)
  cases kind with
  | array element =>
    rw [textFrom_array, ofKind, text_array_grouped (hproper element (List.mem_singleton_self _))]
  | tuple elements min max spread =>
    have helements := hparts elements fun c hc => List.mem_append_left _ hc
    have hspread : ∀ p ∈ spread.map use, Proper .open p := by
      intro p hp
      obtain ⟨c, hc, rfl⟩ := Option.map_eq_some_iff.1 hp
      exact hproper c (List.mem_append_right _ (Option.mem_toList.2 hc))
    rw [textFrom_tuple, ofKind, text_ofBounded helements hspread (proper_placeholder o),
      List.map_map, Option.map_map]
    rfl
  | union members =>
    rw [textFrom_union, ofKind, text_ofUnion (hparts members fun _ hc => hc), List.map_map]
    rfl
  | intersection members =>
    rw [textFrom_intersection, ofKind, text_ofIntersection (hparts members fun _ hc => hc),
      List.map_map]
    rfl
  | record members bases =>
    rw [textFrom_record, ofKind, text, List.map_map]
    refine congrArg _ (List.map_congr_left fun m hm => ?_)
    exact (text_ofMember o m (hproper m.type (List.mem_map.2 ⟨m, hm, rfl⟩))).symm
  | enumeration entries =>
    rw [ofKind, text_ofUnion fun p hp => ?_, List.map_map]
    · simp only [Function.comp_def, text]
      rfl
    · obtain ⟨entry, hentry, rfl⟩ := List.mem_map.1 hp
      exact .tight (.word (Json.isWord_text (hkind entry hentry)))
  | any | unknown | null | boolean | number | string | literal _ | object | reference _ | custom _ =>
    rw [ofKind, text]
    rfl

end Phrase
end SchemaTypings
