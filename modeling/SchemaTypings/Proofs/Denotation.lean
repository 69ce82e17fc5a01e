import SchemaTypings.Proofs.Inlining
import SchemaTypings.Proofs.Readability

/-! # What phrases mean

A phrase admits values as well, once it is known what the names in it stand for and which values
literals may write.  The phrase of a kind admits what the kind admits, unless the kind has bases,
which no phrase shows.  So types that are written alike admit the same values, as far as nothing
with bases is written out in them.
-/
namespace SchemaTypings

/-- The words that are no names of types. -/
def reservedWords : List String :=
  ["any", "unknown", "never", "undefined", "null", "true", "false", "boolean", "number", "string",
    "object"]

/-- **A name for a type**: an identifier that is not reserved. -/
structure IsTypeName (name : String) : Prop where
  isIdentifier : Identifier.isIdentifier name = true
  notReserved : name ∉ reservedWords

/-- The kind without bases. -/
def TypeKind.body : TypeKind → TypeKind
  | .record members _ => .record members []
  | kind => kind

theorem TypeKind.body_of_bases {kind : TypeKind} (h : kind.bases = []) : kind.body = kind := by
  cases kind with
  | record members bases =>
    cases h
    rfl
  | _ => rfl

/-- The values that a kind writes out. -/
def TypeKind.literals : TypeKind → List Json
  | .literal value => [value]
  | .enumeration entries => entries.map EnumEntry.value
  | _ => []

/-- **Literals that are told apart** by their texts. -/
structure ToldApart (L : Set Json) : Prop where
  scalar : ∀ v ∈ L, v.IsScalar
  eq_of_text_eq : ∀ v ∈ L, ∀ w ∈ L, v.text = w.text → v = w

namespace Phrase
open TypeGraph

variable {L : Set Json} {named : String → Set Json}

/-- The values of a keyword. -/
def keywordValues : String → Set Json
  | "any" => Set.univ
  | "unknown" => Set.univ
  | "null" => {v | v.isNull}
  | "boolean" => {v | v.isBool}
  | "number" => {v | v.isNumber}
  | "string" => {v | v.isString}
  | "object" => {v | v.isObject}
  | _ => ∅

/-- The values of a word: those of a keyword, of literals or of a name. -/
def wordValues (L : Set Json) (named : String → Set Json) (s : String) : Set Json :=
  keywordValues s ∪ {v | v ∈ L ∧ v.text = s} ∪ {v | IsTypeName s ∧ v ∈ named s}

/-- Whether an item of a tuple is a spread. -/
def isSpread : Phrase → Bool
  | spread _ => true
  | _ => false

/-- The key of a field. -/
def key : Phrase → Field
  | field f _ => f
  | _ => ⟨none, false⟩

/-- **The values of a phrase.** -/
def values (L : Set Json) (named : String → Set Json) : Phrase → Set Json
  | word s => wordValues L named s
  | array p => arrayValues (values L named p)
  | either ps => {v | ∃ S ∈ ps.map (values L named), v ∈ S}
  | group true ps => {v | ∃ S ∈ ps.map (values L named), v ∈ S}
  | group false ps => {v | ∀ S ∈ ps.map (values L named), v ∈ S}
  | tuple items => tupleValues (items.map fun p => (p.isSpread, values L named p))
  | spread p => values L named p
  | record fields => recordValues (fields.map fun p => (p.key, values L named p))
  | field _ p => values L named p

/-! ### Words -/

/-- A keyword admits nothing but its values; literals are written as `null`, `true` and `false` or
as no keyword at all. -/
theorem wordValues_of_reserved (hL : ToldApart L) {s : String} (hs : s ∈ reservedWords)
    (hne : s ∉ ["null", "true", "false"]) : wordValues L named s = keywordValues s := by
  have hidentifiers : ∀ t ∈ reservedWords, Identifier.isIdentifier t = true := by decide
  refine Set.Subset.antisymm ?_ fun v hv => Or.inl (Or.inl hv)
  rintro v ((hv | ⟨hv, rfl⟩) | ⟨hname, -⟩)
  · exact hv
  · exact absurd (Json.text_mem_of_isIdentifier (hL.scalar v hv) (hidentifiers _ hs)) hne
  · exact absurd hs hname.notReserved

theorem keywordValues_of_not_reserved {s : String} (hs : s ∉ reservedWords) :
    keywordValues s = ∅ := by
  have hne : ∀ t ∈ reservedWords, s ≠ t := fun t ht heq => hs (heq ▸ ht)
  unfold keywordValues
  split <;> first | rfl | exact absurd rfl (hne _ (by decide))

/-- **A name admits what it stands for.** -/
theorem wordValues_of_name (hL : ToldApart L) {s : String} (hs : IsTypeName s) :
    wordValues L named s = named s := by
  rw [wordValues, keywordValues_of_not_reserved hs.notReserved]
  refine Set.Subset.antisymm ?_ fun v hv => Or.inr ⟨hs, hv⟩
  rintro v ((hv | ⟨hv, rfl⟩) | ⟨-, hv⟩)
  · exact hv.elim
  · have hkeyword := Json.text_mem_of_isIdentifier (hL.scalar v hv) hs.isIdentifier
    have hreserved : ∀ t ∈ ["null", "true", "false"], t ∈ reservedWords := by decide
    exact absurd (hreserved _ hkeyword) hs.notReserved
  · exact hv

/-- Only `null` is written as `null`. -/
theorem eq_null_of_text {v : Json} (hv : v.IsScalar) (h : v.text = "null") : v = .null := by
  cases v with
  | null => rfl
  | bool b => cases b <;> exact absurd h (by decide)
  | number n =>
    refine absurd ?_ (Number.isNumeral_text n).not_isIdentifier
    change Identifier.isIdentifier (Json.number n).text = true
    rw [h]
    decide
  | string s =>
    have hhead := congrArg (fun t : String => t.toList.head?) h
    simp only [Json.text, Json.quote, String.toList_ofList, List.head?_cons] at hhead
    exact absurd hhead (by decide)
  | array items => exact hv.elim
  | object entries => exact hv.elim

/-- **A literal admits its value.** -/
theorem wordValues_of_literal (hL : ToldApart L) {w : Json} (hw : w ∈ L) :
    wordValues L named w.text = {w} := by
  refine Set.Subset.antisymm ?_ (by rintro v rfl; exact Or.inl (Or.inr ⟨hw, rfl⟩))
  rintro v ((hv | ⟨hv, htext⟩) | ⟨hname, -⟩)
  · by_cases hreserved : w.text ∈ reservedWords
    · have hidentifiers : ∀ t ∈ reservedWords, Identifier.isIdentifier t = true := by decide
      have hkeyword := Json.text_mem_of_isIdentifier (hL.scalar w hw) (hidentifiers _ hreserved)
      simp only [List.mem_cons, List.not_mem_nil, or_false] at hkeyword
      rcases hkeyword with htext | htext | htext
      · rw [htext] at hv
        rw [eq_null_of_text (hL.scalar w hw) htext]
        cases v <;> first | rfl | exact absurd hv (by simp [keywordValues, Json.isNull])
      · rw [htext] at hv
        exact hv.elim
      · rw [htext] at hv
        exact hv.elim
    · rw [keywordValues_of_not_reserved hreserved] at hv
      exact hv.elim
  · exact hL.eq_of_text_eq v hv w hw htext
  · have hkeyword := Json.text_mem_of_isIdentifier (hL.scalar w hw) hname.isIdentifier
    have hreserved : ∀ t ∈ ["null", "true", "false"], t ∈ reservedWords := by decide
    exact absurd (hreserved _ hkeyword) hname.notReserved

theorem wordValues_null (hL : ToldApart L) : wordValues L named "null" = {v | v.isNull} := by
  refine Set.Subset.antisymm ?_ fun v hv => Or.inl (Or.inl hv)
  rintro v ((hv | ⟨hv, htext⟩) | ⟨hname, -⟩)
  · exact hv
  · rw [eq_null_of_text (hL.scalar v hv) htext]
    rfl
  · exact absurd (by decide) hname.notReserved

theorem values_placeholder (hL : ToldApart L) (o : Options) :
    values L named (word o.placeholder) = Set.univ := by
  rw [values]
  unfold Options.placeholder
  split
  · rw [wordValues_of_reserved hL (by decide) (by decide)]
    rfl
  · rw [wordValues_of_reserved hL (by decide) (by decide)]
    rfl

/-! ### The phrases of kinds -/

theorem mem_either {ps : List Phrase} {v : Json} :
    v ∈ values L named (either ps) ↔ ∃ p ∈ ps, v ∈ values L named p := by
  simp [values]

/-- A phrase admits what its alternatives admit. -/
theorem mem_alternatives {p : Phrase} {v : Json} :
    (∃ q ∈ p.alternatives, v ∈ values L named q) ↔ v ∈ values L named p := by
  cases p with
  | either ps => exact mem_either.symm
  | _ => simp [alternatives]

theorem values_grouped (p : Phrase) : values L named p.grouped = values L named p := by
  cases p with
  | either ps => rw [grouped, values, values]
  | _ => rfl

theorem values_loose (ps : List Phrase) :
    values L named (loose ps) = {v | ∃ p ∈ ps, v ∈ values L named p} := by
  match ps with
  | [] => exact Set.ext fun v => mem_either
  | [p] => simp [loose]
  | p :: q :: rest => exact Set.ext fun v => mem_either

theorem values_ofUnion (hL : ToldApart L) (ps : List Phrase) :
    values L named (ofUnion ps) = {v | ∃ p ∈ ps, v ∈ values L named p} := by
  match ps with
  | [] =>
    rw [ofUnion, values, wordValues_of_reserved hL (by decide) (by decide)]
    simp [keywordValues]
  | [p] => simp [ofUnion]
  | p :: q :: rest =>
    refine Set.ext fun v => ?_
    rw [ofUnion, values]
    · constructor
      · rintro ⟨S, hS, hv⟩
        obtain ⟨r, hr, rfl⟩ := List.mem_map.1 hS
        obtain ⟨s, hs, hr⟩ := List.mem_flatMap.1 hr
        exact ⟨s, hs, mem_alternatives.1 ⟨r, hr, hv⟩⟩
      · rintro ⟨s, hs, hv⟩
        obtain ⟨r, hr, hv⟩ := mem_alternatives.2 hv
        exact ⟨_, List.mem_map.2 ⟨r, List.mem_flatMap.2 ⟨s, hs, hr⟩, rfl⟩, hv⟩
    · simp
    · simp

theorem values_ofIntersection (hL : ToldApart L) (ps : List Phrase) :
    values L named (ofIntersection ps) = {v | ∀ p ∈ ps, v ∈ values L named p} := by
  match ps with
  | [] =>
    rw [ofIntersection, values, wordValues_of_reserved hL (by decide) (by decide)]
    simp [keywordValues]
  | [p] => simp [ofIntersection]
  | p :: q :: rest =>
    refine Set.ext fun v => ?_
    rw [ofIntersection, values]
    · simp only [List.map_map, List.forall_mem_map, Function.comp_apply, values_grouped,
        Set.mem_ofPred_eq]
    · simp
    · simp

/-- A tuple admits the arrays whose items fill its places. -/
theorem values_ofShape {shape : List Phrase × Option Phrase} (h : ∀ p ∈ shape.1, Proper .open p) :
    values L named (ofShape shape) =
      tupleValues ((placesOf shape).map fun place => (place.1, values L named place.2)) := by
  have hplaces : (shape.1 ++ shape.2.toList.map fun p => spread (grouped p)).map
      (fun p => (p.isSpread, values L named p)) =
      (placesOf shape).map fun place => (place.1, values L named place.2) := by
    rw [placesOf, List.map_append, List.map_append, List.map_map, List.map_map, List.map_map]
    refine congrArg₂ _ (List.map_congr_left fun p hp => ?_) (List.map_congr_left fun p _ => ?_)
    · have hspread : p.isSpread = false := by
        rcases (h p hp).cases_open with hp | ⟨ps, rfl, -⟩
        · cases hp <;> rfl
        · rfl
      simp [hspread]
    · simp [isSpread, values, values_grouped]
  rw [ofShape, values, hplaces]

theorem values_ofMember (hL : ToldApart L) (o : Options) (m : Member) (type : Phrase) :
    values L named (ofMember o m type) = values L named type := by
  rw [ofMember, values]
  split
  · refine Set.ext fun v => mem_either.trans ?_
    have hundefined : values L named (word "undefined") = ∅ := by
      rw [values, wordValues_of_reserved hL (by decide) (by decide)]
      simp [keywordValues]
    simp [values_grouped, hundefined]
  · rfl

/-- A bounded array admits what one of its alternatives admits. -/
theorem values_ofBounded (hL : ToldApart L) (o : Options) {use : TypeId → Phrase}
    {P : TypeId → Set Json} {elements : List TypeId} {spread : Option TypeId} (min : Nat)
    (max : Option Nat) (hparts : ∀ c ∈ elements ++ spread.toList,
      Proper .open (use c) ∧ values L named (use c) = P c) :
    values L named (loose ((tupleShapes (word o.placeholder) (elements.map use) min max
      (spread.map use)).map ofShape)) = kindValues named P (.tuple elements min max spread) := by
  -- a place without a type is written as the placeholder
  let write : Option TypeId → Phrase := fun part => part.elim (word o.placeholder) use
  let Reads : Option TypeId → Prop := fun part =>
    Proper .open (write part) ∧ values L named (write part) = part.elim Set.univ P
  have hshapes : tupleShapes (word o.placeholder) (elements.map use) min max (spread.map use) =
      (tupleShapes none (elements.map some) min max (spread.map some)).map fun shape =>
        (shape.1.map write, shape.2.map write) := by
    rw [← tupleShapes_map write, List.map_map, Option.map_map]
    rfl
  have helements : ∀ part ∈ elements.map some, Reads part := by
    intro part hpart
    obtain ⟨c, hc, rfl⟩ := List.mem_map.1 hpart
    exact hparts c (List.mem_append_left _ hc)
  have hspread : ∀ part ∈ spread.map some, Reads part := by
    intro part hpart
    obtain ⟨c, hc, rfl⟩ := Option.map_eq_some_iff.1 hpart
    exact hparts c (List.mem_append_right _ (Option.mem_toList.2 hc))
  have hnone : Reads none := ⟨proper_placeholder o, values_placeholder hL o⟩
  have hreads := forall_mem_tupleShapes (R := Reads) hnone helements hspread min max
  have hvalues : ∀ shape ∈ tupleShapes none (elements.map some) min max (spread.map some),
      values L named (ofShape (shape.1.map write, shape.2.map write)) =
        tupleValues ((placesOf shape).map fun place => (place.1, place.2.elim Set.univ P)) := by
    intro shape hshape
    obtain ⟨hfirst, hrest⟩ := hreads shape hshape
    rw [values_ofShape]
    · refine congrArg tupleValues ?_
      simp only [placesOf, List.map_append, List.map_map]
      refine congrArg₂ _ (List.map_congr_left fun part hpart => ?_) ?_
      · simp [(hfirst part hpart).2]
      · cases hlast : shape.2 with
        | none => rfl
        | some part => simp [(hrest part hlast).2]
    · intro p hp
      obtain ⟨part, hpart, rfl⟩ := List.mem_map.1 hp
      exact (hfirst part hpart).1
  rw [values_loose, hshapes]
  refine Set.ext fun v => ?_
  constructor
  · rintro ⟨p, hp, hv⟩
    rw [List.map_map] at hp
    obtain ⟨shape, hshape, rfl⟩ := List.mem_map.1 hp
    exact ⟨shape, hshape, hvalues shape hshape ▸ hv⟩
  · rintro ⟨shape, hshape, hv⟩
    refine ⟨_, List.mem_map.2 ⟨_, List.mem_map.2 ⟨shape, hshape, rfl⟩, rfl⟩, ?_⟩
    rw [hvalues shape hshape]
    exact hv

/-- **The phrase of a kind admits what the kind without bases admits**, where this is so for the
parts that it shows. -/
theorem values_ofKind (hL : ToldApart L) (o : Options) {use : TypeId → Phrase}
    {P : TypeId → Set Json} {kind : TypeKind} (hkind : kind.IsSpelled)
    (hliterals : ∀ v ∈ kind.literals, v ∈ L) (htarget : ∀ t, kind = .reference t → IsTypeName t)
    (hproper : ∀ c ∈ kind.shown, Proper .open (use c))
    (huse : ∀ c ∈ kind.shown, values L named (use c) = P c) :
    values L named (ofKind o use kind) = kindValues named P kind.body := by
  cases kind with
  | literal value =>
    rw [ofKind, values, wordValues_of_literal hL (hliterals value (List.mem_singleton_self _))]
    rfl
  | array element =>
    rw [ofKind, values, values_grouped, huse element (List.mem_singleton_self _)]
    rfl
  | tuple elements min max spread =>
    rw [ofKind]
    exact values_ofBounded hL o min max fun c hc => ⟨hproper c hc, huse c hc⟩
  | union members =>
    rw [ofKind, values_ofUnion hL]
    refine Set.ext fun v => ?_
    constructor
    · rintro ⟨p, hp, hv⟩
      obtain ⟨c, hc, rfl⟩ := List.mem_map.1 hp
      exact ⟨c, hc, huse c hc ▸ hv⟩
    · rintro ⟨c, hc, hv⟩
      exact ⟨_, List.mem_map.2 ⟨c, hc, rfl⟩, huse c hc ▸ hv⟩
  | intersection members =>
    rw [ofKind, values_ofIntersection hL]
    refine Set.ext fun v => ?_
    constructor
    · exact fun hv c hc => huse c hc ▸ hv _ (List.mem_map.2 ⟨c, hc, rfl⟩)
    · intro hv p hp
      obtain ⟨c, hc, rfl⟩ := List.mem_map.1 hp
      exact (huse c hc).symm ▸ hv c hc
  | enumeration entries =>
    have hentry : ∀ entry ∈ entries, values L named (word entry.value.text) = {entry.value} := by
      intro entry hentry
      rw [values]
      exact wordValues_of_literal hL (hliterals _ (List.mem_map.2 ⟨entry, hentry, rfl⟩))
    rw [ofKind, values_ofUnion hL]
    refine Set.ext fun v => ?_
    constructor
    · rintro ⟨p, hp, hv⟩
      obtain ⟨entry, hmem, rfl⟩ := List.mem_map.1 hp
      rw [hentry entry hmem] at hv
      exact ⟨entry, hmem, hv⟩
    · rintro ⟨entry, hmem, rfl⟩
      exact ⟨_, List.mem_map.2 ⟨entry, hmem, rfl⟩, by rw [hentry entry hmem]; rfl⟩
  | record members bases =>
    have hfields : ((members.filter Member.isVisible).map fun m => ofMember o m (use m.type)).map
        (fun p => (p.key, values L named p)) = fieldsOf P members := by
      rw [List.map_map, fieldsOf]
      refine List.map_congr_left fun m hm => ?_
      have htype := huse m.type (List.mem_map.2 ⟨m, hm, rfl⟩)
      simp only [Function.comp_apply, values_ofMember hL, htype]
      rfl
    rw [ofKind, values, hfields]
    refine Set.ext fun v => ⟨fun hv => ⟨hv, by simp⟩, fun hv => hv.1⟩
  | reference target =>
    rw [ofKind, values, wordValues_of_name hL (htarget target rfl)]
    rfl
  | custom text => exact hkind.elim
  | null =>
    rw [ofKind, values, wordValues_null hL]
    rfl
  | any | unknown | boolean | number | string | object =>
    rw [ofKind, values, wordValues_of_reserved hL (by decide) (by decide)]
    rfl

end Phrase
end SchemaTypings
