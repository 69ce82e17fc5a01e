import Mathlib.Data.Bool.AllAny
import SchemaTypings.Proofs.Values

/-! # Type expressions as trees

A type expression is a text, and two types can share one without being built alike: a union of one
member is written as that member, an enumeration as a union of its values.  `Phrase` is the tree
that the text itself shows.  Every kind has its phrase, made from the phrases of its parts.
-/
namespace SchemaTypings

/-- What joins of texts keep: appending keeps it, and so do the empty text and the separator. -/
theorem intercalate_induction {P : String → Prop} (hempty : P "")
    (happend : ∀ {s t}, P s → P t → P (s ++ t)) {sep : String} (hsep : P sep) {texts : List String}
    (h : ∀ t ∈ texts, P t) : P (sep.intercalate texts) := by
  induction texts with
  | nil => exact hempty
  | cons t rest ih =>
    have ht := h t (List.mem_cons_self ..)
    have hrest := ih fun u hu => h u (List.mem_cons_of_mem _ hu)
    cases rest with
    | nil => simpa using ht
    | cons u rest =>
      rw [String.intercalate_cons_cons]
      exact happend (happend ht hsep) hrest

/-- **A type expression**, read as a tree.  Spreads stand in tuples, and fields in classes. -/
inductive Phrase where
  | word (text : String)
  | array (element : Phrase)
  /-- Alternatives without parentheses around them. -/
  | either (parts : List Phrase)
  | group (isUnion : Bool) (parts : List Phrase)
  | tuple (items : List Phrase)
  | spread (element : Phrase)
  | record (fields : List Phrase)
  | field (field : Field) (type : Phrase)

/-- The key of a member with its mark. -/
def Field.text (f : Field) : String :=
  (match f.key with
    | some key => Identifier.keyText key
    | none => Identifier.indexSignature) ++ (if f.optional then "?" else "")

namespace Phrase

/-- The operator of a group. -/
def operator (isUnion : Bool) : String := if isUnion then " | " else " & "

/-- **The text of a phrase.** -/
def text : Phrase → String
  | word s => s
  | array p => text p ++ "[]"
  | either ps => " | ".intercalate (ps.map text)
  | group isUnion ps => "(" ++ (operator isUnion).intercalate (ps.map text) ++ ")"
  | tuple items => "[" ++ ", ".intercalate (items.map text) ++ "]"
  | spread p => "..." ++ (text p ++ "[]")
  | record fields => TypeGraph.recordText (fields.map text)
  | field f p => f.text ++ ": " ++ text p

/-- The alternatives that a phrase shows without parentheses. -/
def alternatives : Phrase → List Phrase
  | either ps => ps
  | p => [p]

/-- The phrase with parentheses where it has several alternatives. -/
def grouped : Phrase → Phrase
  | either ps => group true ps
  | p => p

/-- Alternatives without parentheses; a single one stands for itself. -/
def loose : List Phrase → Phrase
  | [p] => p
  | ps => either ps

/-! ### The phrases of kinds -/

/-- The phrase of a union. -/
def ofUnion : List Phrase → Phrase
  | [] => word "never"
  | [p] => p
  | ps => group true (ps.flatMap alternatives)

/-- The phrase of an intersection. -/
def ofIntersection : List Phrase → Phrase
  | [] => word "unknown"
  | [p] => p
  | ps => group false (ps.map grouped)

/-- The phrase of one alternative of a bounded array. -/
def ofShape (shape : List Phrase × Option Phrase) : Phrase :=
  tuple (shape.1 ++ shape.2.toList.map fun p => spread (grouped p))

/-- The phrase of a member, given that of its type. -/
def ofMember (o : Options) (m : Member) (type : Phrase) : Phrase :=
  field m.field
    (if m.isIndex && o.strictIndexSignatures then either [grouped type, word "undefined"] else type)

/-- **The phrase of a kind**, where `use` gives the phrases of its parts. -/
def ofKind (o : Options) (use : TypeId → Phrase) : TypeKind → Phrase
  | .any => word "any"
  | .unknown => word "unknown"
  | .null => word "null"
  | .boolean => word "boolean"
  | .number => word "number"
  | .string => word "string"
  | .literal value => word value.text
  | .object => word "object"
  | .array element => array (grouped (use element))
  | .tuple elements min max rest =>
    loose ((TypeGraph.tupleShapes (word o.placeholder) (elements.map use) min max
      (rest.map use)).map ofShape)
  | .union members => ofUnion (members.map use)
  | .intersection members => ofIntersection (members.map use)
  | .enumeration entries => ofUnion (entries.map fun entry => word entry.value.text)
  | .record members _ =>
    record ((members.filter Member.isVisible).map fun m => ofMember o m (use m.type))
  | .reference target => word target
  | .custom text => word text

/-! ### Proper phrases -/

/-- A character of a plain word. -/
def isWordChar (c : Char) : Bool := c.isAlphanum || c ∈ ['_', '$', '-', '+', '.']

/-- A word without quotes: names, keywords and numbers. -/
structure IsPlain (s : String) : Prop where
  nonempty : s.toList ≠ []
  head : s.toList.head? ≠ some '.'
  chars : ∀ c ∈ s.toList, isWordChar c = true

theorem IsPlain.exists_cons {s : String} (h : IsPlain s) :
    ∃ c cs, s.toList = c :: cs ∧ isWordChar c = true ∧ c ≠ '.' := by
  obtain ⟨c, cs, hs⟩ := List.exists_cons_of_ne_nil h.nonempty
  refine ⟨c, cs, hs, h.chars c (hs ▸ List.mem_cons_self ..), fun hdot => h.head ?_⟩
  rw [hs, hdot, List.head?_cons]

/-- A word: a plain one or a quoted one. -/
def IsWord (s : String) : Prop := IsPlain s ∨ ∃ t, s = Json.quote t

/-- Where a phrase may stand. -/
inductive Grade where
  /-- Beside any operator. -/
  | closed
  /-- As a type of its own. -/
  | open
  | item
  | field
  deriving DecidableEq

/-- **Proper phrases**: operators that bind looser than what surrounds them are in parentheses. -/
inductive Proper : Grade → Phrase → Prop where
  | word {s : String} (h : IsWord s) : Proper .closed (word s)
  | array {p : Phrase} (h : Proper .closed p) : Proper .closed (array p)
  | group {isUnion : Bool} {ps : List Phrase} (hlen : 2 ≤ ps.length)
    (h : ∀ p ∈ ps, Proper .closed p) : Proper .closed (group isUnion ps)
  | tuple {items : List Phrase} (h : ∀ p ∈ items, Proper .item p) : Proper .closed (tuple items)
  | record {fields : List Phrase} (h : ∀ p ∈ fields, Proper .field p) :
    Proper .closed (record fields)
  | tight {p : Phrase} (h : Proper .closed p) : Proper .open p
  | either {ps : List Phrase} (hlen : 2 ≤ ps.length) (h : ∀ p ∈ ps, Proper .closed p) :
    Proper .open (either ps)
  | item {p : Phrase} (h : Proper .open p) : Proper .item p
  | spread {p : Phrase} (h : Proper .closed p) : Proper .item (spread p)
  | field {f : Field} {p : Phrase} (h : Proper .open p) : Proper .field (field f p)

/-- A closed phrase is its only alternative. -/
theorem alternatives_of_closed {p : Phrase} (h : Proper .closed p) : alternatives p = [p] := by
  cases h <;> rfl

/-- A closed phrase needs no parentheses. -/
theorem grouped_of_closed {p : Phrase} (h : Proper .closed p) : grouped p = p := by
  cases h <;> rfl

/-- What stands by itself is closed or shows at least two closed alternatives. -/
theorem Proper.cases_open {p : Phrase} (h : Proper .open p) :
    Proper .closed p ∨ ∃ ps, p = .either ps ∧ 2 ≤ ps.length ∧ ∀ q ∈ ps, Proper .closed q := by
  cases h with
  | tight h => exact Or.inl h
  | either hlen h => exact Or.inr ⟨_, rfl, hlen, h⟩

theorem Proper.grouped {p : Phrase} (h : Proper .open p) : Proper .closed p.grouped := by
  rcases h.cases_open with h | ⟨ps, rfl, hlen, h⟩
  · rw [grouped_of_closed h]
    exact h
  · exact .group hlen h

theorem Proper.of_mem_alternatives {p q : Phrase} (h : Proper .open p)
    (hq : q ∈ p.alternatives) : Proper .closed q := by
  rcases h.cases_open with h | ⟨ps, rfl, -, h⟩
  · rw [alternatives_of_closed h, List.mem_singleton] at hq
    exact hq ▸ h
  · exact h q hq

theorem Proper.alternatives_ne_nil {p : Phrase} (h : Proper .open p) : p.alternatives ≠ [] := by
  rcases h.cases_open with h | ⟨ps, rfl, hlen, -⟩
  · simp [alternatives_of_closed h]
  · rintro hnil
    simp only [alternatives] at hnil
    simp [hnil] at hlen

end Phrase
end SchemaTypings
