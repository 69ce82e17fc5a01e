import SchemaTypings.Proofs.Nesting
import SchemaTypings.Proofs.RenderedTexts
import SchemaTypings.Proofs.Spelling

/-! # Operators bind as they should

`[]`, `&`, a spread and `| undefined` bind what stands beside them more tightly than `|` and `&` bind
their operands.  `Expression` describes the texts in which each of these operands is safe beside any
operator.  Every text that is written is one of them, so its brackets stand in pairs; and the only
texts with a loose operator are those of bounded arrays with several alternatives.
-/
namespace SchemaTypings
namespace TypeGraph

/-! ### Expressions -/

/-- What a text stands for in a type expression. -/
inductive Position where
  | type
  /-- An alternative of a bounded array. -/
  | alternative
  | item
  | member

/-- The key of a member as it is written. -/
def IsKeyText (text : String) : Prop :=
  text = Identifier.indexSignature ∨ ∃ key, text = Identifier.keyText key

/-- **Type expressions as they are written.**  What `[]` follows, what is spread, what `&` joins and
what `| undefined` extends is safe beside any operator. -/
inductive Expression : Position → String → Prop where
  | word {text : String} (h : Phrase.IsPlain text) : Expression .type text
  | value (v : Json) : Expression .type v.text
  | group {t : String} (h : Expression .type t) : Expression .type ("(" ++ t ++ ")")
  | array {t : String} (h : Expression .type t) (hguard : Guarded t) : Expression .type (t ++ "[]")
  | union {ts : List String} (hlen : 2 ≤ ts.length) (h : ∀ t ∈ ts, Expression .type t) :
    Expression .type ("(" ++ " | ".intercalate ts ++ ")")
  | intersection {ts : List String} (hlen : 2 ≤ ts.length) (h : ∀ t ∈ ts, Expression .type t)
    (hguard : ∀ t ∈ ts, Guarded t) : Expression .type ("(" ++ " & ".intercalate ts ++ ")")
  | record {ts : List String} (h : ∀ t ∈ ts, Expression .member t) : Expression .type (recordText ts)
  | alternatives {ts : List String} (hlen : 1 ≤ ts.length) (h : ∀ t ∈ ts, Expression .alternative t) :
    Expression .type (" | ".intercalate ts)
  | tuple {ts : List String} (h : ∀ t ∈ ts, Expression .item t) :
    Expression .alternative ("[" ++ ", ".intercalate ts ++ "]")
  | item {t : String} (h : Expression .type t) : Expression .item t
  | spread {t : String} (h : Expression .type t) (hguard : Guarded t) :
    Expression .item ("..." ++ (t ++ "[]"))
  | member {key t : String} (hkey : IsKeyText key) (isRequired : Bool) (h : Expression .type t) :
    Expression .member (key ++ (if isRequired then "" else "?") ++ ": " ++ t)
  | extended {key t : String} (hkey : IsKeyText key) (isRequired : Bool) (h : Expression .type t)
    (hguard : Guarded t) :
    Expression .member (key ++ (if isRequired then "" else "?") ++ ": " ++ (t ++ " | undefined"))

/-- Separators and marks are safe beside operators. -/
theorem guarded_of_all {text : String} (h : text.toList.all isInert = true) : Guarded text :=
  guarded_of_forall (List.all_eq_true.1 h)

theorem balanced_operator (isUnion : Bool) : Balanced (Phrase.operator isUnion) := by
  have hnested : ∀ c : Char, c = '|' ∨ c = '&' → ∃ outer, Nested [' ', c, ' '] outer := by
    intro c hc
    refine ⟨[' ', c, ' '], .plain (by decide) (by decide) (by decide) (.plain ?_ ?_ ?_
      (.plain (by decide) (by decide) (by decide) .nil))⟩
    · rcases hc with rfl | rfl <;> decide
    · rcases hc with rfl | rfl <;> decide
    · rcases hc with rfl | rfl <;> decide
  cases isUnion with
  | true => exact hnested '|' (Or.inl rfl)
  | false => exact hnested '&' (Or.inr rfl)

theorem guarded_brackets : Guarded "[]" :=
  guarded_empty.balanced.bracket (l := '[') (r := ']') (by decide)

theorem IsKeyText.guarded {text : String} (h : IsKeyText text) : Guarded text := by
  rcases h with rfl | ⟨key, rfl⟩
  · have hinside : Guarded "k: string" := guarded_of_all (by decide)
    exact hinside.balanced.bracket (l := '[') (r := ']') (by decide)
  · exact guarded_word (Phrase.isWord_keyText key)

theorem balanced_member {key t : String} (hkey : IsKeyText key) (isRequired : Bool)
    (h : Balanced t) : Balanced (key ++ (if isRequired then "" else "?") ++ ": " ++ t) := by
  have hmark : Guarded (if isRequired then "" else "?") := by
    cases isRequired with
    | true => exact guarded_empty
    | false => exact guarded_of_all (by decide)
  have hcolon : Guarded ": " := guarded_of_all (by decide)
  exact ((hkey.guarded.append hmark).append hcolon).balanced.append h

theorem guarded_recordText {ts : List String} (h : ∀ t ∈ ts, Balanced t) :
    Guarded (recordText ts) := by
  cases ts with
  | nil => exact guarded_empty.balanced.bracket (l := '\x7b') (r := '\x7d') (by decide)
  | cons t rest =>
    have hblank : Guarded " " := guarded_of_all (by decide)
    have hsep : Guarded "; " := guarded_of_all (by decide)
    have hinner := balanced_intercalate hsep.balanced h
    have hall := (hblank.balanced.append hinner).append hblank.balanced
    have htext : recordText (t :: rest) =
        String.singleton '\x7b' ++ (" " ++ "; ".intercalate (t :: rest) ++ " ") ++
          String.singleton '\x7d' := by
      apply String.toList_inj.1
      simp [recordText]
    rw [htext]
    exact hall.bracket (by decide)

/-- **The brackets of an expression stand in pairs.** -/
theorem Expression.balanced {position : Position} {text : String} (h : Expression position text) :
    Balanced text := by
  induction h with
  | word h => exact (guarded_plain h).balanced
  | value v => exact v.guarded_text.balanced
  | group _ ih => exact (ih.bracket (l := '(') (r := ')') (by decide)).balanced
  | array _ _ ih => exact ih.append guarded_brackets.balanced
  | union _ _ ih =>
    have hinner := balanced_intercalate (balanced_operator true) ih
    exact (hinner.bracket (l := '(') (r := ')') (by decide)).balanced
  | intersection _ _ _ ih =>
    have hinner := balanced_intercalate (balanced_operator false) ih
    exact (hinner.bracket (l := '(') (r := ')') (by decide)).balanced
  | record _ ih => exact (guarded_recordText ih).balanced
  | alternatives _ _ ih => exact balanced_intercalate (balanced_operator true) ih
  | tuple _ ih =>
    have hsep : Guarded ", " := guarded_of_all (by decide)
    have hinner := balanced_intercalate hsep.balanced ih
    exact (hinner.bracket (l := '[') (r := ']') (by decide)).balanced
  | item _ ih => exact ih
  | spread _ _ ih =>
    have hdots : Guarded "..." := guarded_of_all (by decide)
    exact hdots.balanced.append (ih.append guarded_brackets.balanced)
  | member hkey isRequired _ ih => exact balanced_member hkey isRequired ih
  | extended hkey isRequired _ _ ih =>
    have hundefined : Guarded "undefined" := guarded_of_all (by decide)
    have hsuffix : Balanced " | undefined" := (balanced_operator true).append hundefined.balanced
    exact balanced_member hkey isRequired (ih.append hsuffix)

/-- An alternative of a bounded array is safe beside any operator. -/
theorem Expression.guarded_alternative {text : String} (h : Expression .alternative text) :
    Guarded text := by
  cases h with
  | tuple h =>
    have hsep : Guarded ", " := guarded_of_all (by decide)
    have hinner := balanced_intercalate hsep.balanced fun t ht => (h t ht).balanced
    exact hinner.bracket (l := '[') (r := ']') (by decide)

/-- **What is put in parentheses where it needs them is safe beside any operator**, and still an
expression. -/
theorem Expression.parenthesize {text : String} (h : Expression .type text) :
    Expression .type (parenthesize text) ∧ Guarded (parenthesize text) := by
  unfold TypeGraph.parenthesize
  split
  · exact ⟨.group h, h.balanced.bracket (l := '(') (r := ')') (by decide)⟩
  · next hloose => exact ⟨h, h.balanced.guarded_iff.2 (Bool.eq_false_iff.2 hloose)⟩

/-! ### Loose operators -/

/-- Two texts with an operator between them show that operator. -/
theorem hasLooseOperator_either {s t : String} (hs : Balanced s) (ht : Balanced t) :
    hasLooseOperator {} (s ++ " | " ++ t).toList = true := by
  obtain ⟨outer, hs⟩ := hs
  obtain ⟨outer', ht⟩ := ht
  have hbar : Nested " | ".toList [' ', '|', ' '] :=
    .plain (by decide) (by decide) (by decide) (.plain (by decide) (by decide) (by decide)
      (.plain (by decide) (by decide) (by decide) .nil))
  have hall : Nested (s ++ " | " ++ t).toList (outer ++ [' ', '|', ' '] ++ outer') := by
    rw [String.toList_append, String.toList_append]
    exact (hs.append hbar).append ht
  rw [hasLooseOperator_of_nested hall]
  simp [isOperator]

theorem hasLooseOperator_alternatives {ts : List String} (hlen : 2 ≤ ts.length)
    (h : ∀ t ∈ ts, Balanced t) : hasLooseOperator {} (" | ".intercalate ts).toList = true := by
  match ts, hlen with
  | s :: t :: rest, _ =>
    have hrest : Balanced (" | ".intercalate (t :: rest)) :=
      balanced_intercalate (balanced_operator true) fun u hu => h u (List.mem_cons_of_mem _ hu)
    rw [String.intercalate_cons_cons]
    exact hasLooseOperator_either (h s (List.mem_cons_self ..)) hrest

/-! ### Expressions of kinds -/

theorem expression_of_isIdentifier {text : String} (h : Identifier.isIdentifier text = true) :
    Expression .type text := .word (Phrase.isPlain_of_isIdentifier h)

theorem guarded_of_isIdentifier {text : String} (h : Identifier.isIdentifier text = true) :
    Guarded text := guarded_plain (Phrase.isPlain_of_isIdentifier h)

theorem expression_unionText {ts : List String} (h : ∀ t ∈ ts, Expression .type t) :
    Expression .type (unionText ts) := by
  match ts with
  | [] => exact expression_of_isIdentifier (by decide)
  | [t] => exact h t (List.mem_singleton_self t)
  | s :: t :: rest => exact .union (by simp) h

/-- A union is safe beside any operator, unless it is written as its only member. -/
theorem guarded_unionText {ts : List String} (h : ∀ t ∈ ts, Expression .type t)
    (hsingle : ∀ t, ts = [t] → Guarded t) : Guarded (unionText ts) := by
  match ts with
  | [] => exact guarded_of_isIdentifier (by decide)
  | [t] => exact hsingle t rfl
  | s :: t :: rest =>
    have hinner := balanced_intercalate (balanced_operator true) fun u hu => (h u hu).balanced
    exact hinner.bracket (l := '(') (r := ')') (by decide)

theorem forall_mem_map_parenthesize {ts : List String} (h : ∀ t ∈ ts, Expression .type t) :
    ∀ t ∈ ts.map parenthesize, Expression .type t ∧ Guarded t := by
  intro t ht
  obtain ⟨u, hu, rfl⟩ := List.mem_map.1 ht
  exact (h u hu).parenthesize

theorem expression_intersectionText {ts : List String} (h : ∀ t ∈ ts, Expression .type t) :
    Expression .type (intersectionText ts) := by
  match ts with
  | [] => exact expression_of_isIdentifier (by decide)
  | [t] => exact h t (List.mem_singleton_self t)
  | s :: t :: rest =>
    have hgrouped := forall_mem_map_parenthesize h
    exact .intersection (by simp) (fun u hu => (hgrouped u hu).1) fun u hu => (hgrouped u hu).2

theorem guarded_intersectionText {ts : List String} (h : ∀ t ∈ ts, Expression .type t)
    (hsingle : ∀ t, ts = [t] → Guarded t) : Guarded (intersectionText ts) := by
  match ts with
  | [] => exact guarded_of_isIdentifier (by decide)
  | [t] => exact hsingle t rfl
  | s :: t :: rest =>
    have hinner := balanced_intercalate (balanced_operator false) fun u hu =>
      (forall_mem_map_parenthesize h u hu).1.balanced
    exact hinner.bracket (l := '(') (r := ')') (by decide)

theorem expression_arrayText {t : String} (h : Expression .type t) :
    Expression .type (arrayText t) := .array h.parenthesize.1 h.parenthesize.2

theorem guarded_arrayText {t : String} (h : Expression .type t) : Guarded (arrayText t) :=
  h.parenthesize.2.append guarded_brackets

theorem expression_tupleText {texts : List String} {further : Option String}
    (htexts : ∀ t ∈ texts, Expression .type t) (hfurther : ∀ t ∈ further, Expression .type t) :
    Expression .alternative (tupleText texts further) := by
  refine .tuple fun t ht => ?_
  rcases List.mem_append.1 ht with ht | ht
  · exact .item (htexts t ht)
  · obtain ⟨u, hu, rfl⟩ := Option.mem_map.1 (Option.mem_toList.1 ht)
    have hguard := (hfurther u hu).parenthesize
    exact .spread hguard.1 hguard.2

theorem expression_placeholder (o : Options) : Expression .type o.placeholder := by
  unfold Options.placeholder
  split <;> exact expression_of_isIdentifier (by decide)

section Bounded

variable {o : Options} {texts : List String} {min : Nat} {max : Option Nat} {further : Option String}
  (htexts : ∀ t ∈ texts, Expression .type t) (hfurther : ∀ t ∈ further, Expression .type t)

include htexts hfurther

/-- The alternatives of a bounded array. -/
theorem expression_of_mem_shapes {t : String}
    (ht : t ∈ (tupleShapes o.placeholder texts min max further).map fun shape =>
      tupleText shape.1 shape.2) : Expression .alternative t := by
  obtain ⟨shape, hshape, rfl⟩ := List.mem_map.1 ht
  obtain ⟨helements, hrest⟩ :=
    forall_mem_tupleShapes (expression_placeholder o) htexts hfurther min max shape hshape
  exact expression_tupleText helements hrest

theorem expression_boundedText : Expression .type (boundedText o.placeholder texts min max further) :=
  .alternatives (by simp [tupleShapes]) fun _ ht => expression_of_mem_shapes htexts hfurther ht

/-- A bounded array with one alternative is safe beside any operator. -/
theorem guarded_boundedText
    (hone : (tupleShapes o.placeholder texts min max further).length < 2) :
    Guarded (boundedText o.placeholder texts min max further) := by
  have hmem : ∀ t ∈ (tupleShapes o.placeholder texts min max further).map fun shape =>
      tupleText shape.1 shape.2, Guarded t :=
    fun t ht => (expression_of_mem_shapes htexts hfurther ht).guarded_alternative
  unfold boundedText
  match hshapes : tupleShapes o.placeholder texts min max further with
  | [] => exact guarded_empty
  | [shape] =>
    rw [hshapes] at hmem
    simpa using hmem _ (List.mem_singleton_self _)
  | _ :: _ :: _ =>
    rw [hshapes, List.length_cons, List.length_cons] at hone
    omega

/-- A bounded array with several alternatives shows an operator. -/
theorem hasLooseOperator_boundedText
    (hmany : 2 ≤ (tupleShapes o.placeholder texts min max further).length) :
    hasLooseOperator {} (boundedText o.placeholder texts min max further).toList = true :=
  hasLooseOperator_alternatives (by simpa using hmany) fun _ ht =>
    (expression_of_mem_shapes htexts hfurther ht).balanced

end Bounded

/-- Members are expressions of members, with what is extended in parentheses where it needs them. -/
theorem expression_signatureText (o : Options) (m : Member) {t : String} (h : Expression .type t) :
    Expression .member (signatureText o m t) := by
  have hkey : IsKeyText
      (if m.isIndex then Identifier.indexSignature else Identifier.keyText m.key) := by
    split
    · exact Or.inl rfl
    · exact Or.inr ⟨m.key, rfl⟩
  unfold signatureText
  by_cases hextended : (m.isIndex && o.strictIndexSignatures) = true
  · simp only [hextended, if_true]
    exact .extended hkey m.isRequired h.parenthesize.1 h.parenthesize.2
  · simp only [hextended, Bool.false_eq_true, if_false]
    exact .member hkey m.isRequired h

end TypeGraph
end SchemaTypings
