import SchemaTypings.Proofs.Grouping
import SchemaTypings.Proofs.Literals

/-! # Brackets in pairs

Brackets stand in pairs, one pair inside the other or one behind the other; inside a string nothing
is a bracket.  In a text of this form the scan for loose operators ends as it began, and it finds
exactly the operators that stand outside all pairs and strings.
-/
namespace SchemaTypings
namespace TypeGraph

/-- The pairs of brackets that type expressions have. -/
def bracketPairs : List (Char × Char) := [('(', ')'), ('[', ']'), ('\x7b', '\x7d')]

/-- **Brackets in pairs.**  Outside its strings the brackets of the text stand in pairs, and `outer`
lists what stands outside all pairs and strings. -/
inductive Nested : List Char → List Char → Prop where
  | nil : Nested [] []
  | plain {c : Char} {cs outer : List Char} (hquote : c ≠ '"') (hopen : c ∉ openers)
    (hclose : c ∉ closers) (h : Nested cs outer) : Nested (c :: cs) (c :: outer)
  | string {body cs outer : List Char} (hbody : Escaped body) (h : Nested cs outer) :
    Nested ('"' :: (body ++ '"' :: cs)) outer
  | bracket {l r : Char} {inside inner cs outer : List Char} (hpair : (l, r) ∈ bracketPairs)
    (hinside : Nested inside inner) (h : Nested cs outer) :
    Nested (l :: (inside ++ r :: cs)) outer

/-- An operator, which binds looser than what may surround it. -/
def isOperator (c : Char) : Bool := c = '|' || c = '&'

/-- The brackets of a text outside its strings stand in pairs. -/
def Balanced (text : String) : Prop := ∃ outer, Nested text.toList outer

/-- **A text that is safe beside any operator**: its brackets stand in pairs, and no operator of its
own stands outside all of them. -/
def Guarded (text : String) : Prop :=
  ∃ outer, Nested text.toList outer ∧ ∀ c ∈ outer, isOperator c = false

theorem Guarded.balanced {text : String} (h : Guarded text) : Balanced text :=
  h.imp fun _ h => h.1

/-! ### Scanning -/

theorem Nested.append {as bs outer outer' : List Char} (has : Nested as outer)
    (hbs : Nested bs outer') : Nested (as ++ bs) (outer ++ outer') := by
  induction has with
  | nil => exact hbs
  | plain hquote hopen hclose _ ih => exact .plain hquote hopen hclose ih
  | string hbody _ ih =>
    rw [List.cons_append, List.append_assoc, List.cons_append]
    exact .string hbody ih
  | bracket hpair hinside _ _ ih =>
    rw [List.cons_append, List.append_assoc, List.cons_append]
    exact .bracket hpair hinside ih

/-- What is skipped does not change the scan of what comes behind it. -/
theorem Skips.scan_append {s : Scan} {as : List Char} (h : Skips s as) (bs : List Char) :
    s.run (as ++ bs) = s.run bs ∧ hasLooseOperator s (as ++ bs) = hasLooseOperator s bs := by
  rw [Scan.run_append, hasLooseOperator_append, h.1, h.2]
  exact ⟨rfl, Bool.false_or _⟩

theorem mem_openers_closers {l r : Char} (h : (l, r) ∈ bracketPairs) : l ∈ openers ∧ r ∈ closers := by
  have hall : ∀ p ∈ bracketPairs, p.1 ∈ openers ∧ p.2 ∈ closers := by decide
  exact hall _ h

/-- **The scan of brackets in pairs** ends as it began.  At depth zero it finds the operators outside
all pairs and strings, and deeper it finds none. -/
theorem Nested.scan {cs outer : List Char} (h : Nested cs outer) {depth : Int} (hdepth : 0 ≤ depth) :
    (Scan.outside depth).run cs = .outside depth ∧
      hasLooseOperator (.outside depth) cs = (decide (depth = 0) && outer.any isOperator) := by
  induction h generalizing depth with
  | nil => exact ⟨rfl, by simp [hasLooseOperator]⟩
  | @plain c cs outer hquote hopen hclose _ ih =>
    have hnext := Scan.next_outside hquote hopen hclose depth
    obtain ⟨hrun, hloose⟩ := ih hdepth
    refine ⟨?_, ?_⟩
    · change ((Scan.outside depth).next c).run cs = _
      rw [hnext, hrun]
    · rw [hasLooseOperator, hnext, hloose, List.any_cons, Bool.and_or_distrib_left]
      rfl
  | @string body cs outer hbody _ ih =>
    have hsegment := hbody.passes depth hdepth
    rw [List.append_cons, ← List.cons_append]
    obtain ⟨hrun, hloose⟩ := hsegment.scan_append cs
    rw [hrun, hloose]
    exact ih hdepth
  | @bracket l r inside inner cs outer hpair _ _ ihinside ih =>
    have hinside : Passes 1 inside := by
      intro depth hdepth
      have hnonneg : 0 ≤ depth := by omega
      obtain ⟨hrun, hloose⟩ := ihinside hnonneg
      have hne : depth ≠ 0 := by omega
      exact ⟨hrun, by simp [hloose, hne]⟩
    obtain ⟨hl, hr⟩ := mem_openers_closers hpair
    have hsegment := passes_bracket (d := 0) hl hr hinside depth hdepth
    rw [List.append_cons, ← List.cons_append]
    obtain ⟨hrun, hloose⟩ := hsegment.scan_append cs
    rw [hrun, hloose]
    exact ih hdepth

/-! ### Loose operators -/

section Loose

variable {text : String}

/-- The scan of a text whose brackets stand in pairs finds the operators outside all of them. -/
theorem hasLooseOperator_of_nested {outer : List Char} (h : Nested text.toList outer) :
    hasLooseOperator {} text.toList = outer.any isOperator := (h.scan (Int.le_refl 0)).2

/-- **A text is safe beside any operator** exactly if the scan finds no loose one. -/
theorem Balanced.guarded_iff (h : Balanced text) :
    Guarded text ↔ hasLooseOperator {} text.toList = false := by
  constructor
  · rintro ⟨outer, houter, hnone⟩
    rw [hasLooseOperator_of_nested houter, List.any_eq_false]
    exact fun c hc => by simp [hnone c hc]
  · intro hloose
    obtain ⟨outer, houter⟩ := h
    rw [hasLooseOperator_of_nested houter, List.any_eq_false] at hloose
    exact ⟨outer, houter, fun c hc => by simpa using hloose c hc⟩

end Loose

/-! ### Texts built of texts -/

theorem guarded_empty : Guarded "" := ⟨[], .nil, by simp⟩

theorem Balanced.append {s t : String} (hs : Balanced s) (ht : Balanced t) : Balanced (s ++ t) := by
  obtain ⟨outer, hs⟩ := hs
  obtain ⟨outer', ht⟩ := ht
  rw [Balanced, String.toList_append]
  exact ⟨outer ++ outer', hs.append ht⟩

theorem Guarded.append {s t : String} (hs : Guarded s) (ht : Guarded t) : Guarded (s ++ t) := by
  obtain ⟨outer, hs, hnone⟩ := hs
  obtain ⟨outer', ht, hnone'⟩ := ht
  rw [Guarded, String.toList_append]
  refine ⟨outer ++ outer', hs.append ht, fun c hc => ?_⟩
  rcases List.mem_append.1 hc with hc | hc
  · exact hnone c hc
  · exact hnone' c hc

theorem balanced_intercalate {sep : String} (hsep : Balanced sep) {texts : List String}
    (h : ∀ t ∈ texts, Balanced t) : Balanced (sep.intercalate texts) :=
  intercalate_induction guarded_empty.balanced Balanced.append hsep h

theorem guarded_intercalate {sep : String} (hsep : Guarded sep) {texts : List String}
    (h : ∀ t ∈ texts, Guarded t) : Guarded (sep.intercalate texts) :=
  intercalate_induction guarded_empty Guarded.append hsep h

/-- **Brackets guard what they enclose.** -/
theorem Balanced.bracket {l r : Char} (hpair : (l, r) ∈ bracketPairs) {text : String}
    (h : Balanced text) : Guarded (String.singleton l ++ text ++ String.singleton r) := by
  obtain ⟨inner, h⟩ := h
  refine ⟨[], ?_, by simp⟩
  have hchars : (String.singleton l ++ text ++ String.singleton r).toList =
      l :: (text.toList ++ r :: []) := by simp
  rw [hchars]
  exact .bracket hpair h .nil

/-! ### Words and values -/

/-- A character that is no quote, no bracket and no operator. -/
def isInert (c : Char) : Bool := !('"' :: '|' :: '&' :: (openers ++ closers)).contains c

theorem guarded_of_forall {text : String} (h : ∀ c ∈ text.toList, isInert c = true) :
    Guarded text := by
  have hnested : ∀ cs : List Char, (∀ c ∈ cs, isInert c = true) → Nested cs cs := by
    intro cs hcs
    induction cs with
    | nil => exact .nil
    | cons c cs ih =>
      have hc := hcs c (List.mem_cons_self ..)
      simp only [isInert, Bool.not_eq_true', List.contains_eq_mem, decide_eq_false_iff_not,
        List.mem_cons, List.mem_append, not_or] at hc
      exact .plain hc.1 hc.2.2.2.1 hc.2.2.2.2 (ih fun d hd => hcs d (List.mem_cons_of_mem _ hd))
  refine ⟨text.toList, hnested _ h, fun c hc => ?_⟩
  have hc := h c hc
  simp only [isInert, Bool.not_eq_true', List.contains_eq_mem, decide_eq_false_iff_not,
    List.mem_cons, not_or] at hc
  simp [isOperator, hc.2.1, hc.2.2.1]

theorem guarded_plain {text : String} (h : Phrase.IsPlain text) : Guarded text :=
  guarded_of_forall fun c hc => by
    simpa [isInert] using not_mem_special_of_isWordChar (h.chars c hc)

theorem guarded_quote (t : String) : Guarded (Json.quote t) := by
  rw [Guarded, Json.quote, String.toList_ofList]
  exact ⟨[], .string (escaped_flatMap t.toList) .nil, by simp⟩

theorem guarded_word {text : String} (h : Phrase.IsWord text) : Guarded text := by
  rcases h with h | ⟨t, rfl⟩
  · exact guarded_plain h
  · exact guarded_quote t

end TypeGraph

namespace Json
open TypeGraph

mutual

/-- **The text of a value is safe beside any operator**, whatever its strings contain. -/
theorem guarded_text : ∀ v : Json, Guarded v.text
  | .null => guarded_word (isWord_text (v := .null) trivial)
  | .bool b => guarded_word (isWord_text (v := .bool b) trivial)
  | .number n => guarded_word (isWord_text (v := .number n) trivial)
  | .string s => guarded_quote s
  | .array items => by
    have hcomma : Guarded "," := guarded_of_forall (List.all_iff_forall_prop.1 (by decide))
    have hitems := guarded_intercalate hcomma (guarded_itemTexts items)
    exact hitems.balanced.bracket (l := '[') (r := ']') (by decide)
  | .object entries => by
    have hcomma : Guarded "," := guarded_of_forall (List.all_iff_forall_prop.1 (by decide))
    have hentries := guarded_intercalate hcomma (guarded_entryTexts entries)
    exact hentries.balanced.bracket (l := '\x7b') (r := '\x7d') (by decide)

theorem guarded_itemTexts : ∀ items : List Json, ∀ t ∈ itemTexts items, Guarded t
  | [], _, ht => nomatch ht
  | item :: rest, t, ht => by
    rcases List.mem_cons.1 ht with rfl | ht
    · exact guarded_text item
    · exact guarded_itemTexts rest t ht

theorem guarded_entryTexts :
    ∀ entries : List (String × Json), ∀ t ∈ entryTexts entries, Guarded t
  | [], _, ht => nomatch ht
  | (key, value) :: rest, t, ht => by
    have hcolon : Guarded ":" := guarded_of_forall (List.all_iff_forall_prop.1 (by decide))
    rcases List.mem_cons.1 ht with rfl | ht
    · exact ((guarded_quote key).append hcolon).append (guarded_text value)
    · exact guarded_entryTexts rest t ht

end

end Json
end SchemaTypings
