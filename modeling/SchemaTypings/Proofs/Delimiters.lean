import SchemaTypings.Proofs.Nesting

/-! # Delimiters that the scan does not know

Beside brackets and strings in double quotes, the text of a type may hold strings in other quotes,
and arrows, of which the `>` is no bracket.  The scan for loose operators knows neither.  Other quotes
leave it as it is, so that what they enclose counts for it; and at the end of every arrow it goes one
level up, as if a bracket were closed.  So an operator is found where as many brackets stand around it
as arrows stand before it, and one outside all brackets is missed behind an arrow.
-/
namespace SchemaTypings
namespace TypeGraph

/-! ### Reading -/

/-- The quotes of strings: double quotes, single quotes and backquotes. -/
def quotes : List Char := ['"', '\x27', '\x60']

/-- **An operator outside all strings**, by the brackets around it and the arrows before it. -/
structure Mark where
  brackets : Nat
  arrows : Nat
  deriving DecidableEq, Repr

/-- The operator with one more pair of brackets around it. -/
def Mark.enclosed (m : Mark) : Mark := { m with brackets := m.brackets + 1 }

/-- The operator with more arrows before it. -/
def Mark.behind (arrows : Nat) (m : Mark) : Mark := { m with arrows := m.arrows + arrows }

/-- **The inside of a string** in quotes of one kind: such a quote, or a backslash, has a backslash
before it. -/
inductive Quoted (q : Char) : List Char → Prop where
  | nil : Quoted q []
  | plain {c : Char} {cs : List Char} (hquote : c ≠ q) (hback : c ≠ '\\') (h : Quoted q cs) :
    Quoted q (c :: cs)
  | escape (c : Char) {cs : List Char} (h : Quoted q cs) : Quoted q ('\\' :: c :: cs)

/-- **Brackets, strings and arrows**, as they are meant: outside strings the brackets stand in pairs,
and the `>` of an arrow is none of them.  The arrows are counted, and the operators listed in order.
`Body` says what strings in single quotes and backquotes may hold. -/
inductive Delimited (Body : List Char → Prop) : List Char → Nat → List Mark → Prop where
  | nil : Delimited Body [] 0 []
  | plain {c : Char} {cs : List Char} {arrows : Nat} {marks : List Mark} (hquote : c ∉ quotes)
    (hopen : c ∉ openers) (hclose : c ∉ closers) (hop : isOperator c = false)
    (harrow : c = '=' → cs.head? ≠ some '>') (h : Delimited Body cs arrows marks) :
    Delimited Body (c :: cs) arrows marks
  | operator {c : Char} {cs : List Char} {arrows : Nat} {marks : List Mark}
    (hop : isOperator c = true) (h : Delimited Body cs arrows marks) :
    Delimited Body (c :: cs) arrows (⟨0, 0⟩ :: marks)
  | arrow {cs : List Char} {arrows : Nat} {marks : List Mark} (h : Delimited Body cs arrows marks) :
    Delimited Body ('=' :: '>' :: cs) (arrows + 1) (marks.map (Mark.behind 1))
  | string {body cs : List Char} {arrows : Nat} {marks : List Mark} (hbody : Quoted '"' body)
    (h : Delimited Body cs arrows marks) : Delimited Body ('"' :: (body ++ '"' :: cs)) arrows marks
  | literal {q : Char} {body cs : List Char} {arrows : Nat} {marks : List Mark} (hq : q ∈ quotes)
    (hne : q ≠ '"') (hquoted : Quoted q body) (hbody : Body body)
    (h : Delimited Body cs arrows marks) : Delimited Body (q :: (body ++ q :: cs)) arrows marks
  | bracket {l r : Char} {inside cs : List Char} {before arrows : Nat} {inner marks : List Mark}
    (hpair : (l, r) ∈ ('<', '>') :: bracketPairs) (harrow : r = '>' → inside.getLast? ≠ some '=')
    (hinside : Delimited Body inside before inner) (h : Delimited Body cs arrows marks) :
    Delimited Body (l :: (inside ++ r :: cs)) (before + arrows)
      (inner.map Mark.enclosed ++ marks.map (Mark.behind before))

/-- **A text that leaves the scan where it was**: its brackets and double quotes stand in pairs. -/
inductive Settled : List Char → Prop where
  | nil : Settled []
  | plain {c : Char} {cs : List Char} (hquote : c ≠ '"') (hopen : c ∉ openers) (hclose : c ∉ closers)
    (h : Settled cs) : Settled (c :: cs)
  | string {body cs : List Char} (hbody : Escaped body) (h : Settled cs) :
    Settled ('"' :: (body ++ '"' :: cs))
  | bracket {l r : Char} {inside cs : List Char} (hl : l ∈ openers) (hr : r ∈ closers)
    (hinside : Settled inside) (h : Settled cs) : Settled (l :: (inside ++ r :: cs))

/-- A text that leaves the scan where it was and has no operators. -/
def Quiet (body : List Char) : Prop := Settled body ∧ ∀ c ∈ body, isOperator c = false

/-! ### Scanning -/

theorem Quoted.escaped {body : List Char} (h : Quoted '"' body) : Escaped body := by
  induction h with
  | nil => exact .nil
  | plain hquote hback _ ih => exact .plain hquote hback ih
  | escape c _ ih => exact .escape c ih

theorem Scan.run_cons (s : Scan) (c : Char) (cs : List Char) : s.run (c :: cs) = (s.next c).run cs :=
  rfl

theorem Scan.isLoose_of_not_isOperator {c : Char} (h : isOperator c = false) (s : Scan) :
    s.isLoose c = false := by
  unfold Scan.isLoose
  unfold isOperator at h
  rw [h, Bool.and_false]

/-- A text without operators has no loose ones. -/
theorem hasLooseOperator_of_forall {cs : List Char} (h : ∀ c ∈ cs, isOperator c = false) (s : Scan) :
    hasLooseOperator s cs = false := by
  induction cs generalizing s with
  | nil => rfl
  | cons c cs ih =>
    rw [hasLooseOperator, Scan.isLoose_of_not_isOperator (h c List.mem_cons_self),
      ih fun d hd => h d (List.mem_cons_of_mem _ hd)]
    rfl

theorem Settled.run {body : List Char} (h : Settled body) (depth : Int) :
    (Scan.outside depth).run body = .outside depth := by
  induction h generalizing depth with
  | nil => rfl
  | plain hquote hopen hclose _ ih =>
    rw [Scan.run_cons, Scan.next_outside hquote hopen hclose, ih]
  | string hbody _ ih =>
    rw [List.append_cons, ← List.cons_append, ((hbody.skips_quoted depth).scan_append _).1, ih]
  | bracket hl hr _ _ ihinside ih =>
    rw [Scan.run_cons, Scan.next_opener hl, Scan.run_append, ihinside, Scan.run_cons,
      Scan.next_closer hr, Int.add_sub_cancel, ih]

/-- Whether the scan finds an operator, if it begins at a depth. -/
def Mark.isFound (depth : Int) (m : Mark) : Bool := depth + m.brackets = m.arrows

theorem Mark.isFound_iff {depth : Int} {m : Mark} :
    m.isFound depth = true ↔ depth + m.brackets = m.arrows := decide_eq_true_iff

theorem Mark.isFound_enclosed (depth : Int) :
    Mark.isFound depth ∘ Mark.enclosed = Mark.isFound (depth + 1) := by
  funext m
  rw [Function.comp, Bool.eq_iff_iff, isFound_iff, isFound_iff]
  simp only [enclosed]
  omega

theorem Mark.isFound_behind (depth : Int) (arrows : Nat) :
    Mark.isFound depth ∘ Mark.behind arrows = Mark.isFound (depth - arrows) := by
  funext m
  rw [Function.comp, Bool.eq_iff_iff, isFound_iff, isFound_iff]
  simp only [behind]
  omega

theorem mem_openers_closers_of_pair {l r : Char} (h : (l, r) ∈ ('<', '>') :: bracketPairs) :
    l ∈ openers ∧ r ∈ closers := by
  have hall : ∀ p ∈ ('<', '>') :: bracketPairs, p.1 ∈ openers ∧ p.2 ∈ closers := by decide
  exact hall _ h

/-- Single quotes and backquotes are characters like any other to the scan. -/
theorem inert_of_mem_quotes {q : Char} (hq : q ∈ quotes) (hne : q ≠ '"') :
    q ∉ openers ∧ q ∉ closers ∧ isOperator q = false := by
  have hall : ∀ q ∈ quotes, q ≠ '"' → q ∉ openers ∧ q ∉ closers ∧ isOperator q = false :=
    List.all_iff_forall_prop.1 (by decide)
  exact hall q hq hne

/-- **What the scan makes of a text**, from every depth: at its end it is one level up for every
arrow.  It finds the operators that have as many brackets around them as arrows before them, counted
from its depth, and beside them some that stand in strings, unless these are `quiet`. -/
structure Scanned (quiet : Prop) (cs : List Char) (arrows : Nat) (marks : List Mark) : Prop where
  run : ∀ depth : Int, (Scan.outside depth).run cs = .outside (depth - arrows)
  finds : ∀ depth : Int, ∃ quoted, hasLooseOperator (.outside depth) cs =
    (marks.any (Mark.isFound depth) || quoted) ∧ (quiet → quoted = false)

namespace Scanned

variable {quiet : Prop} {c : Char} {cs : List Char} {arrows : Nat} {marks : List Mark}

theorem nil : Scanned quiet [] 0 [] where
  run depth := by simp [Scan.run]
  finds _ := ⟨false, rfl, fun _ => rfl⟩

theorem plain (h : Scanned quiet cs arrows marks) (hquote : c ≠ '"') (hopen : c ∉ openers)
    (hclose : c ∉ closers) (hop : isOperator c = false) : Scanned quiet (c :: cs) arrows marks where
  run depth := by rw [Scan.run_cons, Scan.next_outside hquote hopen hclose, h.run]
  finds depth := by
    obtain ⟨quoted, hloose, hquiet⟩ := h.finds depth
    refine ⟨quoted, ?_, hquiet⟩
    rw [hasLooseOperator, Scan.next_outside hquote hopen hclose, hloose,
      Scan.isLoose_of_not_isOperator hop, Bool.false_or]

/-- An operator is found at depth zero. -/
theorem operator (h : Scanned quiet cs arrows marks) (hop : isOperator c = true) :
    Scanned quiet (c :: cs) arrows (⟨0, 0⟩ :: marks) := by
  have hc : c = '|' ∨ c = '&' := by simpa [isOperator] using hop
  have hnext : ∀ depth, (Scan.outside depth).next c = .outside depth := by
    rcases hc with rfl | rfl <;> exact Scan.next_outside (by decide) (by decide) (by decide)
  have hhere : ∀ depth, (Scan.outside depth).isLoose c = Mark.isFound depth ⟨0, 0⟩ := by
    intro depth
    have hloose : (Scan.outside depth).isLoose c = decide (depth = 0) := by
      rcases hc with rfl | rfl <;> exact Bool.and_true _
    rw [hloose, Bool.eq_iff_iff, Mark.isFound_iff, decide_eq_true_iff]
    simp
  refine ⟨fun depth => by rw [Scan.run_cons, hnext, h.run], fun depth => ?_⟩
  obtain ⟨quoted, hloose, hquiet⟩ := h.finds depth
  refine ⟨quoted, ?_, hquiet⟩
  rw [hasLooseOperator, hnext, hloose, hhere, List.any_cons, Bool.or_assoc]

/-- The `>` of an arrow closes a bracket that was never open. -/
theorem arrow (h : Scanned quiet cs arrows marks) :
    Scanned quiet ('=' :: '>' :: cs) (arrows + 1) (marks.map (Mark.behind 1)) := by
  have hnext : ∀ depth, ((Scan.outside depth).next '=').next '>' = .outside (depth - 1) := by
    intro depth
    rw [Scan.next_outside (by decide) (by decide) (by decide), Scan.next_closer (by decide)]
  refine ⟨fun depth => ?_, fun depth => ?_⟩
  · rw [Scan.run_cons, Scan.run_cons, hnext, h.run]
    congr 1
    omega
  · obtain ⟨quoted, hloose, hquiet⟩ := h.finds (depth - 1)
    refine ⟨quoted, ?_, hquiet⟩
    rw [hasLooseOperator, hasLooseOperator, hnext, hloose,
      Scan.isLoose_of_not_isOperator (by decide), Scan.isLoose_of_not_isOperator (by decide),
      List.any_map, Mark.isFound_behind]
    rfl

theorem string (h : Scanned quiet cs arrows marks) {body : List Char} (hbody : Escaped body) :
    Scanned quiet ('"' :: (body ++ '"' :: cs)) arrows marks := by
  have hskips := fun depth => (hbody.skips_quoted depth).scan_append cs
  rw [List.append_cons, ← List.cons_append]
  exact ⟨fun depth => (hskips depth).1.trans (h.run depth), fun depth => by
    rw [(hskips depth).2]
    exact h.finds depth⟩

/-- A text in front that leaves the scan where it was. -/
theorem settled (h : Scanned quiet cs arrows marks) {body : List Char} (hbody : Settled body)
    (hnone : quiet → ∀ c ∈ body, isOperator c = false) :
    Scanned quiet (body ++ cs) arrows marks where
  run depth := by rw [Scan.run_append, hbody.run, h.run]
  finds depth := by
    obtain ⟨quoted, hloose, hquiet⟩ := h.finds depth
    refine ⟨hasLooseOperator (.outside depth) body || quoted, ?_, fun hq => ?_⟩
    · rw [hasLooseOperator_append, hbody.run, hloose, Bool.or_left_comm]
    · rw [hasLooseOperator_of_forall (hnone hq), hquiet hq]
      rfl

/-- What stands in brackets is scanned one level down. -/
theorem bracket (h : Scanned quiet cs arrows marks) {l r : Char} {inside : List Char} {before : Nat}
    {inner : List Mark} (hinside : Scanned quiet inside before inner) (hl : l ∈ openers)
    (hr : r ∈ closers) : Scanned quiet (l :: (inside ++ r :: cs)) (before + arrows)
      (inner.map Mark.enclosed ++ marks.map (Mark.behind before)) := by
  have hback : ∀ depth : Int, depth + 1 - before - 1 = depth - before := fun depth => by omega
  refine ⟨fun depth => ?_, fun depth => ?_⟩
  · rw [Scan.run_cons, Scan.next_opener hl, Scan.run_append, hinside.run, Scan.run_cons,
      Scan.next_closer hr, hback, h.run]
    congr 1
    omega
  · obtain ⟨quotedInside, hlooseInside, hquietInside⟩ := hinside.finds (depth + 1)
    obtain ⟨quoted, hloose, hquiet⟩ := h.finds (depth - before)
    refine ⟨quotedInside || quoted, ?_, fun hq => by rw [hquietInside hq, hquiet hq]; rfl⟩
    rw [hasLooseOperator, Scan.next_opener hl, hasLooseOperator_append, hinside.run, hlooseInside,
      hasLooseOperator, Scan.next_closer hr, hback, hloose,
      Scan.isLoose_bracket (List.mem_append_left _ hl),
      Scan.isLoose_bracket (List.mem_append_right _ hr), List.any_append, List.any_map,
      List.any_map, Mark.isFound_enclosed, Mark.isFound_behind, Bool.false_or, Bool.false_or,
      Bool.or_assoc, Bool.or_assoc, Bool.or_left_comm quotedInside]

end Scanned

/-- **The scan of a text whose strings settle it.** -/
theorem Delimited.scanned {Body : List Char → Prop} (hsettled : ∀ body, Body body → Settled body)
    {cs : List Char} {arrows : Nat} {marks : List Mark} (h : Delimited Body cs arrows marks) :
    Scanned (∀ body, Body body → ∀ c ∈ body, isOperator c = false) cs arrows marks := by
  induction h with
  | nil => exact .nil
  | plain hquote hopen hclose hop _ _ ih =>
    exact ih.plain (fun hc => hquote (hc ▸ List.mem_cons_self)) hopen hclose hop
  | operator hop _ ih => exact ih.operator hop
  | arrow _ ih => exact ih.arrow
  | string hbody _ ih => exact ih.string hbody.escaped
  | @literal _ body _ _ _ hq hne _ hbody _ ih =>
    obtain ⟨hopen, hclose, hop⟩ := inert_of_mem_quotes hq hne
    have hclosed := (ih.plain hne hopen hclose hop).settled (hsettled body hbody)
      fun hquiet => hquiet body hbody
    exact hclosed.plain hne hopen hclose hop
  | bracket hpair _ _ _ ihinside ih =>
    obtain ⟨hl, hr⟩ := mem_openers_closers_of_pair hpair
    exact ih.bracket ihinside hl hr

/-! ### Parentheses -/

/-- A text is put in parentheses exactly if the scan finds an operator. -/
theorem parenthesize_eq_iff {text : String} :
    parenthesize text = "(" ++ text ++ ")" ↔ hasLooseOperator {} text.toList = true := by
  unfold parenthesize
  split
  · next h => exact ⟨fun _ => h, fun _ => rfl⟩
  · next h =>
    refine ⟨fun heq => ?_, fun hloose => absurd hloose h⟩
    have hlength := congrArg String.length heq
    simp only [String.length_append] at hlength
    have hparen : "(".length = 1 := rfl
    omega

/-- Several texts are joined in parentheses. -/
theorem intersectionText_of_length {texts : List String} (h : 2 ≤ texts.length) :
    intersectionText texts = "(" ++ " & ".intercalate (texts.map parenthesize) ++ ")" := by
  match texts with
  | [] | [_] => simp at h
  | _ :: _ :: _ => rfl

/-- **When operators are found.**  Let brackets and double quotes stand in pairs in the strings in
other quotes that a text holds.  If some operator has as many brackets around it as arrows before it,
the text is put in parentheses; and if those strings hold no operators, it is so exactly then.  So
a text with an operator outside all brackets and before all arrows is put in parentheses, in arrays
and in intersections too. -/
theorem parenthesize_delimited {text : String} {arrows : Nat} {marks : List Mark}
    (h : Delimited Settled text.toList arrows marks) :
    ((∃ m ∈ marks, m.brackets = m.arrows) → parenthesize text = "(" ++ text ++ ")") ∧
    (Delimited Quiet text.toList arrows marks →
      (parenthesize text = "(" ++ text ++ ")" ↔ ∃ m ∈ marks, m.brackets = m.arrows)) ∧
    ((∃ m ∈ marks, m.brackets = 0 ∧ m.arrows = 0) →
      arrayText text = "(" ++ text ++ ")[]" ∧
      ∀ before after, before ++ after ≠ [] → intersectionText (before ++ text :: after) =
        "(" ++ " & ".intercalate
          (before.map parenthesize ++ ("(" ++ text ++ ")") :: after.map parenthesize) ++ ")") := by
  have hfound : marks.any (Mark.isFound 0) = true ↔ ∃ m ∈ marks, m.brackets = m.arrows := by
    simp only [List.any_eq_true, Mark.isFound_iff, Int.zero_add, Int.natCast_inj]
  have hwrapped : (∃ m ∈ marks, m.brackets = m.arrows) →
      parenthesize text = "(" ++ text ++ ")" := by
    intro hmark
    obtain ⟨quoted, hloose, -⟩ := (h.scanned fun _ hbody => hbody).finds 0
    rw [hfound.2 hmark, Bool.true_or] at hloose
    exact parenthesize_eq_iff.2 hloose
  refine ⟨hwrapped, fun hquiet => ⟨fun hparens => ?_, hwrapped⟩, fun hmark => ?_⟩
  · obtain ⟨quoted, hloose, hnone⟩ := (hquiet.scanned fun _ hbody => hbody.1).finds 0
    rw [hnone fun _ hbody => hbody.2, Bool.or_false] at hloose
    exact hfound.1 (hloose.symm.trans (parenthesize_eq_iff.1 hparens))
  · obtain ⟨m, hm, hbrackets, harrows⟩ := hmark
    have hparens := hwrapped ⟨m, hm, hbrackets.trans harrows.symm⟩
    refine ⟨?_, fun before after hne => ?_⟩
    · rw [arrayText, hparens, String.append_assoc]
      rfl
    · rw [← hparens, ← List.map_cons, ← List.map_append]
      refine intersectionText_of_length ?_
      have hpos := List.length_pos_iff.2 hne
      simp only [List.length_append, List.length_cons] at hpos ⊢
      omega

/-- A stretch of characters that delimit nothing. -/
theorem Delimited.plains {Body : List Char → Prop} {cs : List Char} {arrows : Nat}
    {marks : List Mark} (as : List Char)
    (has : (as.all fun c => c ∉ '=' :: '|' :: '&' :: (quotes ++ openers ++ closers)) = true)
    (h : Delimited Body cs arrows marks) : Delimited Body (as ++ cs) arrows marks := by
  replace has := List.all_iff_forall_prop.1 has
  induction as with
  | nil => exact h
  | cons a as ih =>
    have ha := has a List.mem_cons_self
    simp only [List.mem_cons, List.mem_append, not_or] at ha
    obtain ⟨hequals, hbar, hand, ⟨hquote, hopen⟩, hclose⟩ := ha
    exact .plain hquote hopen hclose (by simp [isOperator, hbar, hand])
      (fun heq => absurd heq hequals) (ih fun c hc => has c (List.mem_cons_of_mem _ hc))

/-- A map of literals, one with brackets and one with an operator in it, or `null`. -/
def literalMap : String := "Map<'(x)', \"|\"> | null"

/-- Its only operator outside strings stands outside all brackets. -/
theorem delimited_literalMap {Body : List Char → Prop} (hbody : Body ['(', 'x', ')']) :
    Delimited Body literalMap.toList 0 [⟨0, 0⟩] := by
  have hinside : Delimited Body ('\x27' :: (['(', 'x', ')'] ++ '\x27' ::
      ([',', ' '] ++ '"' :: (['|'] ++ '"' :: [])))) 0 [] :=
    .literal (by decide) (by decide) (.plain (by decide) (by decide) (.plain (by decide) (by decide)
      (.plain (by decide) (by decide) .nil))) hbody
      (.plains _ (by decide) (.string (.plain (by decide) (by decide) .nil) .nil))
  have hrest : Delimited Body ([' '] ++ '|' :: (" null".toList ++ [])) 0 [⟨0, 0⟩] :=
    .plains _ (by decide) (.operator rfl (.plains _ (by decide) .nil))
  have hpair : ('<', '>') ∈ ('<', '>') :: bracketPairs := List.mem_cons_self
  exact .plains "Map".toList (by decide) (.bracket hpair (by decide) hinside hrest)

/-- The choice is put in parentheses before `[]`. -/
theorem parenthesize_delimited_literalMap :
    parenthesize literalMap = "(Map<'(x)', \"|\"> | null)" ∧
      arrayText literalMap = "(Map<'(x)', \"|\"> | null)[]" := by
  have hpair : Settled ('(' :: (['x'] ++ [')'])) :=
    .bracket (by decide) (by decide) (.plain (by decide) (by decide) (by decide) .nil) .nil
  have hquiet : Quiet ['(', 'x', ')'] := ⟨hpair, List.all_iff_forall_prop.1 (by decide)⟩
  obtain ⟨-, hiff, hloose⟩ := parenthesize_delimited (delimited_literalMap hpair)
  exact ⟨(hiff (delimited_literalMap hquiet)).2 ⟨⟨0, 0⟩, List.mem_singleton_self _, rfl⟩,
    (hloose ⟨⟨0, 0⟩, List.mem_singleton_self _, rfl, rfl⟩).1⟩

/-- **Operators that are missed**: behind an arrow, and behind a bracket or a double quote that stands
in single quotes, though they stand outside all brackets and strings. -/
theorem exists_operator_not_parenthesized :
    (Delimited (fun _ => True) "() => void | string".toList 1 [⟨0, 1⟩] ∧
      parenthesize "() => void | string" = "() => void | string" ∧
      arrayText "() => void | string" = "() => void | string[]") ∧
    (Delimited (fun _ => True) "'<' | string".toList 0 [⟨0, 0⟩] ∧
      parenthesize "'<' | string" = "'<' | string") ∧
    Delimited (fun _ => True) "'\"' | string".toList 0 [⟨0, 0⟩] ∧
      parenthesize "'\"' | string" = "'\"' | string" := by
  have hchoice : Delimited (fun _ => True) " | string".toList 0 [⟨0, 0⟩] :=
    .plains [' '] (by decide) (.operator rfl (.plains " string".toList (by decide) .nil))
  have harrow : Delimited (fun _ => True) " => void | string".toList 1 [⟨0, 1⟩] :=
    .plains [' '] (by decide) (.arrow (.plains " void".toList (by decide) hchoice))
  have hliteral : ∀ c, c ≠ '\x27' → c ≠ '\\' →
      Delimited (fun _ => True) ('\x27' :: ([c] ++ '\x27' :: " | string".toList)) 0 [⟨0, 0⟩] :=
    fun c hquote hback =>
      .literal (by decide) (by decide) (.plain hquote hback .nil) trivial hchoice
  have hparens : Delimited (fun _ => True) ('(' :: ([] ++ ')' :: " => void | string".toList)) (0 + 1)
      ([].map Mark.enclosed ++ [⟨0, 1⟩].map (Mark.behind 0)) :=
    .bracket (by decide) (by decide) .nil harrow
  exact ⟨⟨hparens, by decide, by decide⟩, ⟨hliteral '<' (by decide) (by decide), by decide⟩,
    hliteral '"' (by decide) (by decide), by decide⟩

end TypeGraph
end SchemaTypings
