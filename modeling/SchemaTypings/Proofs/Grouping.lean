import SchemaTypings.Proofs.Phrase

/-! # Where parentheses stand

Parentheses are put around a text when a scan finds an operator outside all brackets and strings.
On the text of a proper phrase the scan ends as it began, and it finds such an operator exactly
where the phrase shows several alternatives.
-/
namespace SchemaTypings
namespace TypeGraph

/-! ### Scanning -/

/-- The scan outside strings, at a depth. -/
def Scan.outside (depth : Int) : Scan := ⟨depth, false, false⟩

/-- The scan inside a string, at a depth. -/
def Scan.inside (depth : Int) : Scan := ⟨depth, true, false⟩

/-- The scan after a text. -/
def Scan.run (s : Scan) (cs : List Char) : Scan := cs.foldl Scan.next s

theorem Scan.run_append (s : Scan) (as bs : List Char) : s.run (as ++ bs) = (s.run as).run bs :=
  List.foldl_append ..

theorem hasLooseOperator_append (s : Scan) (as bs : List Char) :
    hasLooseOperator s (as ++ bs) = (hasLooseOperator s as || hasLooseOperator (s.run as) bs) := by
  induction as generalizing s with
  | nil => rfl
  | cons a as ih =>
    rw [List.cons_append, hasLooseOperator, hasLooseOperator, ih, Bool.or_assoc]
    rfl

/-- The scan of a text from a state ends in the same state and finds no operator. -/
def Skips (s : Scan) (cs : List Char) : Prop := s.run cs = s ∧ hasLooseOperator s cs = false

theorem skips_nil (s : Scan) : Skips s [] := ⟨rfl, rfl⟩

theorem Skips.append {s : Scan} {as bs : List Char} (has : Skips s as) (hbs : Skips s bs) :
    Skips s (as ++ bs) := by
  refine ⟨?_, ?_⟩
  · rw [Scan.run_append, has.1, hbs.1]
  · rw [hasLooseOperator_append, has.1, has.2, hbs.2]
    rfl

theorem skips_singleton {s : Scan} {c : Char} (hnext : s.next c = s) (hloose : s.isLoose c = false) :
    Skips s [c] := ⟨hnext, by simp [hasLooseOperator, hloose]⟩

/-- **A text that is skipped at every depth** from `least` on. -/
def Passes (least : Int) (cs : List Char) : Prop :=
  ∀ depth, least ≤ depth → Skips (.outside depth) cs

theorem passes_nil (least : Int) : Passes least [] := fun _ _ => skips_nil _

theorem Passes.mono {d e : Int} (hde : d ≤ e) {cs : List Char} (h : Passes d cs) : Passes e cs :=
  fun depth hdepth => h depth (Int.le_trans hde hdepth)

theorem Passes.append {d : Int} {as bs : List Char} (has : Passes d as) (hbs : Passes d bs) :
    Passes d (as ++ bs) := fun depth hdepth => (has depth hdepth).append (hbs depth hdepth)

theorem passes_intercalate {d : Int} {sep : List Char} (hsep : Passes d sep)
    {texts : List (List Char)} (h : ∀ cs ∈ texts, Passes d cs) :
    Passes d (sep.intercalate texts) := by
  induction texts with
  | nil => exact passes_nil _
  | cons cs rest ih =>
    have hcs := h cs (List.mem_cons_self ..)
    cases rest with
    | nil => rwa [List.intercalate_singleton]
    | cons next rest =>
      rw [List.intercalate_cons_cons]
      exact (hcs.append hsep).append (ih fun text htext => h text (List.mem_cons_of_mem _ htext))

/-- The characters that open brackets. -/
def openers : List Char := ['(', '[', '\x7b', '<']

/-- The characters that close brackets. -/
def closers : List Char := [')', ']', '\x7d', '>']

/-- Outside strings a character that is no bracket and no quote leaves the scan as it is. -/
theorem Scan.next_outside {c : Char} (hquote : c ≠ '"') (hopen : c ∉ openers) (hclose : c ∉ closers)
    (depth : Int) : (Scan.outside depth).next c = .outside depth := by
  simp only [openers] at hopen
  simp only [closers] at hclose
  simp only [Scan.next, Scan.outside, hquote, hopen, hclose, if_false]
  rfl

/-- A character that is no bracket and no quote is skipped; where it may stand at depth zero it must
not be an operator either. -/
theorem passes_singleton {d : Int} {c : Char} (hquote : c ≠ '"') (hopen : c ∉ openers)
    (hclose : c ∉ closers) (hop : 1 ≤ d ∨ c ≠ '|' ∧ c ≠ '&') : Passes d [c] := by
  intro depth hdepth
  refine skips_singleton (Scan.next_outside hquote hopen hclose depth) ?_
  rcases hop with hd | hop
  · have hne : depth ≠ 0 := by omega
    simp [Scan.isLoose, Scan.outside, hne]
  · simp [Scan.isLoose, Scan.outside, hop]

theorem passes_of_forall {d : Int} {cs : List Char} (h : ∀ c ∈ cs, Passes d [c]) :
    Passes d cs := by
  induction cs with
  | nil => exact passes_nil _
  | cons c cs ih =>
    exact (h c (List.mem_cons_self ..)).append (ih fun c' hc' => h c' (List.mem_cons_of_mem _ hc'))

/-- A bracket that opens leads one level deeper. -/
theorem Scan.next_opener {l : Char} (hl : l ∈ openers) (depth : Int) :
    (Scan.outside depth).next l = .outside (depth + 1) := by
  have hquote : l ≠ '"' := by rintro rfl; simp [openers] at hl
  simp only [openers] at hl
  simp only [Scan.next, Scan.outside, hquote, hl, if_false, if_true]
  rfl

/-- A bracket that closes leads one level up. -/
theorem Scan.next_closer {r : Char} (hr : r ∈ closers) (depth : Int) :
    (Scan.outside depth).next r = .outside (depth - 1) := by
  have hquote : r ≠ '"' := by rintro rfl; simp [closers] at hr
  have hopen : r ∉ openers := by
    intro hopen
    simp only [openers, closers, List.mem_cons, List.not_mem_nil, or_false] at hopen hr
    rcases hopen with rfl | rfl | rfl | rfl <;> simp at hr
  simp only [openers] at hopen
  simp only [closers] at hr
  simp only [Scan.next, Scan.outside, hquote, hr, hopen, if_false, if_true, Bool.false_eq_true]

/-- No bracket is an operator. -/
theorem Scan.isLoose_bracket {c : Char} (hc : c ∈ openers ++ closers) (s : Scan) :
    s.isLoose c = false := by
  have hop : ¬ (c = '|' ∨ c = '&') := by
    rintro (rfl | rfl) <;> simp [openers, closers] at hc
  simp [Scan.isLoose, not_or.1 hop]

/-- A text in brackets is skipped where its inside is skipped one level deeper. -/
theorem passes_bracket {d : Int} {l r : Char} (hl : l ∈ openers) (hr : r ∈ closers)
    {cs : List Char} (h : Passes (d + 1) cs) : Passes d (l :: (cs ++ [r])) := by
  intro depth hdepth
  have hdown := Scan.next_opener hl depth
  have hup := Scan.next_closer hr (depth + 1)
  rw [Int.add_sub_cancel] at hup
  obtain ⟨hrun, hloose⟩ := h (depth + 1) (by omega)
  refine ⟨?_, ?_⟩
  · change ((Scan.outside depth).next l).run (cs ++ [r]) = _
    rw [hdown, Scan.run_append, hrun]
    exact hup
  · rw [hasLooseOperator, hdown, hasLooseOperator_append, hloose, hrun, hasLooseOperator,
      Scan.isLoose_bracket (List.mem_append_left _ hl),
      Scan.isLoose_bracket (List.mem_append_right _ hr)]
    rfl

/-! ### Words -/

theorem not_mem_special_of_isWordChar {c : Char} (h : Phrase.isWordChar c = true) :
    c ∉ '"' :: '|' :: '&' :: (openers ++ closers) := by
  have hspecial : ∀ d ∈ '"' :: '|' :: '&' :: (openers ++ closers), Phrase.isWordChar d = false :=
    List.all_iff_forall_prop.1 (by decide)
  exact fun hmem => Bool.noConfusion ((hspecial c hmem).symm.trans h)

theorem passes_plain {s : String} (h : Phrase.IsPlain s) : Passes 0 s.toList := by
  refine passes_of_forall fun c hc => ?_
  have hne := not_mem_special_of_isWordChar (h.chars c hc)
  simp only [List.mem_cons, List.mem_append, not_or] at hne
  exact passes_singleton hne.1 hne.2.2.2.1 hne.2.2.2.2 (Or.inr ⟨hne.2.1, hne.2.2.1⟩)

/-- **The inside of a string**: a quote or a backslash has a backslash before it. -/
inductive Escaped : List Char → Prop where
  | nil : Escaped []
  | plain {c : Char} {cs : List Char} (hquote : c ≠ '"') (hback : c ≠ '\\') (h : Escaped cs) :
    Escaped (c :: cs)
  | escape (c : Char) {cs : List Char} (h : Escaped cs) : Escaped ('\\' :: c :: cs)

theorem Escaped.append {as bs : List Char} (has : Escaped as) (hbs : Escaped bs) :
    Escaped (as ++ bs) := by
  induction has with
  | nil => exact hbs
  | plain hquote hback _ ih => exact .plain hquote hback ih
  | escape c _ ih => exact .escape c ih

theorem escaped_of_forall {cs : List Char} (h : ∀ c ∈ cs, c ≠ '"' ∧ c ≠ '\\') : Escaped cs := by
  induction cs with
  | nil => exact .nil
  | cons c cs ih =>
    obtain ⟨hquote, hback⟩ := h c (List.mem_cons_self ..)
    exact .plain hquote hback (ih fun c' hc' => h c' (List.mem_cons_of_mem _ hc'))

/-- Inside a string only quotes and backslashes count. -/
theorem Escaped.skips {depth : Int} {cs : List Char} (h : Escaped cs) :
    Skips (.inside depth) cs := by
  induction h with
  | nil => exact skips_nil _
  | @plain c cs hquote hback _ ih =>
    have hc : Skips (.inside depth) [c] :=
      skips_singleton (by simp [Scan.next, Scan.inside, hquote, hback])
        (by simp [Scan.isLoose, Scan.inside])
    exact hc.append ih
  | @escape c cs _ ih =>
    have hc : Skips (.inside depth) ['\\', c] := ⟨rfl, rfl⟩
    exact hc.append ih

/-- A string is skipped, at whatever depth. -/
theorem Escaped.skips_quoted {body : List Char} (h : Escaped body) (depth : Int) :
    Skips (.outside depth) ('"' :: (body ++ ['"'])) := by
  obtain ⟨hrun, hloose⟩ : Skips (.inside depth) body := h.skips
  have hopen : (Scan.outside depth).next '"' = Scan.inside depth := rfl
  have hclose : (Scan.inside depth).next '"' = Scan.outside depth := rfl
  refine ⟨?_, ?_⟩
  · change ((Scan.outside depth).next '"').run _ = _
    rw [hopen, Scan.run_append, hrun]
    exact hclose
  · rw [hasLooseOperator, hopen, hasLooseOperator_append, hrun, hloose]
    simp [hasLooseOperator, Scan.isLoose, Scan.outside, Scan.inside]

theorem Escaped.passes {body : List Char} (h : Escaped body) : Passes 0 ('"' :: (body ++ ['"'])) :=
  fun depth _ => h.skips_quoted depth

theorem ne_of_mem_hexDigits {n : Nat} (hn : n < 32) :
    ∀ c ∈ Text.hexDigits n, c ≠ '"' ∧ c ≠ '\\' := by
  have hall : ∀ n < 32, (Text.hexDigits n).all (fun c => c ≠ '"' ∧ c ≠ '\\') = true := by
    decide
  exact List.all_iff_forall_prop.1 (hall n hn)

theorem escaped_escapeChar (c : Char) : Escaped (Json.escapeChar c) := by
  have hcontrol : ∀ zeros : List Char, (∀ z ∈ zeros, z = '0') → c.toNat < 32 →
      Escaped (['\\', 'u'] ++ (zeros ++ Text.hexDigits c.toNat)) := by
    intro zeros hzeros hc
    have hrest : Escaped (zeros ++ Text.hexDigits c.toNat) := by
      refine escaped_of_forall fun d hd => ?_
      rcases List.mem_append.1 hd with hd | hd
      · rw [hzeros d hd]
        decide
      · exact ne_of_mem_hexDigits hc d hd
    exact .escape 'u' hrest
  unfold Json.escapeChar
  split
  · exact .escape _ .nil
  · split
    · exact .escape _ .nil
    · next hquote hback =>
      split
      · exact .escape _ .nil
      split
      · exact .escape _ .nil
      split
      · exact .escape _ .nil
      split
      · exact .escape _ .nil
      split
      · exact .escape _ .nil
      split
      · next h => exact hcontrol ['0', '0', '0'] (by simp) (by omega)
      split
      · next h => exact hcontrol ['0', '0'] (by simp) h
      · exact .plain hquote hback .nil

theorem escaped_flatMap (cs : List Char) : Escaped (cs.flatMap Json.escapeChar) := by
  induction cs with
  | nil => exact .nil
  | cons c cs ih =>
    rw [List.flatMap_cons]
    exact (escaped_escapeChar c).append ih

theorem passes_quote (t : String) : Passes 0 (Json.quote t).toList := by
  rw [Json.quote, String.toList_ofList]
  exact (escaped_flatMap t.toList).passes

theorem passes_word {s : String} (h : Phrase.IsWord s) : Passes 0 s.toList := by
  rcases h with h | ⟨t, rfl⟩
  · exact passes_plain h
  · exact passes_quote t

/-- The characters between words: blanks, separators and marks. -/
def isMark (c : Char) : Bool := [' ', ',', ';', ':', '?', '.', '|', '&'].contains c

/-- Text between brackets and quotes of its own. -/
theorem passes_marks {cs : List Char} (h : cs.all isMark = true) : Passes 1 cs := by
  refine passes_of_forall fun c hc => ?_
  have hmarks : ∀ d ∈ [' ', ',', ';', ':', '?', '.', '|', '&'],
      d ≠ '"' ∧ d ∉ openers ∧ d ∉ closers := List.all_iff_forall_prop.1 (by decide)
  obtain ⟨hquote, hopen, hclose⟩ :=
    hmarks c (List.contains_iff_mem.1 (List.all_eq_true.1 h c hc))
  exact passes_singleton hquote hopen hclose (Or.inl (Int.le_refl 1))

end TypeGraph

namespace Phrase
open TypeGraph

theorem isPlain_of_isIdentifier {s : String} (h : Identifier.isIdentifier s = true) : IsPlain s := by
  have hpart : ∀ c, Identifier.isPart c = true → isWordChar c = true := by
    intro c hc
    simp only [Identifier.isPart, Bool.or_eq_true, decide_eq_true_eq] at hc
    rcases hc with (hc | rfl) | rfl
    · simp [isWordChar, hc]
    · decide
    · decide
  unfold Identifier.isIdentifier at h
  split at h
  · cases h
  · next c rest heq =>
    rw [Bool.and_eq_true, List.all_eq_true] at h
    have hstart : Identifier.isPart c = true := by
      have hc := h.1
      simp only [Identifier.isStart, Bool.or_eq_true, decide_eq_true_eq] at hc
      simp only [Identifier.isPart, Bool.or_eq_true, decide_eq_true_eq, Char.isAlphanum]
      exact hc.imp_left fun hc => hc.imp_left Or.inl
    refine ⟨by simp [heq], ?_, ?_⟩
    · rw [heq, List.head?_cons]
      rintro hdot
      cases hdot
      exact absurd h.1 (by decide)
    · rw [heq]
      intro d hd
      rcases List.mem_cons.1 hd with rfl | hd
      · exact hpart _ hstart
      · exact hpart d (h.2 d hd)

theorem isWord_keyText (key : String) : IsWord (Identifier.keyText key) := by
  unfold Identifier.keyText
  split
  · next h => exact Or.inl (isPlain_of_isIdentifier h)
  · exact Or.inr ⟨key, rfl⟩

/-! ### Phrases -/

/-- The depth from which on the text of a phrase is skipped: closed phrases show no operator. -/
def Grade.depth : Grade → Int
  | .closed => 0
  | _ => 1

theorem passes_fieldText (f : Field) : Passes 1 f.text.toList := by
  rw [Field.text, String.toList_append]
  refine Passes.append ?_ (passes_marks ?_)
  · cases f.key with
    | some key => exact (passes_word (isWord_keyText key)).mono (by decide)
    | none =>
      have hinside : Passes 2 "k: string".toList :=
        passes_of_forall fun c hc => by
          have hmarks : ∀ d ∈ "k: string".toList, d ≠ '"' ∧ d ∉ openers ∧ d ∉ closers :=
            List.all_iff_forall_prop.1 (by decide)
          obtain ⟨hquote, hopen, hclose⟩ := hmarks c hc
          exact passes_singleton hquote hopen hclose (Or.inl (by decide))
      exact passes_bracket (d := 1) (l := '[') (r := ']') (by decide) (by decide) hinside
  · cases f.optional <;> decide

/-- **The scan skips a proper phrase.** -/
theorem Proper.passes {grade : Grade} {p : Phrase} (h : Proper grade p) :
    Passes grade.depth p.text.toList := by
  have hsep : ∀ sep : String, sep.toList.all isMark = true → ∀ ps : List Phrase,
      (∀ q ∈ ps, Passes 1 q.text.toList) → Passes 1 (sep.intercalate (ps.map text)).toList := by
    intro sep hmarks ps hps
    rw [String.toList_intercalate, List.map_map]
    refine passes_intercalate (passes_marks hmarks) fun cs hcs => ?_
    obtain ⟨q, hq, rfl⟩ := List.mem_map.1 hcs
    exact hps q hq
  have hpair : ∀ {d : Int}, Passes d "[]".toList := fun {d} =>
    passes_bracket (l := '[') (r := ']') (by decide) (by decide) (passes_nil _)
  induction h with
  | word h =>
    rw [text]
    exact passes_word h
  | array _ ih =>
    rw [text, String.toList_append]
    exact ih.append hpair
  | @group isUnion ps _ _ ih =>
    have hmarks : (operator isUnion).toList.all isMark = true := by
      cases isUnion <;> decide
    have hinner := hsep (operator isUnion) hmarks ps fun q hq => (ih q hq).mono (by decide)
    rw [text, String.toList_append, String.toList_append, List.append_assoc]
    exact passes_bracket (l := '(') (r := ')') (by decide) (by decide) hinner
  | @tuple items _ ih =>
    have hinner := hsep ", " (by decide) items fun q hq => ih q hq
    rw [text, String.toList_append, String.toList_append, List.append_assoc]
    exact passes_bracket (l := '[') (r := ']') (by decide) (by decide) hinner
  | @record fields _ ih =>
    rw [text]
    cases fields with
    | nil =>
      exact passes_bracket (l := '\x7b') (r := '\x7d') (by decide) (by decide) (passes_nil _)
    | cons q fields =>
      have hinner := hsep "; " (by decide) (q :: fields) fun q hq => ih q hq
      have hblank : Passes 1 [' '] := passes_marks (by decide)
      have hall := (hblank.append hinner).append hblank
      have htext : recordText ((q :: fields).map text) =
          "\x7b " ++ "; ".intercalate ((q :: fields).map text) ++ " \x7d" := rfl
      rw [htext, String.toList_append, String.toList_append]
      have hbraces : Passes Grade.closed.depth _ :=
        passes_bracket (d := 0) (l := '\x7b') (r := '\x7d') (by decide) (by decide) hall
      simpa using hbraces
  | tight _ ih => exact ih.mono (by decide)
  | @either ps _ _ ih =>
    rw [text]
    exact hsep " | " (by decide) ps fun q hq => (ih q hq).mono (by decide)
  | item _ ih => exact ih
  | spread _ ih =>
    rw [text, String.toList_append, String.toList_append]
    exact (passes_marks (by decide)).append ((ih.mono (by decide)).append hpair)
  | field _ ih =>
    rw [text, String.toList_append, String.toList_append]
    exact ((passes_fieldText _).append (passes_marks (by decide))).append ih

/-- **Parentheses stand around alternatives** and nowhere else. -/
theorem Proper.parenthesize_text {p : Phrase} (h : Proper .open p) :
    parenthesize p.text = p.grouped.text := by
  rcases h.cases_open with h | ⟨ps, rfl, hlen, h⟩
  · have hskip : hasLooseOperator {} p.text.toList = false := (h.passes 0 (Int.le_refl 0)).2
    rw [parenthesize, hskip, if_neg (by decide), grouped_of_closed h]
  · match ps, hlen with
    | q :: next :: rest, _ =>
      have hfirst := (h q (List.mem_cons_self ..)).passes 0 (Int.le_refl 0)
      have hloose : hasLooseOperator {} (Phrase.either (q :: next :: rest)).text.toList = true := by
        rw [text, List.map_cons, List.map_cons, String.toList_intercalate, List.map_cons,
          List.map_cons, List.intercalate_cons_cons, List.append_assoc]
        change hasLooseOperator (Scan.outside 0) _ = true
        rw [hasLooseOperator_append, hfirst.1, hfirst.2]
        rfl
      rw [parenthesize, if_pos hloose, Phrase.grouped, text, text]
      rfl

end Phrase
end SchemaTypings
