import Mathlib.Data.List.TakeWhile
import SchemaTypings.Proofs.Literals
import SchemaTypings.Proofs.Readability
import SchemaTypings.Proofs.Rounding

/-! # Numerals are read back

The text of a decimal stands for the number that its digits stand for, be it positional or
scientific.  With the rounding intervals of doubles this tells numbers apart by their texts, and so
all scalar values.
-/
namespace SchemaTypings
namespace Decimal

/-! ### Reading -/

/-- The number that digits with a point stand for. -/
def readMantissa (cs : List Char) : ℚ :=
  let whole := cs.takeWhile (· ≠ '.')
  let fraction := (cs.dropWhile (· ≠ '.')).drop 1
  Nat.ofDigitChars 10 (whole ++ fraction) 0 * 10 ^ (-(fraction.length : Int))

/-- The integer that digits behind a sign stand for. -/
def readExponent : List Char → Int
  | [] => 0
  | c :: cs => if c = '-' then -Nat.ofDigitChars 10 cs 0 else Nat.ofDigitChars 10 cs 0

/-- **The number that a numeral without a sign stands for.** -/
def readNumeral (cs : List Char) : ℚ :=
  readMantissa (cs.takeWhile (· ≠ 'e')) * 10 ^ readExponent ((cs.dropWhile (· ≠ 'e')).drop 1)

theorem takeWhile_ne_append {mark : Char} {cs : List Char} (h : mark ∉ cs) (rest : List Char) :
    (cs ++ mark :: rest).takeWhile (· ≠ mark) = cs ∧
      (cs ++ mark :: rest).dropWhile (· ≠ mark) = mark :: rest := by
  have hall : ∀ c ∈ cs, decide (c ≠ mark) = true := by
    intro c hc
    rw [decide_eq_true_eq]
    rintro rfl
    exact h hc
  rw [List.takeWhile_append_of_pos hall, List.dropWhile_append_of_pos hall]
  simp

theorem takeWhile_ne_self {mark : Char} {cs : List Char} (h : mark ∉ cs) :
    cs.takeWhile (· ≠ mark) = cs ∧ cs.dropWhile (· ≠ mark) = [] := by
  have hall : ∀ c ∈ cs, decide (c ≠ mark) = true := by
    intro c hc
    rw [decide_eq_true_eq]
    rintro rfl
    exact h hc
  exact ⟨List.takeWhile_eq_self_iff.2 hall, List.dropWhile_eq_nil_iff.2 hall⟩

theorem readMantissa_point {whole : List Char} (h : '.' ∉ whole) (fraction : List Char) :
    readMantissa (whole ++ '.' :: fraction) =
      Nat.ofDigitChars 10 (whole ++ fraction) 0 * 10 ^ (-(fraction.length : Int)) := by
  obtain ⟨htake, hdrop⟩ := takeWhile_ne_append h fraction
  simp only [readMantissa, htake, hdrop, List.drop_succ_cons, List.drop_zero]

theorem readMantissa_whole {whole : List Char} (h : '.' ∉ whole) :
    readMantissa whole = Nat.ofDigitChars 10 whole 0 := by
  obtain ⟨htake, hdrop⟩ := takeWhile_ne_self h
  simp only [readMantissa, htake, hdrop]
  simp

theorem readNumeral_positional {cs : List Char} (h : 'e' ∉ cs) :
    readNumeral cs = readMantissa cs := by
  obtain ⟨htake, hdrop⟩ := takeWhile_ne_self h
  simp only [readNumeral, htake, hdrop]
  simp [readExponent]

theorem readNumeral_scientific {cs : List Char} (h : 'e' ∉ cs) (rest : List Char) :
    readNumeral (cs ++ 'e' :: rest) = readMantissa cs * 10 ^ readExponent rest := by
  obtain ⟨htake, hdrop⟩ := takeWhile_ne_append h rest
  simp only [readNumeral, htake, hdrop, List.drop_succ_cons, List.drop_zero]

/-! ### Reading what was written -/

theorem not_mem_of_isDigit {cs : List Char} (h : ∀ c ∈ cs, c.isDigit = true) :
    '.' ∉ cs ∧ 'e' ∉ cs :=
  ⟨fun hmem => absurd (h _ hmem) (by decide), fun hmem => absurd (h _ hmem) (by decide)⟩

theorem ofDigitChars_zeros (k : Nat) (cs : List Char) :
    Nat.ofDigitChars 10 (List.replicate k '0' ++ cs) 0 = Nat.ofDigitChars 10 cs 0 := by
  rw [Nat.ofDigitChars_append, Nat.ofDigitChars_replicate_zero, Nat.mul_zero]

/-- **A positional text stands for the digits at the place of the point.** -/
theorem readNumeral_of_positional {cs : List Char} (hcs : ∀ c ∈ cs, c.isDigit = true)
    (point : Int) :
    readNumeral (Layout.positional (String.ofList cs) point).toList =
      Nat.ofDigitChars 10 cs 0 * 10 ^ (point - cs.length) := by
  obtain ⟨hpoint, he⟩ := not_mem_of_isDigit hcs
  have hzeros : ∀ k, '.' ∉ List.replicate k '0' ∧ 'e' ∉ List.replicate k '0' := fun k =>
    not_mem_of_isDigit fun c hc => by
      rw [List.eq_of_mem_replicate hc]
      decide
  unfold Layout.positional
  simp only [String.length_ofList, Layout.zeros]
  split
  · next hle =>
    have htext : ("0." ++ String.ofList (List.replicate (-point).toNat '0') ++
        String.ofList cs).toList = ['0'] ++ '.' :: (List.replicate (-point).toNat '0' ++ cs) := by
      simp [String.toList_append]
    rw [htext, readNumeral_positional (by simp [he, (hzeros _).2]),
      readMantissa_point (by decide), ← List.append_assoc,
      show ['0'] ++ List.replicate (-point).toNat '0' = List.replicate ((-point).toNat + 1) '0'
        from rfl, ofDigitChars_zeros]
    congr 2
    simp only [List.length_append, List.length_replicate]
    omega
  · next hpos =>
    split
    · next hle =>
      have htext : (String.ofList cs ++ String.ofList (List.replicate (point - cs.length).toNat '0')
          ++ ".0").toList = (cs ++ List.replicate (point - cs.length).toNat '0') ++ '.' :: ['0'] := by
        simp [String.toList_append]
      rw [htext, readNumeral_positional (by simp [he, (hzeros _).2]),
        readMantissa_point (by simp [hpoint, (hzeros _).1]), Nat.ofDigitChars_append,
        Nat.ofDigitChars_append, Nat.ofDigitChars_replicate_zero]
      obtain ⟨k, hk⟩ := Int.eq_ofNat_of_zero_le (sub_nonneg.2 hle)
      rw [hk]
      simp [Nat.ofDigitChars_cons]
      ring
    · next hlt =>
      have htext : (String.ofList ((String.ofList cs).toList.take point.toNat) ++ "." ++
          String.ofList ((String.ofList cs).toList.drop point.toNat)).toList =
          cs.take point.toNat ++ '.' :: cs.drop point.toNat := by
        simp [String.toList_append]
      rw [htext, readNumeral_positional ?_, readMantissa_point ?_, List.take_append_drop]
      · congr 2
        rw [List.length_drop]
        omega
      · exact fun hmem => hpoint (List.mem_of_mem_take hmem)
      · rw [List.mem_append, List.mem_cons, not_or, not_or]
        exact ⟨fun hmem => he (List.mem_of_mem_take hmem), by decide,
          fun hmem => he (List.mem_of_mem_drop hmem)⟩

/-- The digits of a scientific text, with a point behind the first of several. -/
def mantissaText : List Char → String
  | [] => ""
  | [d] => String.singleton d
  | d :: rest => String.singleton d ++ "." ++ String.ofList rest

theorem scientific_eq (l : Layout) (cs : List Char) (point : Int) :
    l.scientific (String.ofList cs) point = mantissaText cs ++ "e" ++
      (if 0 ≤ point - 1 then l.plus else "-") ++ toString (point - 1).natAbs := by
  rw [Layout.scientific, String.toList_ofList]
  rfl

theorem read_mantissaText {d : Char} {rest : List Char}
    (h : ∀ c ∈ d :: rest, c.isDigit = true) :
    'e' ∉ (mantissaText (d :: rest)).toList ∧
      readMantissa (mantissaText (d :: rest)).toList =
        Nat.ofDigitChars 10 (d :: rest) 0 * 10 ^ (-(rest.length : Int)) := by
  obtain ⟨hpoint, he⟩ := not_mem_of_isDigit h
  cases rest with
  | nil =>
    rw [mantissaText, String.toList_singleton, readMantissa_whole hpoint]
    exact ⟨he, by simp⟩
  | cons c rest =>
    have htext : (mantissaText (d :: c :: rest)).toList = [d] ++ '.' :: c :: rest := by
      rw [mantissaText, String.toList_append, String.toList_append, String.toList_singleton,
        String.toList_ofList, String.toList_ofList]
      · rfl
      · simp
    have hd : '.' ∉ [d] := fun hmem => hpoint (List.mem_cons.2 (Or.inl (List.mem_singleton.1 hmem)))
    rw [htext, readMantissa_point hd]
    refine ⟨?_, rfl⟩
    simp only [List.mem_append, List.mem_cons, List.not_mem_nil, or_false, not_or] at he ⊢
    exact ⟨he.1, by decide, he.2⟩

/-- **A scientific text does so too.** -/
theorem readNumeral_of_scientific {l : Layout} (hplus : l.plus = "+") {cs : List Char}
    (hne : cs ≠ []) (hcs : ∀ c ∈ cs, c.isDigit = true) (point : Int) :
    readNumeral (l.scientific (String.ofList cs) point).toList =
      Nat.ofDigitChars 10 cs 0 * 10 ^ (point - cs.length) := by
  have hsign : ∀ n : Nat, readExponent
      ((if 0 ≤ point - 1 then l.plus else "-").toList ++ (toString n).toList) =
        if 0 ≤ point - 1 then (n : Int) else -n := by
    intro n
    have hdigits : Nat.ofDigitChars 10 (toString n).toList 0 = n := by
      rw [Nat.toString_eq_repr, Nat.toList_repr]
      exact Nat.ofDigitChars_toDigits (by decide) (by decide)
    split
    · rw [hplus]
      exact congrArg Int.ofNat hdigits
    · exact congrArg (fun n => -Int.ofNat n) hdigits
  have hexponent : readExponent ((if 0 ≤ point - 1 then l.plus else "-").toList ++
      (toString (point - 1).natAbs).toList) = point - 1 := by
    rw [hsign]
    split <;> omega
  obtain ⟨d, rest, rfl⟩ := List.exists_cons_of_ne_nil hne
  obtain ⟨he, hmantissa⟩ := read_mantissaText hcs
  rw [scientific_eq, String.toList_append, String.toList_append, String.toList_append,
    List.append_assoc, List.append_assoc, show "e".toList = ['e'] from rfl, List.singleton_append,
    readNumeral_scientific he, hmantissa, hexponent, mul_assoc, ← zpow_add₀ (by norm_num)]
  congr 2
  rw [List.length_cons]
  omega

/-- **The text of a decimal stands for it.** -/
theorem readNumeral_write {l : Layout} (hplus : l.plus = "+") (d : Digits) :
    readNumeral (l.write d).toList = d.worth := by
  have hdigits : ∀ c ∈ Nat.toDigits 10 d.digits, c.isDigit = true :=
    fun c hc => Nat.isDigit_of_mem_toDigits (by decide) (by decide) hc
  have hvalue : Nat.ofDigitChars 10 (Nat.toDigits 10 d.digits) 0 = d.digits :=
    Nat.ofDigitChars_toDigits (by decide) (by decide)
  rw [Layout.write, Nat.toString_eq_ofList_toDigits, String.length_ofList, Digits.worth]
  split
  · rw [readNumeral_of_positional hdigits, hvalue, add_sub_cancel_left]
  · rw [readNumeral_of_scientific hplus Nat.toDigits_ne_nil hdigits, hvalue, add_sub_cancel_left]

end Decimal

namespace Number
open Decimal

/-- A number in its one form. -/
def Canonical : Number → Prop
  | .integer _ => True
  | .real x => x.Canonical

/-- The text of a double has a point or an exponent. -/
theorem mark_mem_write (l : Layout) (d : Digits) :
    '.' ∈ (l.write d).toList ∨ 'e' ∈ (l.write d).toList := by
  unfold Layout.write
  dsimp only
  split
  · left
    unfold Layout.positional
    dsimp only
    split
    · simp [String.toList_append]
    · split <;> simp [String.toList_append]
  · right
    unfold Layout.scientific
    simp [String.toList_append]

/-- The text of a decimal begins with a digit. -/
theorem head_write (l : Layout) (d : Digits) : (l.write d).toList.head? ≠ some '-' := by
  have hdigits : ∀ c ∈ Nat.toDigits 10 d.digits, c.isDigit = true :=
    fun c hc => Nat.isDigit_of_mem_toDigits (by decide) (by decide) hc
  obtain ⟨c, cs, hcs⟩ := List.exists_cons_of_ne_nil
    (Nat.toDigits_ne_nil : Nat.toDigits 10 d.digits ≠ [])
  have hc : c ≠ '-' := by
    rintro rfl
    exact absurd (hdigits '-' (hcs ▸ List.mem_cons_self ..)) (by decide)
  rw [Layout.write, Nat.toString_eq_ofList_toDigits, hcs]
  split
  · unfold Layout.positional
    dsimp only
    split
    · simp [String.toList_append]
    · next hpoint =>
      obtain ⟨n, hn⟩ : ∃ n, ((String.ofList (c :: cs)).length + d.exponent).toNat = n + 1 :=
        Nat.exists_eq_succ_of_ne_zero (by omega)
      split
      · simpa [String.toList_append] using hc
      · rw [hn]
        simpa [String.toList_append] using hc
  · rw [scientific_eq]
    cases cs with
    | nil => simpa [mantissaText, String.toList_append] using hc
    | cons _ _ => simpa [mantissaText, String.toList_append] using hc

/-- The text of a double behind its sign. -/
def magnitudeText (x : Binary64) : String :=
  if x.isZero then "0.0" else layout.write (Digits.shortest x)

theorem realText_eq (x : Binary64) :
    realText x = (if x.negative then "-" else "") ++ magnitudeText x := by
  rw [realText, magnitudeText]
  split <;> rfl

theorem mark_mem_magnitudeText (x : Binary64) :
    '.' ∈ (magnitudeText x).toList ∨ 'e' ∈ (magnitudeText x).toList := by
  unfold magnitudeText
  split
  · exact Or.inl (by decide)
  · exact mark_mem_write layout _

theorem head_magnitudeText (x : Binary64) : (magnitudeText x).toList.head? ≠ some '-' := by
  unfold magnitudeText
  split
  · decide
  · exact head_write layout _

/-- The number that the text of a double stands for, without its sign. -/
theorem readNumeral_magnitudeText (x : Binary64) : readNumeral (magnitudeText x).toList =
    if x.isZero then 0 else (Digits.shortest x).worth := by
  unfold magnitudeText
  split
  · rw [show "0.0".toList = ['0'] ++ '.' :: ['0'] from rfl, readNumeral_positional (by decide),
      readMantissa_point (by decide)]
    simp [Nat.ofDigitChars_cons]
  · exact readNumeral_write rfl _

/-- **Doubles are told apart by their texts.** -/
theorem realText_injective {x y : Binary64} (hx : x.Canonical) (hy : y.Canonical)
    (h : realText x = realText y) : x = y := by
  rw [realText_eq, realText_eq] at h
  have hsign : x.negative = y.negative ∧ magnitudeText x = magnitudeText y := by
    have hmixed : ∀ a b : Binary64, "-" ++ magnitudeText a ≠ "" ++ magnitudeText b := by
      intro a b heq
      refine head_magnitudeText b ?_
      have hhead := congrArg (fun s => s.toList.head?) heq
      simpa [String.toList_append] using hhead.symm
    cases hxs : x.negative <;> cases hys : y.negative
    · simpa [hxs, hys] using h
    · exact absurd (by simpa [hxs, hys] using h.symm) (hmixed y x)
    · exact absurd (by simpa [hxs, hys] using h) (hmixed x y)
    · simp only [hxs, hys, if_true] at h
      refine ⟨rfl, String.toList_injective ?_⟩
      simpa [String.toList_append] using congrArg String.toList h
  obtain ⟨hnegative, hmagnitude⟩ := hsign
  have hworth := readNumeral_magnitudeText x
  rw [hmagnitude, readNumeral_magnitudeText y] at hworth
  have hpair : x.significand = y.significand ∧ x.exponent = y.exponent := by
    unfold Binary64.isZero at hworth
    by_cases hxz : x.significand = 0 <;> by_cases hyz : y.significand = 0
    · -- both are zero, which has the least exponent
      have hleast : ∀ z : Binary64, z.Canonical → z.significand = 0 →
          z.exponent = Binary64.minExponent := by
        intro z hz hzero
        refine le_antisymm (not_lt.1 fun hlt => ?_) hz.least
        have hfull := hz.full hlt
        omega
      exact ⟨hxz.trans hyz.symm, (hleast x hx hxz).trans (hleast y hy hyz).symm⟩
    · simp only [hxz, hyz, decide_true, decide_false, if_true, Bool.false_eq_true, if_false]
        at hworth
      exact absurd hworth (Shortest.worth_shortest_pos hy hyz).ne'
    · simp only [hxz, hyz, decide_true, decide_false, if_true, Bool.false_eq_true, if_false]
        at hworth
      exact absurd hworth.symm (Shortest.worth_shortest_pos hx hxz).ne'
    · simp only [hxz, hyz, decide_false, Bool.false_eq_true, if_false] at hworth
      exact Shortest.eq_of_worth_eq hx hy hxz hyz hworth.symm
  cases x
  cases y
  simp only at hnegative hpair
  rw [hnegative, hpair.1, hpair.2]

/-- The text of an integer is digits, behind a minus sign where it is negative. -/
theorem toList_integer (n : Int) : (toString n).toList =
    (if n < 0 then ['-'] else []) ++ Nat.toDigits 10 n.natAbs := by
  have hnat : ∀ m : Nat, (Nat.repr m).toList = Nat.toDigits 10 m := fun m => Nat.toList_repr
  rw [Int.toString_eq_repr, Int.repr_eq_if]
  by_cases hn : n < 0
  · rw [if_neg (by omega), if_pos hn, String.toList_append, hnat,
      show (-n).toNat = n.natAbs by omega]
    rfl
  · rw [if_pos (by omega), if_neg hn, hnat, show n.toNat = n.natAbs by omega]
    rfl

theorem integer_injective {m n : Int} (h : toString m = toString n) : m = n := by
  have hlist := congrArg String.toList h
  rw [toList_integer, toList_integer] at hlist
  have hhead : ∀ k : Nat, (Nat.toDigits 10 k).head? ≠ some '-' := by
    intro k hk
    have hmem := List.mem_of_head? hk
    exact absurd (Nat.isDigit_of_mem_toDigits (by decide) (by decide) hmem) (by decide)
  have hdigits : ∀ {j k : Nat}, Nat.toDigits 10 j = Nat.toDigits 10 k → j = k := by
    intro j k hjk
    have hread := congrArg (fun cs => Nat.ofDigitChars 10 cs 0) hjk
    simpa only [Nat.ofDigitChars_toDigits (show 1 < 10 by decide) (show 10 ≤ 10 by decide)]
      using hread
  by_cases hm : m < 0 <;> by_cases hn : n < 0 <;> simp only [hm, hn, if_true, if_false] at hlist
  · have habs := hdigits (List.append_cancel_left hlist)
    omega
  · exact absurd (by rw [← List.nil_append (Nat.toDigits 10 _), ← hlist]; rfl) (hhead n.natAbs)
  · exact absurd (by rw [← List.nil_append (Nat.toDigits 10 _), hlist]; rfl) (hhead m.natAbs)
  · have habs := hdigits (List.append_cancel_left hlist)
    omega

/-- **Numbers are told apart by their texts.** -/
theorem text_injective {a b : Number} (ha : a.Canonical) (hb : b.Canonical)
    (h : a.text = b.text) : a = b := by
  have hmixed : ∀ (n : Int) (x : Binary64), toString n ≠ realText x := by
    intro n x heq
    have hmark : '.' ∈ (toString n).toList ∨ 'e' ∈ (toString n).toList := by
      rw [heq, realText_eq, String.toList_append]
      exact (mark_mem_magnitudeText x).imp (List.mem_append_right _) (List.mem_append_right _)
    have hdigits : ∀ c ∈ (toString n).toList, c = '-' ∨ c.isDigit = true := by
      intro c hc
      rw [toList_integer] at hc
      rcases List.mem_append.1 hc with hc | hc
      · split at hc
        · exact Or.inl (List.mem_singleton.1 hc)
        · cases hc
      · exact Or.inr (Nat.isDigit_of_mem_toDigits (by decide) (by decide) hc)
    rcases hmark with hmem | hmem
    · exact absurd (hdigits _ hmem) (by decide)
    · exact absurd (hdigits _ hmem) (by decide)
  cases a with
  | integer m =>
    cases b with
    | integer n => exact congrArg Number.integer (integer_injective h)
    | real y => exact absurd h (hmixed m y)
  | real x =>
    cases b with
    | integer n => exact absurd h.symm (hmixed n x)
    | real y => rw [realText_injective ha hb h]

end Number

/-! ### Values -/

namespace Json

/-- The numbers in a value that is written as one word are in their one form. -/
def HasForm : Json → Prop
  | .number n => n.Canonical
  | _ => True

/-- **Scalar values are told apart by their texts.** -/
theorem text_injective {v w : Json} (hv : v.IsScalar) (hw : w.IsScalar) (hvform : v.HasForm)
    (hwform : w.HasForm) (h : v.text = w.text) : v = w := by
  have hidentifiers : ∀ t ∈ ["null", "true", "false"], Identifier.isIdentifier t = true := by decide
  have hbool : ∀ b : Bool, text (.bool b) ∈ ["null", "true", "false"] := by decide
  have hnumber : ∀ (n : Number), ∀ t ∈ ["null", "true", "false"], text (.number n) ≠ t := by
    rintro n t ht rfl
    exact (Number.isNumeral_text n).not_isIdentifier (hidentifiers _ ht)
  have hquote : ∀ (s t : String), Phrase.IsPlain t → text (.string s) ≠ t := by
    intro s t ht heq
    obtain ⟨c, cs, hc, hword, -⟩ := ht.exists_cons
    have hhead := congrArg (fun u => u.toList.head?) heq
    simp only [text, quote, String.toList_ofList, List.head?_cons, hc, Option.some.injEq] at hhead
    rw [← hhead] at hword
    exact absurd hword (by decide)
  have hkeyword : ∀ t ∈ ["null", "true", "false"], Phrase.IsPlain t := fun t ht =>
    Phrase.isPlain_of_isIdentifier (hidentifiers t ht)
  have hnumeral : ∀ n, Phrase.IsPlain (text (.number n)) := fun n =>
    (Number.isNumeral_text n).isPlain
  cases v with
  | null =>
    cases w with
    | null => rfl
    | bool b => cases b <;> exact absurd h (by decide)
    | number n => exact absurd h.symm (hnumber n _ (by decide))
    | string t => exact absurd h.symm (hquote t _ (hkeyword _ (by decide)))
    | array _ | object _ => exact hw.elim
  | bool b =>
    cases w with
    | null => cases b <;> exact absurd h (by decide)
    | bool c => cases b <;> cases c <;> first | rfl | exact absurd h (by decide)
    | number n => exact absurd h.symm (hnumber n _ (hbool b))
    | string t => exact absurd h.symm (hquote t _ (hkeyword _ (hbool b)))
    | array _ | object _ => exact hw.elim
  | number n =>
    cases w with
    | null => exact absurd h (hnumber n _ (by decide))
    | bool b => exact absurd h (hnumber n _ (hbool b))
    | number m => exact congrArg Json.number (Number.text_injective hvform hwform h)
    | string t => exact absurd h.symm (hquote t _ (hnumeral n))
    | array _ | object _ => exact hw.elim
  | string s =>
    cases w with
    | null => exact absurd h (hquote s _ (hkeyword _ (by decide)))
    | bool b => exact absurd h (hquote s _ (hkeyword _ (hbool b)))
    | number n => exact absurd h (hquote s _ (hnumeral n))
    | string t =>
      have htext : ∀ u, text (.string u) = quote u := fun u => by rw [text]
      rw [htext, htext] at h
      have hquoted : (quote s).toList ++ [] = (quote t).toList ++ [] := by rw [h]
      exact congrArg Json.string (quote_injective hquoted).1
    | array _ | object _ => exact hw.elim
  | array _ | object _ => exact hv.elim

end Json
end SchemaTypings
