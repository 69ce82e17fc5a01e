import SchemaTypings.Proofs.Grouping

/-! # The words of values

Scalar values are written as one word each: a string in quotes, a number as a numeral, and the
others as keywords.  A numeral begins with a digit or a sign, so that it is never a name.
-/
namespace SchemaTypings

/-- A value that a type expression can write: neither an array nor an object. -/
def Json.IsScalar : Json → Prop
  | .array _ => False
  | .object _ => False
  | _ => True

namespace Number
open Decimal

/-- The form of numerals. -/
structure IsNumeral (s : String) : Prop where
  head : ∃ c cs, s.toList = c :: cs ∧ (c.isDigit = true ∨ c = '-')
  chars : ∀ c ∈ s.toList, Phrase.isWordChar c = true

theorem isWordChar_of_isDigit {c : Char} (h : c.isDigit = true) : Phrase.isWordChar c = true := by
  simp [Phrase.isWordChar, Char.isAlphanum, h]

theorem IsNumeral.isPlain {s : String} (h : IsNumeral s) : Phrase.IsPlain s := by
  obtain ⟨c, cs, hs, hc⟩ := h.head
  refine ⟨by simp [hs], ?_, h.chars⟩
  rw [hs, List.head?_cons]
  rintro heq
  cases heq
  rcases hc with hc | hc
  · exact absurd hc (by decide)
  · exact absurd hc (by decide)

/-- A numeral is no name. -/
theorem IsNumeral.not_isIdentifier {s : String} (h : IsNumeral s) :
    ¬ Identifier.isIdentifier s = true := by
  obtain ⟨c, cs, hs, hc⟩ := h.head
  rw [Identifier.isIdentifier, hs]
  simp only [Bool.and_eq_true, not_and]
  intro hstart
  exfalso
  rcases hc with hc | rfl
  · have hdigit : ∀ d : Char, d.isDigit = true → Identifier.isStart d = false := by
      intro d hd
      have hbounds : 48 ≤ d.toNat ∧ d.toNat ≤ 57 := by
        simpa [Char.isDigit, UInt32.le_iff_toNat_le] using hd
      have hne : ∀ e : Char, 57 < e.toNat ∨ e.toNat < 48 → d ≠ e := by
        rintro e he rfl
        omega
      have halpha : d.isAlpha = false := by
        delta Char.isAlpha Char.isUpper Char.isLower
        simp only [UInt32.le_iff_toNat_le, ge_iff_le, Bool.or_eq_false_iff, Bool.and_eq_false_iff,
          decide_eq_false_iff_not]
        change ¬ (65 ≤ d.toNat ∧ d.toNat ≤ 90) ∧ (¬ 97 ≤ d.toNat ∨ ¬ d.toNat ≤ 122)
        omega
      simp [Identifier.isStart, halpha, hne '_' (by decide), hne '$' (by decide)]
    rw [hdigit c hc] at hstart
    cases hstart
  · exact absurd hstart (by decide)

/-- A numeral that is made longer stays one. -/
theorem IsNumeral.append {s : String} (h : IsNumeral s) {t : String}
    (ht : ∀ c ∈ t.toList, Phrase.isWordChar c = true) : IsNumeral (s ++ t) := by
  obtain ⟨c, cs, hs, hc⟩ := h.head
  refine ⟨⟨c, cs ++ t.toList, by rw [String.toList_append, hs, List.cons_append], hc⟩, ?_⟩
  intro d hd
  rw [String.toList_append] at hd
  rcases List.mem_append.1 hd with hd | hd
  · exact h.chars d hd
  · exact ht d hd

theorem IsNumeral.neg {s : String} (h : IsNumeral s) : IsNumeral ("-" ++ s) := by
  refine ⟨⟨'-', s.toList, by rw [String.toList_append]; rfl, Or.inr rfl⟩, fun c hc => ?_⟩
  rw [String.toList_append] at hc
  rcases List.mem_append.1 hc with hc | hc
  · rw [List.mem_singleton.1 hc]
    decide
  · exact h.chars c hc

theorem isNumeral_of_digits {cs : List Char} (hne : cs ≠ [])
    (h : ∀ c ∈ cs, c.isDigit = true) : IsNumeral (String.ofList cs) := by
  obtain ⟨c, rest, rfl⟩ := List.exists_cons_of_ne_nil hne
  refine ⟨⟨c, rest, String.toList_ofList, Or.inl (h c (List.mem_cons_self ..))⟩, ?_⟩
  rw [String.toList_ofList]
  exact fun d hd => isWordChar_of_isDigit (h d hd)

theorem isDigit_of_mem_repr {n : Nat} {c : Char} (hc : c ∈ (toString n).toList) :
    c.isDigit = true := by
  rw [Nat.toString_eq_repr, Nat.toList_repr] at hc
  exact Nat.isDigit_of_mem_toDigits (by decide) (by decide) hc

theorem isNumeral_nat (n : Nat) : IsNumeral (toString n) := by
  rw [Nat.toString_eq_ofList_toDigits]
  exact isNumeral_of_digits Nat.toDigits_ne_nil fun c hc =>
    Nat.isDigit_of_mem_toDigits (by decide) (by decide) hc

theorem isNumeral_positional {digits : List Char} (hne : digits ≠ [])
    (h : ∀ c ∈ digits, c.isDigit = true) (point : Int) :
    IsNumeral (Layout.positional (String.ofList digits) point) := by
  have hzeros : ∀ n, ∀ c ∈ (Layout.zeros n).toList, Phrase.isWordChar c = true := by
    intro n c hc
    rw [Layout.zeros, String.toList_ofList] at hc
    rw [List.eq_of_mem_replicate hc]
    decide
  have hword : ∀ cs : List Char, (∀ c ∈ cs, c.isDigit = true) →
      ∀ c ∈ (String.ofList cs).toList, Phrase.isWordChar c = true := by
    intro cs hcs c hc
    rw [String.toList_ofList] at hc
    exact isWordChar_of_isDigit (hcs c hc)
  unfold Layout.positional
  split
  · have hzero : IsNumeral "0." :=
      ⟨⟨'0', ['.'], rfl, Or.inl (by decide)⟩, List.all_iff_forall_prop.1 (by decide)⟩
    exact (hzero.append (hzeros _)).append (hword digits h)
  · next hpoint =>
    dsimp only
    split
    · exact ((isNumeral_of_digits hne h).append (hzeros _)).append
        (List.all_iff_forall_prop.1 (by decide))
    · rw [String.toList_ofList]
      have hfront : digits.take point.toNat ≠ [] := by
        rw [ne_eq, List.take_eq_nil_iff]
        rintro (hzero | hnil)
        · omega
        · exact hne hnil
      have hnumeral := isNumeral_of_digits hfront fun c hc => h c (List.mem_of_mem_take hc)
      exact (hnumeral.append (List.all_iff_forall_prop.1 (by decide))).append
        (hword _ fun c hc => h c (List.mem_of_mem_drop hc))

theorem isNumeral_scientific (l : Layout)
    (hplus : ∀ c ∈ l.plus.toList, Phrase.isWordChar c = true) {digits : List Char}
    (hne : digits ≠ []) (h : ∀ c ∈ digits, c.isDigit = true) (point : Int) :
    IsNumeral (l.scientific (String.ofList digits) point) := by
  have hsign : ∀ c ∈ (if 0 ≤ point - 1 then l.plus else "-").toList,
      Phrase.isWordChar c = true := by
    split
    · exact hplus
    · exact List.all_iff_forall_prop.1 (by decide)
  obtain ⟨d, rest, rfl⟩ := List.exists_cons_of_ne_nil hne
  -- the mantissa, before the `e`, the sign and the digits of the exponent
  refine ((IsNumeral.append ?_ (List.all_iff_forall_prop.1 (by decide))).append hsign).append
    fun c hc => isWordChar_of_isDigit (isDigit_of_mem_repr hc)
  have hd : IsNumeral (String.singleton d) := by
    rw [String.singleton_eq_ofList]
    exact isNumeral_of_digits (List.cons_ne_nil _ _) (by simpa using h d (by simp))
  rw [String.toList_ofList]
  split
  · contradiction
  · next heq =>
    cases heq
    exact hd
  · next heq =>
    cases heq
    refine (hd.append (List.all_iff_forall_prop.1 (by decide))).append fun c hc => ?_
    rw [String.toList_ofList] at hc
    exact isWordChar_of_isDigit (h c (List.mem_cons_of_mem _ hc))

theorem isNumeral_text (n : Number) : IsNumeral n.text := by
  have hwrite : ∀ d : Digits, IsNumeral (layout.write d) := by
    intro d
    have hdigits : ∀ c ∈ Nat.toDigits 10 d.digits, c.isDigit = true :=
      fun c hc => Nat.isDigit_of_mem_toDigits (by decide) (by decide) hc
    rw [Layout.write, Nat.toString_eq_ofList_toDigits]
    split
    · exact isNumeral_positional Nat.toDigits_ne_nil hdigits _
    · exact isNumeral_scientific layout
        (List.all_iff_forall_prop.1 (by decide)) Nat.toDigits_ne_nil hdigits _
  have hsign : ∀ (negative : Bool) {s : String}, IsNumeral s →
      IsNumeral ((if negative then "-" else "") ++ s) := by
    intro negative s hs
    cases negative with
    | true => exact hs.neg
    | false => simpa using hs
  cases n with
  | integer n =>
    change IsNumeral (toString n)
    rw [Int.toString_eq_repr, Int.repr_eq_if]
    split
    · exact isNumeral_nat _
    · exact (isNumeral_nat _).neg
  | real x =>
    change IsNumeral (realText x)
    rw [realText]
    split
    · exact hsign _ ⟨⟨'0', ['.', '0'], rfl, Or.inl (by decide)⟩,
        List.all_iff_forall_prop.1 (by decide)⟩
    · exact hsign _ (hwrite _)

end Number

namespace Json

theorem isWord_text {v : Json} (h : v.IsScalar) : Phrase.IsWord v.text := by
  cases v with
  | null => exact Or.inl (Phrase.isPlain_of_isIdentifier (by decide))
  | bool b => cases b <;> exact Or.inl (Phrase.isPlain_of_isIdentifier (by decide))
  | number n => exact Or.inl (Number.isNumeral_text n).isPlain
  | string s => exact Or.inr ⟨s, rfl⟩
  | array items => exact h.elim
  | object entries => exact h.elim

/-- The text of a scalar value is a name only where it is a keyword. -/
theorem text_mem_of_isIdentifier {v : Json} (h : v.IsScalar)
    (hname : Identifier.isIdentifier v.text = true) : v.text ∈ ["null", "true", "false"] := by
  cases v with
  | null => decide
  | bool b => cases b <;> decide
  | number n => exact absurd hname (Number.isNumeral_text n).not_isIdentifier
  | string s =>
    have hhead : (text (.string s)).toList.head? = some '"' := by
      rw [text, quote, String.toList_ofList, List.head?_cons]
    obtain ⟨c, cs, hc, hword, -⟩ := (Phrase.isPlain_of_isIdentifier hname).exists_cons
    rw [hc, List.head?_cons, Option.some.injEq] at hhead
    rw [hhead] at hword
    exact absurd hword (by decide)
  | array items => exact h.elim
  | object entries => exact h.elim

end Json
end SchemaTypings
