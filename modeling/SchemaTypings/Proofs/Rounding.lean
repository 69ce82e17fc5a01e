import Mathlib.Algebra.Order.Field.Power
import Mathlib.Tactic.FieldSimp
import Mathlib.Tactic.Linarith
import Mathlib.Tactic.Ring
import SchemaTypings.Decimal.Shortest

/-! # Shortest digits tell doubles apart

The shortest digits of a double lie in its rounding interval, since the search reaches a grid that
is finer than the interval; and the rounding intervals of different doubles are apart.  So the
digits say which double they belong to.
-/
namespace SchemaTypings
namespace Decimal

/-- The number that digits stand for. -/
def Digits.worth (d : Digits) : ℚ := d.digits * 10 ^ d.exponent

/-- **The one form of a double**: 53 bits, or the least exponent. -/
structure Binary64.Canonical (x : Binary64) : Prop where
  bounded : x.significand < 2 ^ 53
  least : Binary64.minExponent ≤ x.exponent
  full : Binary64.minExponent < x.exponent → 2 ^ 52 ≤ x.significand

namespace Shortest
open Binary64

/-! ### Points of an interval -/

/-- A number lies in an interval. -/
def Interval.Inside (i : Interval) (t : ℚ) : Prop :=
  (i.low / i.den ≤ t ∧ t ≤ i.high / i.den) ∧
    (i.closed = false → i.low / i.den < t ∧ t < i.high / i.den)

/-- What the test of a point says. -/
theorem Interval.inside_of_holds {i : Interval} (hden : 0 < i.den) {point : Nat}
    (h : i.holds point = true) : i.Inside (point / i.den) := by
  have hden' : (0 : ℚ) < i.den := by exact_mod_cast hden
  unfold Interval.holds at h
  split at h
  · next hclosed =>
    rw [Bool.and_eq_true, decide_eq_true_eq, decide_eq_true_eq] at h
    have hlow : (i.low : ℚ) ≤ point := by exact_mod_cast h.1
    have hhigh : (point : ℚ) ≤ i.high := by exact_mod_cast h.2
    refine ⟨⟨?_, ?_⟩, fun hopen => absurd (hclosed.symm.trans hopen) (by decide)⟩
    · exact div_le_div_of_nonneg_right hlow hden'.le
    · exact div_le_div_of_nonneg_right hhigh hden'.le
  · rw [Bool.and_eq_true, decide_eq_true_eq, decide_eq_true_eq] at h
    have hlow : (i.low : ℚ) < point := by exact_mod_cast h.1
    have hhigh : (point : ℚ) < i.high := by exact_mod_cast h.2
    have hlow' := div_lt_div_of_pos_right hlow hden'
    have hhigh' := div_lt_div_of_pos_right hhigh hden'
    exact ⟨⟨hlow'.le, hhigh'.le⟩, fun _ => ⟨hlow', hhigh'⟩⟩

/-- The interval in units of a grid of step `10 ^ exponent`. -/
def Interval.scaled (i : Interval) (exponent : Int) : Interval :=
  let up := if 0 ≤ exponent then 1 else Nat.pow 10 (-exponent).toNat
  { i with
    low := i.low * up
    value := i.value * up
    high := i.high * up
    den := (if 0 ≤ exponent then Nat.pow 10 exponent.toNat else 1) * i.den }

/-- A power with an exponent of either sign, as a quotient. -/
theorem div_pow_eq_zpow (base : Nat) (exponent : Int) :
    ((if 0 ≤ exponent then Nat.pow base exponent.toNat else 1 : Nat) : ℚ) /
      (if 0 ≤ exponent then 1 else Nat.pow base (-exponent).toNat : Nat) = base ^ exponent := by
  split
  · next h =>
    obtain ⟨n, rfl⟩ := Int.eq_ofNat_of_zero_le h
    simp
  · next h =>
    obtain ⟨n, hn⟩ := Int.eq_ofNat_of_zero_le (show 0 ≤ -exponent by omega)
    have hneg : exponent = -(n : Int) := by omega
    rw [hneg, zpow_neg]
    simp

theorem Interval.den_scaled_pos {i : Interval} (hden : 0 < i.den) (exponent : Int) :
    0 < (i.scaled exponent).den := by
  refine Nat.mul_pos ?_ hden
  split
  · exact Nat.pow_pos (by decide)
  · exact Nat.one_pos

/-- Ends of the interval in units of the grid. -/
theorem Interval.scaled_div {i : Interval} (hden : 0 < i.den) (n : Nat) (exponent : Int) :
    ((n * if 0 ≤ exponent then 1 else Nat.pow 10 (-exponent).toNat : Nat) : ℚ) /
      (i.scaled exponent).den * 10 ^ exponent = n / i.den := by
  have hden' : (i.den : ℚ) ≠ 0 := by exact_mod_cast hden.ne'
  have hup : ((if 0 ≤ exponent then 1 else Nat.pow 10 (-exponent).toNat : Nat) : ℚ) ≠ 0 := by
    split <;> simp
  have hgrid : ((if 0 ≤ exponent then Nat.pow 10 exponent.toNat else 1 : Nat) : ℚ) ≠ 0 := by
    split <;> simp
  have hpow := div_pow_eq_zpow 10 exponent
  rw [Nat.cast_ofNat] at hpow
  rw [← hpow, Interval.scaled]
  push_cast at hup hgrid ⊢
  field_simp

theorem Interval.inside_of_scaled {i : Interval} (hden : 0 < i.den) {exponent : Int} {t : ℚ}
    (h : (i.scaled exponent).Inside t) : i.Inside (t * 10 ^ exponent) := by
  have hpos : (0 : ℚ) < 10 ^ exponent := zpow_pos (by norm_num) _
  have hlow := Interval.scaled_div hden i.low exponent
  have hhigh := Interval.scaled_div hden i.high exponent
  obtain ⟨hclosed, hopen⟩ := h
  refine ⟨?_, fun hi => ?_⟩
  · rw [← hlow, ← hhigh]
    exact ⟨mul_le_mul_of_nonneg_right hclosed.1 hpos.le,
      mul_le_mul_of_nonneg_right hclosed.2 hpos.le⟩
  · rw [← hlow, ← hhigh]
    exact ⟨mul_lt_mul_of_pos_right (hopen hi).1 hpos, mul_lt_mul_of_pos_right (hopen hi).2 hpos⟩

/-- The whole number inside an interval that is nearest to its value, of the two around it. -/
def Interval.point? (i : Interval) : Option Nat :=
  let lower := i.value / i.den
  let upper := lower + 1
  let down := i.value - lower * i.den
  let rise := upper * i.den - i.value
  match i.holds (lower * i.den) && lower ≠ 0, i.holds (upper * i.den) with
  | true, true =>
    if down < rise then some lower
    else if rise < down then some upper
    else if lower % 2 = 0 then some lower else some upper
  | true, false => some lower
  | false, true => some upper
  | false, false => none

theorem Interval.holds_of_point? {i : Interval} {n : Nat} (h : i.point? = some n) :
    i.holds (n * i.den) = true := by
  simp only [Interval.point?] at h
  split at h
  · next hlower hupper =>
    rw [Bool.and_eq_true] at hlower
    split at h
    · cases h
      exact hlower.1
    split at h
    · cases h
      exact hupper
    split at h
    · cases h
      exact hlower.1
    · cases h
      exact hupper
  · next hlower _ =>
    rw [Bool.and_eq_true] at hlower
    cases h
    exact hlower.1
  · next hupper =>
    cases h
    exact hupper
  · cases h

/-- There is one in an interval whose lower half is at least one unit wide. -/
theorem Interval.isSome_point? {i : Interval} (hden : 0 < i.den) (hhigh : i.value < i.high)
    (h : i.low + i.den ≤ i.value) : i.point?.isSome = true := by
  have hbelow : i.value / i.den * i.den ≤ i.value := Nat.div_mul_le_self _ _
  have habove : i.value < i.value / i.den * i.den + i.den := by
    have hmod := Nat.mod_lt i.value hden
    have hdivmod := Nat.div_add_mod' i.value i.den
    omega
  have hne : i.value / i.den ≠ 0 := by
    intro hzero
    rw [hzero] at habove
    omega
  have hholds : i.holds (i.value / i.den * i.den) = true := by
    unfold Interval.holds
    split <;> simp <;> omega
  simp only [Interval.point?, hholds, hne, ne_eq, not_false_eq_true, decide_true, Bool.and_self]
  split
  · split
    · rfl
    · split
      · rfl
      · split <;> rfl
  · rfl
  · contradiction
  · contradiction

/-- **A candidate lies inside.** -/
theorem inside_of_candidate? {i : Interval} (hden : 0 < i.den) {exponent : Int} {n : Nat}
    (h : candidate? i exponent = some n) : i.Inside (Digits.worth ⟨n, exponent⟩) := by
  have hscaled := Interval.den_scaled_pos hden exponent
  have hinside := Interval.inside_of_holds hscaled (Interval.holds_of_point? h)
  have hne : ((i.scaled exponent).den : ℚ) ≠ 0 := by exact_mod_cast hscaled.ne'
  rw [Nat.cast_mul, mul_div_cancel_right₀ _ hne] at hinside
  exact Interval.inside_of_scaled hden hinside

/-- A grid that is fine enough has a candidate: the point at or below the value. -/
theorem isSome_candidate? {i : Interval} {exponent : Int} (hden : 0 < i.den)
    (hhigh : i.value < i.high)
    (h : (10 : ℚ) ^ exponent ≤ i.value / i.den - i.low / i.den) :
    (candidate? i exponent).isSome = true := by
  have hscaled := Interval.den_scaled_pos hden exponent
  have hup : 0 < if 0 ≤ exponent then 1 else Nat.pow 10 (-exponent).toNat := by
    split
    · exact Nat.one_pos
    · exact Nat.pow_pos (by decide)
  have hpos : (0 : ℚ) < 10 ^ exponent := zpow_pos (by norm_num) _
  have hden' : (0 : ℚ) < (i.scaled exponent).den := by exact_mod_cast hscaled
  refine Interval.isSome_point? hscaled (Nat.mul_lt_mul_of_pos_right hhigh hup) ?_
  -- in units of the grid the lower half is at least one wide
  rw [← Interval.scaled_div hden i.low exponent, ← Interval.scaled_div hden i.value exponent,
    ← sub_mul, ← sub_div] at h
  have hone := le_of_mul_le_mul_right ((one_mul _).trans_le h) hpos
  rw [le_div_iff₀ hden', one_mul, le_sub_iff_add_le'] at hone
  exact_mod_cast hone

/-! ### The search -/

theorem inside_search {i : Interval} (hden : 0 < i.den) (hhigh : i.value < i.high) {k tries : Nat}
    (hk : k < tries) {exponent : Int}
    (h : (10 : ℚ) ^ (exponent - k) ≤ i.value / i.den - i.low / i.den) :
    i.Inside (search i tries exponent).worth := by
  induction tries generalizing k exponent with
  | zero => exact absurd hk (Nat.not_lt_zero _)
  | succ tries ih =>
    rw [search]
    cases hcandidate : candidate? i exponent with
    | some n => exact inside_of_candidate? hden hcandidate
    | none =>
      match k with
      | 0 =>
        rw [Nat.cast_zero, sub_zero] at h
        have hsome := isSome_candidate? hden hhigh h
        rw [hcandidate] at hsome
        cases hsome
      | k + 1 =>
        refine ih (k := k) (by omega) ?_
        rw [show exponent - 1 - (k : Int) = exponent - ((k + 1 : Nat) : Int) by omega]
        exact h

theorem worth_stripZeros (tries : Nat) (d : Digits) : (stripZeros tries d).worth = d.worth := by
  induction tries generalizing d with
  | zero => rfl
  | succ tries ih =>
    rw [stripZeros]
    split
    · next hzero =>
      rw [ih, Digits.worth, Digits.worth]
      have hdigits : (d.digits : ℚ) = (d.digits / 10 : Nat) * 10 := by
        exact_mod_cast (Nat.div_mul_cancel (Nat.dvd_of_mod_eq_zero hzero.2)).symm
      rw [hdigits, zpow_add_one₀ (by norm_num)]
      ring
    · rfl

/-- The exponent of the grid where the search begins. -/
def start (i : Interval) : Int :=
  if i.value / i.den = 0 then -((digitCount (i.den / i.value) : Int) - 1)
  else (digitCount (i.value / i.den) : Int)

theorem shortest_eq (x : Binary64) : Digits.shortest x =
    stripZeros 30 (search (interval x) 30 (start (interval x))) := rfl

theorem pow_digitCount_le {n : Nat} (hn : n ≠ 0) : 10 ^ (digitCount n - 1) ≤ n := by
  rcases Nat.eq_zero_or_pos (digitCount n - 1) with hzero | hpos
  · rw [hzero]
    exact Nat.one_le_iff_ne_zero.2 hn
  · by_contra hlt
    have hle := (Nat.length_toDigits_le_iff (b := 10) (by decide) hpos).2 (Nat.lt_of_not_le hlt)
    change digitCount n ≤ digitCount n - 1 at hle
    omega

theorem lt_pow_digitCount (n : Nat) : n < 10 ^ digitCount n :=
  (Nat.length_toDigits_le_iff (by decide) Nat.length_toDigits_pos).1 (Nat.le_refl _)

/-- The search begins at most one digit above the value. -/
theorem pow_start_le {i : Interval} (hden : 0 < i.den) (hvalue : 0 < i.value) :
    (10 : ℚ) ^ start i ≤ 10 * (i.value / i.den) := by
  have hden' : (0 : ℚ) < i.den := by exact_mod_cast hden
  have hvalue' : (0 : ℚ) < i.value := by exact_mod_cast hvalue
  have hpositive : ∀ n, 0 < digitCount n := fun n => Nat.length_toDigits_pos
  unfold start
  split
  · -- below one, by the digits of the reciprocal
    have hlt := lt_pow_digitCount (i.den / i.value)
    rw [Nat.div_lt_iff_lt_mul hvalue] at hlt
    have hlt' : (i.den : ℚ) < 10 ^ digitCount (i.den / i.value) * i.value := by exact_mod_cast hlt
    rw [neg_sub, zpow_sub₀ (by norm_num), zpow_one, zpow_natCast, ← mul_div_assoc,
      div_le_div_iff₀ (by positivity) hden']
    linarith
  · next hne =>
    have hle := (Nat.mul_le_mul_right i.den (pow_digitCount_le hne)).trans
      (Nat.div_mul_le_self i.value i.den)
    have hle' : (10 : ℚ) ^ (digitCount (i.value / i.den) - 1) * i.den ≤ i.value := by
      exact_mod_cast hle
    rw [zpow_natCast, ← Nat.sub_add_cancel (hpositive (i.value / i.den)), pow_succ, mul_comm]
    refine mul_le_mul_of_nonneg_left ?_ (by norm_num)
    rwa [le_div_iff₀ hden']

/-! ### The rounding interval of a double -/

/-- What the interval reaches down, in quarters of the last place. -/
def reach (x : Binary64) : Nat :=
  if x.significand = Nat.pow 2 52 ∧ minExponent < x.exponent then 1 else 2

theorem den_interval_pos (x : Binary64) : 0 < (interval x).den := by
  simp only [interval]
  split
  · exact Nat.one_pos
  · exact Nat.pow_pos (by decide)

/-- A number of quarters of the last place, over the denominator. -/
theorem quarters_div (x : Binary64) (n : Nat) :
    ((n * if 0 ≤ x.exponent - 2 then Nat.pow 2 (x.exponent - 2).toNat else 1 : Nat) : ℚ) /
      (interval x).den = n / 4 * 2 ^ x.exponent := by
  have hpow := div_pow_eq_zpow 2 (x.exponent - 2)
  rw [Nat.cast_ofNat, zpow_sub₀ (by norm_num)] at hpow
  rw [Nat.cast_mul, mul_div_assoc, interval]
  refine (congrArg (fun q : ℚ => n * q) hpow).trans ?_
  norm_num
  ring

theorem value_interval (x : Binary64) :
    ((interval x).value : ℚ) / (interval x).den = x.significand * 2 ^ x.exponent := by
  rw [show (interval x).value = 4 * x.significand * _ from rfl, quarters_div]
  push_cast
  ring

theorem high_interval (x : Binary64) :
    ((interval x).high : ℚ) / (interval x).den = (x.significand + 1 / 2) * 2 ^ x.exponent := by
  rw [show (interval x).high = (4 * x.significand + 2) * _ from rfl, quarters_div]
  push_cast
  ring

theorem low_interval {x : Binary64} (hx : x.significand ≠ 0) :
    ((interval x).low : ℚ) / (interval x).den =
      (x.significand - reach x / 4) * 2 ^ x.exponent := by
  have hle : reach x ≤ 4 * x.significand := by
    unfold reach
    split <;> omega
  rw [show (interval x).low = (4 * x.significand - reach x) * _ from rfl, quarters_div,
    Nat.cast_sub hle]
  push_cast
  ring

/-- **The shortest digits lie in the rounding interval.** -/
theorem inside_shortest {x : Binary64} (hx : x.Canonical) (hne : x.significand ≠ 0) :
    (interval x).Inside (Digits.shortest x).worth := by
  have hden := den_interval_pos x
  have hden' : (0 : ℚ) < (interval x).den := by exact_mod_cast hden
  have hpow : (0 : ℚ) < 2 ^ x.exponent := zpow_pos (by norm_num) _
  have hvalue := value_interval x
  have hhigh : (interval x).value < (interval x).high := by
    have hlt : ((interval x).value : ℚ) / (interval x).den <
        (interval x).high / (interval x).den := by
      rw [hvalue, high_interval]
      exact mul_lt_mul_of_pos_right (by linarith) hpow
    exact_mod_cast (div_lt_div_iff_of_pos_right hden').1 hlt
  have hpositive : 0 < (interval x).value := by
    have hlt : (0 : ℚ) < (interval x).value / (interval x).den := by
      rw [hvalue]
      exact mul_pos (by exact_mod_cast Nat.pos_of_ne_zero hne) hpow
    refine Nat.pos_of_ne_zero fun hzero => ?_
    rw [hzero, Nat.cast_zero, zero_div] at hlt
    exact lt_irrefl _ hlt
  rw [shortest_eq, worth_stripZeros]
  -- eighteen digits reach below a quarter of the last place
  refine inside_search hden hhigh (k := 18) (by decide) ?_
  have hstart := pow_start_le hden hpositive
  rw [hvalue] at hstart ⊢
  rw [low_interval hne, ← sub_mul, sub_sub_cancel, zpow_sub₀ (by norm_num)]
  have hreach : (1 : ℚ) ≤ reach x := by
    unfold reach
    split <;> norm_num
  have hsignificand : (x.significand : ℚ) ≤ 2 ^ 53 := by exact_mod_cast hx.bounded.le
  have hdigits : 10 * (2 : ℚ) ^ 53 * 4 ≤ 1 * 10 ^ (18 : Int) := by norm_num
  calc (10 : ℚ) ^ start (interval x) / 10 ^ (18 : Int)
      ≤ 10 * (x.significand * 2 ^ x.exponent) / 10 ^ (18 : Int) :=
        div_le_div_of_nonneg_right hstart (by positivity)
    _ = 10 * x.significand / 10 ^ (18 : Int) * 2 ^ x.exponent := by ring
    _ ≤ reach x / 4 * 2 ^ x.exponent := by
        refine mul_le_mul_of_nonneg_right ?_ hpow.le
        refine le_trans ?_ (div_le_div_of_nonneg_right hreach (by norm_num))
        rw [div_le_div_iff₀ (by positivity) (by norm_num)]
        linarith

/-! ### Intervals of different doubles -/

theorem Interval.Inside.le_high {x : Binary64} {t : ℚ} (h : (interval x).Inside t) :
    t ≤ (x.significand + 1 / 2) * 2 ^ x.exponent := high_interval x ▸ h.1.2

/-- The ends belong to an interval only where the significand is even. -/
theorem Interval.Inside.lt_high {x : Binary64} {t : ℚ} (h : (interval x).Inside t)
    (hodd : x.significand % 2 = 1) : t < (x.significand + 1 / 2) * 2 ^ x.exponent := by
  rw [← high_interval x]
  refine (h.2 ?_).2
  change decide (x.significand % 2 = 0) = false
  rw [hodd]
  rfl

theorem Interval.Inside.low_le {x : Binary64} {t : ℚ} (h : (interval x).Inside t)
    (hne : x.significand ≠ 0) : (x.significand - reach x / 4) * 2 ^ x.exponent ≤ t :=
  low_interval hne ▸ h.1.1

theorem Interval.Inside.low_lt {x : Binary64} {t : ℚ} (h : (interval x).Inside t)
    (hne : x.significand ≠ 0) (hodd : x.significand % 2 = 1) :
    (x.significand - reach x / 4) * 2 ^ x.exponent < t := by
  rw [← low_interval hne]
  refine (h.2 ?_).1
  change decide (x.significand % 2 = 0) = false
  rw [hodd]
  rfl

theorem reach_le (x : Binary64) : (reach x : ℚ) ≤ 2 := by
  unfold reach
  split <;> norm_num

/-- Intervals of doubles of one exponent are apart. -/
theorem not_inside_of_significand_lt {x y : Binary64} {t : ℚ} (hexponent : x.exponent = y.exponent)
    (hlt : x.significand < y.significand) (hx : (interval x).Inside t) :
    ¬ (interval y).Inside t := by
  intro hy
  have hpow : (0 : ℚ) < 2 ^ y.exponent := zpow_pos (by norm_num) _
  have hne : y.significand ≠ 0 := by omega
  have hreach := reach_le y
  have hhigh := hx.le_high
  have hlow := hy.low_le hne
  rw [hexponent] at hhigh
  rcases Nat.lt_or_ge (x.significand + 1) y.significand with hfar | hnear
  · have hfar' : (x.significand : ℚ) + 1 + 1 ≤ y.significand := by exact_mod_cast hfar
    have hgap : ((x.significand : ℚ) + 1 / 2) * 2 ^ y.exponent <
        (y.significand - reach y / 4) * 2 ^ y.exponent :=
      mul_lt_mul_of_pos_right (by linarith) hpow
    exact absurd (hlow.trans hhigh) (not_le.2 hgap)
  · -- neighbours have different parities
    have hsucc : y.significand = x.significand + 1 := by omega
    have hle : ((x.significand : ℚ) + 1 / 2) * 2 ^ y.exponent ≤
        (y.significand - reach y / 4) * 2 ^ y.exponent := by
      refine mul_le_mul_of_nonneg_right ?_ hpow.le
      rw [hsucc]
      push_cast
      linarith
    rcases Nat.mod_two_eq_zero_or_one x.significand with heven | hodd
    · exact absurd (hy.low_lt hne (by omega)) (not_lt.2 (hhigh.trans hle))
    · have hstrict := hx.lt_high hodd
      rw [hexponent] at hstrict
      exact absurd (hlow.trans_lt hstrict) (not_lt.2 hle)

/-- Intervals of doubles of different exponents are apart. -/
theorem not_inside_of_exponent_lt {x y : Binary64} {t : ℚ} (hx : x.Canonical) (hy : y.Canonical)
    (hlt : x.exponent < y.exponent) (hinside : (interval x).Inside t) :
    ¬ (interval y).Inside t := by
  intro hinside'
  have hfull := hy.full (lt_of_le_of_lt hx.least hlt)
  have hne : y.significand ≠ 0 := by omega
  have hpow : (0 : ℚ) < 2 ^ y.exponent := zpow_pos (by norm_num) _
  have hpow' : (0 : ℚ) < 2 ^ x.exponent := zpow_pos (by norm_num) _
  have hdouble : (2 : ℚ) ^ x.exponent ≤ 2 ^ y.exponent * 2⁻¹ := by
    rw [← zpow_sub_one₀ (by norm_num)]
    exact zpow_le_zpow_right₀ (by norm_num) (by omega)
  -- the interval of the larger double begins at or above the end of the largest smaller one
  have hbelow : t < (2 ^ 53 - 1 / 2) * 2 ^ x.exponent := by
    rcases Nat.lt_or_ge (x.significand + 1) (2 ^ 53) with hfar | hnear
    · have hfar' : (x.significand : ℚ) + 1 + 1 ≤ 2 ^ 53 := by exact_mod_cast hfar
      exact hinside.le_high.trans_lt (mul_lt_mul_of_pos_right (by linarith) hpow')
    · have hbounded := hx.bounded
      have hlast : x.significand + 1 = 2 ^ 53 := by omega
      have hlast' : (x.significand : ℚ) + 1 = 2 ^ 53 := by exact_mod_cast hlast
      refine (hinside.lt_high (by omega)).trans_eq ?_
      rw [← hlast']
      ring
  have habove : (2 ^ 52 - 1 / 4) * 2 ^ y.exponent ≤ t := by
    refine le_trans (mul_le_mul_of_nonneg_right ?_ hpow.le) (hinside'.low_le hne)
    have hreach := reach_le y
    rcases Nat.lt_or_ge (2 ^ 52) y.significand with hlarge | hleast
    · have hlarge' : (2 : ℚ) ^ 52 + 1 ≤ y.significand := by exact_mod_cast hlarge
      linarith
    · have heq : y.significand = 2 ^ 52 := by omega
      have hone : reach y = 1 := by
        unfold reach
        exact if_pos ⟨heq, lt_of_le_of_lt hx.least hlt⟩
      rw [hone, heq]
      norm_num
  have hmeet : ((2 : ℚ) ^ 53 - 1 / 2) * 2 ^ x.exponent ≤ (2 ^ 52 - 1 / 4) * 2 ^ y.exponent := by
    refine (mul_le_mul_of_nonneg_left hdouble (by norm_num)).trans_eq ?_
    ring
  exact absurd (hbelow.trans_le hmeet) (not_lt.2 habove)

/-- **The shortest digits say which double they belong to**, up to its sign. -/
theorem eq_of_worth_eq {x y : Binary64} (hx : x.Canonical) (hy : y.Canonical)
    (hxne : x.significand ≠ 0) (hyne : y.significand ≠ 0)
    (h : (Digits.shortest x).worth = (Digits.shortest y).worth) :
    x.significand = y.significand ∧ x.exponent = y.exponent := by
  have hinsidex := inside_shortest hx hxne
  have hinsidey := inside_shortest hy hyne
  rw [← h] at hinsidey
  rcases lt_trichotomy x.exponent y.exponent with hlt | heq | hlt
  · exact absurd hinsidey (not_inside_of_exponent_lt hx hy hlt hinsidex)
  · rcases lt_trichotomy x.significand y.significand with hlt | hsame | hlt
    · exact absurd hinsidey (not_inside_of_significand_lt heq hlt hinsidex)
    · exact ⟨hsame, heq⟩
    · exact absurd hinsidex (not_inside_of_significand_lt heq.symm hlt hinsidey)
  · exact absurd hinsidex (not_inside_of_exponent_lt hy hx hlt hinsidey)

/-- Digits of a double other than zero stand for a positive number. -/
theorem worth_shortest_pos {x : Binary64} (hx : x.Canonical) (hne : x.significand ≠ 0) :
    0 < (Digits.shortest x).worth := by
  refine lt_of_lt_of_le ?_ ((inside_shortest hx hne).low_le hne)
  refine mul_pos ?_ (zpow_pos (by norm_num) _)
  have hone : (1 : ℚ) ≤ x.significand := by exact_mod_cast Nat.one_le_iff_ne_zero.2 hne
  have hreach := reach_le x
  linarith

end Shortest
end Decimal
end SchemaTypings
