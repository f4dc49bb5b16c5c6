import Mathlib.Algebra.Order.Field.Power
import Mathlib.Tactic.Linarith
import Mathlib.Tactic.Positivity
import Mathlib.Tactic.Ring
import Tabletop.Binary

/-!
# The range of the format

What is no greater than the greatest number of the format is rounded to a number of the format. A
whole number that fits keeps fitting when a fraction of it is taken, although it was rounded
before.
-/

namespace Tabletop.Binary

/-! ## Powers of two -/

theorem two_zpow_pos (exponent : Int) : (0 : ℚ) < 2 ^ exponent :=
  zpow_pos (by norm_num) exponent

theorem two_zpow_toNat {exponent : Int} (nonneg : 0 ≤ exponent) :
    ((Nat.pow 2 exponent.toNat : Nat) : ℚ) = 2 ^ exponent := by
  obtain ⟨power, rfl⟩ := Int.eq_ofNat_of_zero_le nonneg
  simp

theorem two_zpow_neg_toNat {exponent : Int} (negative : exponent < 0) :
    ((Nat.pow 2 (-exponent).toNat : Nat) : ℚ) * 2 ^ exponent = 1 := by
  rw [two_zpow_toNat (by omega), ← zpow_add₀ (by norm_num)]
  simp

theorem fraction_spec (units : Nat) (exponent : Int) :
    0 < (fraction units exponent).2 ∧
      ((fraction units exponent).1 : ℚ) = units * 2 ^ exponent * (fraction units exponent).2 := by
  rw [fraction]
  split
  · rename_i nonneg
    refine ⟨Nat.one_pos, ?_⟩
    simp only [Nat.cast_mul, two_zpow_toNat nonneg, Nat.cast_one, mul_one]
  · rename_i negative
    have inverse := two_zpow_neg_toNat (Int.not_le.1 negative)
    refine ⟨Nat.pow_pos (by norm_num), ?_⟩
    simp only
    rw [mul_assoc, mul_comm (2 ^ exponent : ℚ), inverse, mul_one]

/-! ## Rounding -/

theorem roundQuotient_le
    {num den bound : Nat} (positive : 0 < den) (below : num ≤ bound * den) :
    roundQuotient num den ≤ bound := by
  have whole : num / den ≤ bound := Nat.div_le_of_le_mul (by rwa [Nat.mul_comm])
  rw [roundQuotient]
  split
  · exact whole
  · rename_i roundsUp
    -- A quotient that reaches the bound leaves nothing to be rounded.
    have short : num / den ≠ bound := by
      rintro rfl
      have noRest : num % den = 0 := by
        have split := Nat.div_add_mod num den
        rw [Nat.mul_comm] at split
        omega
      apply roundsUp
      simp [noRest, positive]
    omega

theorem le_roundQuotient
    {num den bound : Nat} (positive : 0 < den) (above : bound * den ≤ num) :
    bound ≤ roundQuotient num den := by
  have whole : bound ≤ num / den := (Nat.le_div_iff_mul_le positive).2 above
  rw [roundQuotient]
  split
  · exact whole
  · exact Nat.le_succ_of_le whole

/-- Counting units is rounding one quotient of whole numbers. -/
theorem exists_unitsOf_eq
    (num : Nat) (exponent : Int) {den : Nat} (positive : 0 < den) :
    ∃ top bottom,
      unitsOf num den exponent = roundQuotient top bottom ∧ 0 < bottom ∧
        (num : ℚ) * bottom = top * (2 ^ exponent * den) := by
  rw [unitsOf]
  split
  · rename_i nonneg
    refine ⟨_, _, rfl, Nat.mul_pos positive (Nat.pow_pos (by norm_num)), ?_⟩
    rw [Nat.cast_mul, two_zpow_toNat nonneg]
    ring
  · rename_i negative
    refine ⟨_, _, rfl, positive, ?_⟩
    have inverse := two_zpow_neg_toNat (Int.not_le.1 negative)
    calc
      (num : ℚ) * den = num * den * ((Nat.pow 2 (-exponent).toNat : Nat) * 2 ^ exponent) := by
        rw [inverse, mul_one]
      _ = (num * Nat.pow 2 (-exponent).toNat : Nat) * (2 ^ exponent * den) := by
        rw [Nat.cast_mul]
        ring

theorem unitsOf_le
    {num den bound : Nat} {exponent : Int} (positive : 0 < den)
    (below : (num : ℚ) ≤ bound * (2 ^ exponent * den)) :
    unitsOf num den exponent ≤ bound := by
  obtain ⟨top, bottom, same, bottomPositive, equal⟩ := exists_unitsOf_eq num exponent positive
  have unit : (0 : ℚ) < 2 ^ exponent * den :=
    mul_pos (two_zpow_pos exponent) (Nat.cast_pos.2 positive)
  have scaled : (top : ℚ) * (2 ^ exponent * den) ≤ bound * bottom * (2 ^ exponent * den) := by
    rw [← equal]
    calc
      (num : ℚ) * bottom ≤ bound * (2 ^ exponent * den) * bottom :=
        mul_le_mul_of_nonneg_right below (Nat.cast_nonneg _)
      _ = bound * bottom * (2 ^ exponent * den) := by ring
  rw [same]
  apply roundQuotient_le bottomPositive
  exact_mod_cast le_of_mul_le_mul_right scaled unit

theorem le_unitsOf
    {num den bound : Nat} {exponent : Int} (positive : 0 < den)
    (above : bound * (2 ^ exponent * den) ≤ (num : ℚ)) :
    bound ≤ unitsOf num den exponent := by
  obtain ⟨top, bottom, same, bottomPositive, equal⟩ := exists_unitsOf_eq num exponent positive
  have unit : (0 : ℚ) < 2 ^ exponent * den :=
    mul_pos (two_zpow_pos exponent) (Nat.cast_pos.2 positive)
  have scaled : bound * bottom * (2 ^ exponent * den) ≤ (top : ℚ) * (2 ^ exponent * den) := by
    rw [← equal]
    calc
      (bound : ℚ) * bottom * (2 ^ exponent * den) = bound * (2 ^ exponent * den) * bottom := by
        ring
      _ ≤ (num : ℚ) * bottom := mul_le_mul_of_nonneg_right above (Nat.cast_nonneg _)
  rw [same]
  apply le_roundQuotient bottomPositive
  exact_mod_cast le_of_mul_le_mul_right scaled unit

/-! ## Magnitudes -/

theorem two_zpow_log2_le {n : Nat} (positive : 0 < n) : (2 : ℚ) ^ (n.log2 : Int) ≤ n := by
  rw [zpow_natCast]
  exact_mod_cast Nat.log2_self_le (Nat.ne_of_gt positive)

theorem lt_two_zpow_log2 (n : Nat) : (n : ℚ) < 2 ^ (n.log2 + 1 : Int) := by
  have bound : n < 2 ^ (n.log2 + 1) := Nat.lt_log2_self
  have cast : ((n.log2 : Int) + 1) = ((n.log2 + 1 : Nat) : Int) := by simp
  rw [cast, zpow_natCast]
  exact_mod_cast bound

theorem reached_iff (num den : Nat) (guess : Int) :
    (if 0 ≤ guess then den * Nat.pow 2 guess.toNat ≤ num
      else den ≤ num * Nat.pow 2 (-guess).toNat) ↔ 2 ^ guess * den ≤ (num : ℚ) := by
  split
  · rename_i nonneg
    rw [← two_zpow_toNat nonneg, mul_comm]
    exact_mod_cast Iff.rfl
  · rename_i negative
    have inverse := two_zpow_neg_toNat (Int.not_le.1 negative)
    have scale := two_zpow_pos guess
    rw [← Nat.cast_le (α := ℚ), Nat.cast_mul, ← mul_le_mul_iff_right₀ scale]
    rw [mul_comm (2 ^ guess : ℚ) (num * _), mul_assoc, inverse, mul_one]

/-- The leading exponent of a quotient is the exponent of the power of two below it. -/
theorem leadingExponent_spec
    {num den : Nat} (numPositive : 0 < num) (denPositive : 0 < den) :
    2 ^ leadingExponent num den * den ≤ (num : ℚ) ∧
      (num : ℚ) < 2 ^ (leadingExponent num den + 1) * den := by
  have numLow := two_zpow_log2_le numPositive
  have numHigh := lt_two_zpow_log2 num
  have denLow := two_zpow_log2_le denPositive
  have denHigh := lt_two_zpow_log2 den
  have two_ne_zero : (2 : ℚ) ≠ 0 := by norm_num
  rw [leadingExponent]
  generalize isGuess : (num.log2 : Int) - den.log2 = guess
  simp only [reached_iff]
  split
  · rename_i reached
    refine ⟨reached, ?_⟩
    calc
      (num : ℚ) < 2 ^ (num.log2 + 1 : Int) := numHigh
      _ = 2 ^ (guess + 1) * 2 ^ (den.log2 : Int) := by
        rw [← zpow_add₀ two_ne_zero]
        congr 1
        omega
      _ ≤ 2 ^ (guess + 1) * den := mul_le_mul_of_nonneg_left denLow (two_zpow_pos _).le
  · rename_i notReached
    rw [sub_add_cancel]
    refine ⟨?_, not_le.1 notReached⟩
    calc
      2 ^ (guess - 1) * (den : ℚ) ≤ 2 ^ (guess - 1) * 2 ^ (den.log2 + 1 : Int) :=
        mul_le_mul_of_nonneg_left denHigh.le (two_zpow_pos _).le
      _ = 2 ^ (num.log2 : Int) := by
        rw [← zpow_add₀ two_ne_zero]
        congr 1
        omega
      _ ≤ num := numLow

/-! ## The greatest number -/

/-- The greatest number of the format. -/
def greatest : ℚ := (2 ^ 53 - 1 : Nat) * 2 ^ (971 : Int)

theorem greatest_lt : greatest < 2 ^ (1024 : Int) := by
  have split : (2 : ℚ) ^ (1024 : Int) = 2 ^ 53 * 2 ^ (971 : Int) := by
    rw [← zpow_natCast, ← zpow_add₀ (by norm_num)]
    rfl
  rw [greatest, split]
  exact mul_lt_mul_of_pos_right (by norm_num) (two_zpow_pos 971)

theorem log2_le_of_lt {n : Nat} (power : Nat) (bound : n < 2 ^ (power + 1)) : n.log2 ≤ power := by
  by_cases empty : n = 0
  · simp [empty]
  · exact Nat.le_of_lt_succ ((Nat.log2_lt empty).2 bound)

theorem nearest_finite
    (negative : Bool) {num den : Nat} (positive : 0 < den)
    (bounded : (num : ℚ) ≤ greatest * den) :
    ∃ units exponent, nearest negative num den = .finite negative units exponent := by
  by_cases empty : num = 0
  · exact ⟨0, 0, if_pos empty⟩
  · obtain ⟨low, high⟩ := leadingExponent_spec (Nat.pos_of_ne_zero empty) positive
    rw [nearest, if_neg empty]
    generalize leadingExponent num den = leading at low high
    have denPositive : (0 : ℚ) < den := Nat.cast_pos.2 positive
    have leadingBound : leading < 1024 := by
      have scaled : (2 : ℚ) ^ leading * den < 2 ^ (1024 : Int) * den :=
        (low.trans bounded).trans_lt (mul_lt_mul_of_pos_right greatest_lt denPositive)
      exact (zpow_lt_zpow_iff_right₀ (by norm_num)).1 (lt_of_mul_lt_mul_right scaled denPositive.le)
    have below : max (-1074) (leading - 52) +
        (unitsOf num den (max (-1074) (leading - 52))).log2 < 1024 := by
      by_cases last : leading = 1023
      · -- Only here the bound itself is needed: the next power of two is out of range.
        subst last
        have few : unitsOf num den 971 ≤ 2 ^ 53 - 1 := by
          apply unitsOf_le positive
          rw [← mul_assoc]
          exact bounded
        have digits := log2_le_of_lt 52 (Nat.lt_of_le_of_lt few (by norm_num))
        have same : max (-1074 : Int) (1023 - 52) = 971 := rfl
        rw [same]
        omega
      · generalize isExponent : max (-1074) (leading - 52) = exponent
        have few : unitsOf num den exponent ≤ 2 ^ 53 := by
          apply unitsOf_le positive
          have step : (2 : ℚ) ^ (leading + 1) ≤ 2 ^ (53 + exponent) :=
            zpow_le_zpow_right₀ (by norm_num) (by omega)
          calc
            (num : ℚ) ≤ 2 ^ (leading + 1) * den := high.le
            _ ≤ 2 ^ (53 + exponent) * den := mul_le_mul_of_nonneg_right step denPositive.le
            _ = (2 ^ 53 : Nat) * (2 ^ exponent * den) := by
              rw [zpow_add₀ (by norm_num), mul_assoc]
              norm_num
        have digits := log2_le_of_lt 53 (Nat.lt_of_le_of_lt few (by norm_num))
        omega
    simp only
    rw [if_neg (by omega)]
    exact ⟨_, _, rfl⟩

/-- What is known of a whole number that is rounded to a finite one: it has a leading exponent in
the range of the format and at most 53 significant bits. -/
structure Fits (size units : Nat) (exponent leading : Int) : Prop where
  low : 2 ^ leading ≤ (size : ℚ)
  high : (size : ℚ) < 2 ^ (leading + 1)
  inRange : leading ≤ 1023
  isExponent : exponent = leading - 52
  many : 2 ^ 52 ≤ units
  few : units ≤ 2 ^ 53
  below : exponent + units.log2 < 1024

theorem exists_fits
    {n : Int} {negative : Bool} {units : Nat} {exponent : Int} (nonzero : n.natAbs ≠ 0)
    (rounded : ofInt n = .finite negative units exponent) :
    ∃ leading, Fits n.natAbs units exponent leading := by
  rw [ofInt, nearest, if_neg nonzero] at rounded
  have positive : 0 < n.natAbs := Nat.pos_of_ne_zero nonzero
  obtain ⟨low, high⟩ := leadingExponent_spec positive Nat.one_pos
  generalize n.natAbs = size at rounded positive low high ⊢
  generalize leadingExponent size 1 = leading at rounded low high
  rw [Nat.cast_one, mul_one] at low high
  have leadingNonneg : 0 ≤ leading := by
    have above : (2 : ℚ) ^ (0 : Int) < 2 ^ (leading + 1) := by
      have one : (1 : ℚ) ≤ size := by exact_mod_cast positive
      rw [zpow_zero]
      exact one.trans_lt high
    have := (zpow_lt_zpow_iff_right₀ (by norm_num)).1 above
    omega
  have isExponent : max (-1074) (leading - 52) = leading - 52 := by omega
  simp only [isExponent] at rounded
  split at rounded
  · cases rounded
  · rename_i below
    cases rounded
    have two_ne_zero : (2 : ℚ) ≠ 0 := by norm_num
    have few : unitsOf size 1 (leading - 52) ≤ 2 ^ 53 := by
      apply unitsOf_le Nat.one_pos
      have split : (2 : ℚ) ^ (leading + 1) = (2 ^ 53 : Nat) * 2 ^ (leading - 52) := by
        rw [Nat.cast_pow, ← zpow_natCast, Nat.cast_ofNat, ← zpow_add₀ two_ne_zero]
        congr 1
        push_cast
        omega
      rw [Nat.cast_one, mul_one, ← split]
      exact high.le
    have many : 2 ^ 52 ≤ unitsOf size 1 (leading - 52) := by
      apply le_unitsOf Nat.one_pos
      have split : (2 ^ 52 : Nat) * (2 : ℚ) ^ (leading - 52) = 2 ^ leading := by
        rw [Nat.cast_pow, ← zpow_natCast, Nat.cast_ofNat, ← zpow_add₀ two_ne_zero]
        congr 1
        push_cast
        omega
      rw [Nat.cast_one, mul_one, split]
      exact low
    have digits : 52 ≤ (unitsOf size 1 (leading - 52)).log2 := (Nat.le_log2 (by omega)).2 many
    exact ⟨leading, low, high, by omega, rfl, many, few, by omega⟩

/-- A whole number that fits is rounded to no more than the greatest number. -/
theorem units_le_greatest
    {n : Int} {negative : Bool} {units : Nat} {exponent : Int}
    (rounded : ofInt n = .finite negative units exponent) :
    units * 2 ^ exponent ≤ greatest := by
  by_cases zero : n.natAbs = 0
  · rw [ofInt, nearest, if_pos zero] at rounded
    cases rounded
    rw [Nat.cast_zero, zero_mul, greatest]
    positivity
  · obtain ⟨leading, fits⟩ := exists_fits zero rounded
    have many := fits.many
    by_cases last : exponent = 971
    · subst last
      have fewer : units ≤ 2 ^ 53 - 1 := by
        have below := fits.below
        have := (Nat.log2_lt (k := 53) (by omega)).1 (show units.log2 < 53 by omega)
        omega
      exact mul_le_mul_of_nonneg_right (Nat.cast_le.2 fewer) (two_zpow_pos 971).le
    · have inRange := fits.inRange
      have isExponent := fits.isExponent
      have step : (2 : ℚ) ^ exponent ≤ 2 ^ (970 : Int) :=
        zpow_le_zpow_right₀ (by norm_num) (by omega)
      calc
        (units : ℚ) * 2 ^ exponent ≤ (2 ^ 53 : Nat) * 2 ^ (970 : Int) :=
          mul_le_mul (Nat.cast_le.2 fits.few) step (two_zpow_pos _).le (Nat.cast_nonneg _)
        _ = (2 ^ 52 : Nat) * 2 ^ (971 : Int) := by
          have next : (971 : Int) = 1 + 970 := rfl
          rw [next, zpow_one_add₀ (by norm_num)]
          generalize (2 : ℚ) ^ (970 : Int) = half
          push_cast
          ring
        _ ≤ greatest :=
          mul_le_mul_of_nonneg_right (Nat.cast_le.2 (by norm_num)) (two_zpow_pos 971).le

/-- A whole number that fits is below the powers of two beyond the format. -/
theorem natAbs_lt_of_finite
    {n : Int} {negative : Bool} {units power : Nat} {exponent : Int}
    (rounded : ofInt n = .finite negative units exponent) (beyond : 1024 ≤ power) :
    n.natAbs < 2 ^ power := by
  by_cases zero : n.natAbs = 0
  · rw [zero]
    exact Nat.two_pow_pos power
  · obtain ⟨leading, fits⟩ := exists_fits zero rounded
    have inRange := fits.inRange
    have step : (2 : ℚ) ^ (leading + 1) ≤ 2 ^ (power : Int) :=
      zpow_le_zpow_right₀ (by norm_num) (by omega)
    have bound : (n.natAbs : ℚ) < 2 ^ (power : Int) := fits.high.trans_le step
    rw [zpow_natCast] at bound
    exact_mod_cast bound

/-- A fraction of a whole number that fits, at least nought and below one, fits too. -/
theorem nearest_mul_finite
    {n : Int} {negative : Bool} {units part : Nat} {exponent partExponent : Int} (sign : Bool)
    (rounded : ofInt n = .finite negative units exponent)
    (belowOne : (fraction part partExponent).1 < (fraction part partExponent).2) :
    ∃ found foundExponent,
      (finite sign part partExponent).mul (finite negative units exponent) =
        .finite (sign != negative) found foundExponent := by
  obtain ⟨partPositive, partValue⟩ := fraction_spec part partExponent
  obtain ⟨positive, value⟩ := fraction_spec (part * units) (partExponent + exponent)
  have partBelow : (part : ℚ) * 2 ^ partExponent ≤ 1 := by
    have cast : ((fraction part partExponent).1 : ℚ) < (fraction part partExponent).2 :=
      Nat.cast_lt.2 belowOne
    rw [partValue, ← one_mul ((fraction part partExponent).2 : ℚ), ← mul_assoc, mul_one] at cast
    exact (lt_of_mul_lt_mul_right cast (Nat.cast_nonneg _)).le
  have whole := units_le_greatest rounded
  have bounded :
      ((fraction (part * units) (partExponent + exponent)).1 : ℚ) ≤
        greatest * (fraction (part * units) (partExponent + exponent)).2 := by
    rw [value]
    apply mul_le_mul_of_nonneg_right _ (Nat.cast_nonneg _)
    calc
      ((part * units : Nat) : ℚ) * 2 ^ (partExponent + exponent) =
          part * 2 ^ partExponent * (units * 2 ^ exponent) := by
        rw [zpow_add₀ (by norm_num), Nat.cast_mul]
        ring
      _ ≤ 1 * (units * 2 ^ exponent) :=
        mul_le_mul_of_nonneg_right partBelow (mul_nonneg (Nat.cast_nonneg _) (two_zpow_pos _).le)
      _ ≤ greatest := by rwa [one_mul]
  exact nearest_finite (sign != negative) positive bounded

end Tabletop.Binary
