import Mathlib.Algebra.Order.Group.Abs
import Tabletop.Proofs.Binary

/-!
# Rounding to units

A quotient is rounded to the nearest whole number, and a number to the nearest number of units of
some size. The error is half a unit at most, a tie goes to the even number, and the order is kept.
-/

namespace Tabletop.Binary

/-! ## Rounded quotients -/

/-- A quotient is rounded to no more than a whole number exactly if it is below the next half, or is
that half and the whole number is even. -/
theorem roundQuotient_le_iff {num den bound : Nat} (positive : 0 < den) :
    roundQuotient num den ≤ bound ↔
      2 * num < (2 * bound + 1) * den ∨ 2 * num = (2 * bound + 1) * den ∧ bound % 2 = 0 := by
  have split := Nat.div_add_mod num den
  have restSmall := Nat.mod_lt num positive
  rw [Nat.mul_comm] at split
  have expand : (2 * bound + 1) * den = 2 * (bound * den) + den := by ring
  rw [expand, roundQuotient]
  simp only [Bool.or_eq_true, decide_eq_true_eq, Bool.and_eq_true, beq_iff_eq]
  generalize num / den = whole at split ⊢
  generalize num % den = rest at split restSmall ⊢
  rcases Nat.lt_trichotomy bound whole with below | rfl | above
  · have gap : bound * den + den ≤ whole * den := by
      rw [← Nat.succ_mul]
      exact Nat.mul_le_mul_right den below
    constructor
    · intro few
      split at few <;> omega
    · intro near
      omega
  · constructor
    · intro few
      split at few <;> omega
    · intro near
      split <;> omega
  · have gap : whole * den + den ≤ bound * den := by
      rw [← Nat.succ_mul]
      exact Nat.mul_le_mul_right den above
    constructor
    · intro _
      omega
    · intro _
      split <;> omega

theorem roundQuotient_mono
    {num den other otherDen : Nat} (positive : 0 < den) (otherPositive : 0 < otherDen)
    (le : num * otherDen ≤ other * den) :
    roundQuotient num den ≤ roundQuotient other otherDen := by
  rw [roundQuotient_le_iff positive]
  generalize isBound : roundQuotient other otherDen = bound
  have near := (roundQuotient_le_iff otherPositive).1 (Nat.le_of_eq isBound)
  have scaled : 2 * num * otherDen ≤ 2 * other * den := by
    rw [Nat.mul_assoc, Nat.mul_assoc]
    exact Nat.mul_le_mul_left 2 le
  have swap : (2 * bound + 1) * otherDen * den = (2 * bound + 1) * den * otherDen := by ring
  rcases near with below | ⟨half, even⟩
  · left
    have strict : 2 * num * otherDen < (2 * bound + 1) * den * otherDen := by
      rw [← swap]
      exact scaled.trans_lt (Nat.mul_lt_mul_of_pos_right below positive)
    exact Nat.lt_of_mul_lt_mul_right strict
  · have atMost : 2 * num ≤ (2 * bound + 1) * den := by
      rw [half, swap] at scaled
      exact Nat.le_of_mul_le_mul_right scaled otherPositive
    rcases Nat.lt_or_eq_of_le atMost with below | same
    · exact Or.inl below
    · exact Or.inr ⟨same, even⟩

/-- A rounded quotient is off by half a unit at most, and even if it is off by half a unit. -/
theorem roundQuotient_near (num : Nat) {den : Nat} (positive : 0 < den) :
    |(2 * (roundQuotient num den * den) - 2 * num : Int)| ≤ den ∧
      (|(2 * (roundQuotient num den * den) - 2 * num : Int)| = den →
        roundQuotient num den % 2 = 0) := by
  generalize isRounded : roundQuotient num den = units
  have above := (roundQuotient_le_iff positive).1 (Nat.le_of_eq isRounded)
  have expand : (2 * units + 1) * den = 2 * (units * den) + den := by ring
  rw [expand] at above
  have below : 2 * (units * den) < 2 * num + den ∨
      2 * (units * den) = 2 * num + den ∧ units % 2 = 0 := by
    rcases Nat.eq_zero_or_pos units with rfl | some
    · left
      omega
    · have notLess : ¬roundQuotient num den ≤ units - 1 := by omega
      rw [roundQuotient_le_iff positive] at notLess
      have contract : (2 * (units - 1) + 1) * den + den = 2 * (units * den) := by
        obtain ⟨less, rfl⟩ := Nat.exists_eq_succ_of_ne_zero some.ne'
        rw [Nat.succ_eq_add_one, Nat.add_sub_cancel]
        ring
      omega
  have cast : ((units * den : Nat) : Int) = (units : Int) * den := Nat.cast_mul units den
  rw [← cast]
  generalize units * den = product at above below
  constructor
  · rw [abs_le]
    omega
  · intro half
    rcases abs_cases (2 * (product : Int) - 2 * num) with ⟨same, -⟩ | ⟨same, -⟩
    · omega
    · omega

/-! ## Units -/

section Units

variable {num den : Nat} {exponent : Int}

theorem unit_pos (exponent : Int) (positive : 0 < den) : (0 : ℚ) < 2 ^ exponent * den :=
  mul_pos (two_zpow_pos exponent) (Nat.cast_pos.2 positive)

/-- A power of two in units that are smaller by a number of bits. -/
theorem two_zpow_add (exponent : Int) (bits : Nat) :
    (2 : ℚ) ^ (exponent + bits) = (2 ^ bits : Nat) * 2 ^ exponent := by
  rw [add_comm, zpow_add₀ (by norm_num), zpow_natCast, Nat.cast_pow, Nat.cast_ofNat]

/-- What is less than half a unit above a number of units is rounded to no more units. -/
theorem unitsOf_le_of_lt_half
    {bound : Nat} (positive : 0 < den)
    (below : 2 * (num : ℚ) < (2 * bound + 1) * (2 ^ exponent * den)) :
    unitsOf num den exponent ≤ bound := by
  obtain ⟨top, bottom, same, bottomPositive, equal⟩ :=
    exists_unitsOf_eq num exponent positive
  rw [same, roundQuotient_le_iff bottomPositive]
  left
  have scaled :
      2 * (top : ℚ) * (2 ^ exponent * den) <
        (2 * bound + 1) * bottom * (2 ^ exponent * den) := by
    calc
      2 * (top : ℚ) * (2 ^ exponent * den) = 2 * num * bottom := by
        rw [mul_assoc, mul_assoc, equal]
      _ < (2 * bound + 1) * (2 ^ exponent * den) * bottom :=
        mul_lt_mul_of_pos_right below (Nat.cast_pos.2 bottomPositive)
      _ = (2 * bound + 1) * bottom * (2 ^ exponent * den) := by ring
  exact_mod_cast lt_of_mul_lt_mul_right scaled (unit_pos exponent positive).le

theorem unitsOf_mono
    {other otherDen : Nat} (exponent : Int) (positive : 0 < den) (otherPositive : 0 < otherDen)
    (le : (num : ℚ) * otherDen ≤ other * den) :
    unitsOf num den exponent ≤ unitsOf other otherDen exponent := by
  obtain ⟨top, bottom, same, bottomPositive, equal⟩ :=
    exists_unitsOf_eq num exponent positive
  obtain ⟨otherTop, otherBottom, otherSame, otherBottomPositive, otherEqual⟩ :=
    exists_unitsOf_eq other exponent otherPositive
  rw [same, otherSame]
  apply roundQuotient_mono bottomPositive otherBottomPositive
  have scale : (0 : ℚ) < 2 ^ exponent * (den * otherDen) :=
    mul_pos (two_zpow_pos exponent)
      (mul_pos (Nat.cast_pos.2 positive) (Nat.cast_pos.2 otherPositive))
  have scaled :
      (top * otherBottom : ℚ) * (2 ^ exponent * (den * otherDen)) ≤
        otherTop * bottom * (2 ^ exponent * (den * otherDen)) := by
    calc
      (top * otherBottom : ℚ) * (2 ^ exponent * (den * otherDen)) =
          top * (2 ^ exponent * den) * otherBottom * otherDen := by ring
      _ = num * otherDen * (bottom * otherBottom) := by
        rw [← equal]
        ring
      _ ≤ other * den * (bottom * otherBottom) :=
        mul_le_mul_of_nonneg_right le (mul_nonneg (Nat.cast_nonneg _) (Nat.cast_nonneg _))
      _ = otherTop * (2 ^ exponent * otherDen) * bottom * den := by
        rw [← otherEqual]
        ring
      _ = otherTop * bottom * (2 ^ exponent * (den * otherDen)) := by ring
  exact_mod_cast le_of_mul_le_mul_right scaled scale

/-- A value is rounded to units by half a unit at most, and to an even number of them if it is by
half a unit. -/
theorem unitsOf_near
    {value : ℚ} (exponent : Int) (positive : 0 < den)
    (same : (num : ℚ) = value * den) :
    |unitsOf num den exponent * 2 ^ exponent - value| ≤ 2 ^ exponent / 2 ∧
      (|unitsOf num den exponent * 2 ^ exponent - value| = 2 ^ exponent / 2 →
        unitsOf num den exponent % 2 = 0) := by
  obtain ⟨top, bottom, units, bottomPositive, equal⟩ :=
    exists_unitsOf_eq num exponent positive
  have denPositive : (0 : ℚ) < den := Nat.cast_pos.2 positive
  have bottomCast : (0 : ℚ) < bottom := Nat.cast_pos.2 bottomPositive
  have unit := two_zpow_pos exponent
  have isValue : value * bottom = top * 2 ^ exponent := by
    apply mul_right_cancel₀ denPositive.ne'
    calc
      value * bottom * den = num * bottom := by
        rw [same]
        ring
      _ = top * 2 ^ exponent * den := by
        rw [equal]
        ring
  obtain ⟨near, even⟩ := roundQuotient_near top bottomPositive
  rw [units]
  generalize roundQuotient top bottom = count at near even ⊢
  -- the distance, counted in parts of a unit
  have distance :
      |(2 * (count * bottom) - 2 * top : Int)| * (2 ^ exponent : ℚ) =
        2 * bottom * |count * 2 ^ exponent - value| := by
    have factors :
        (2 * (count * bottom) - 2 * top : ℚ) * 2 ^ exponent =
          2 * bottom * (count * 2 ^ exponent - value) := by
      have := isValue
      linarith
    have left := abs_mul (2 * (count * bottom) - 2 * top : ℚ) (2 ^ exponent)
    have right := abs_mul (2 * (bottom : ℚ)) (count * 2 ^ exponent - value)
    rw [factors, right, abs_of_pos unit, abs_of_pos (by positivity : (0 : ℚ) < 2 * bottom)] at left
    rw [left]
    push_cast
    rfl
  constructor
  · have castNear : ((|(2 * (count * bottom) - 2 * top : Int)| : Int) : ℚ) ≤ bottom := by
      exact_mod_cast near
    have scaled := mul_le_mul_of_nonneg_right castNear unit.le
    rw [distance] at scaled
    have halved : bottom * |count * 2 ^ exponent - value| ≤ bottom * (2 ^ exponent / 2) := by
      linarith
    exact le_of_mul_le_mul_left halved bottomCast
  · intro half
    apply even
    rw [half] at distance
    have whole :
        ((|(2 * (count * bottom) - 2 * top : Int)| : Int) : ℚ) * 2 ^ exponent =
          bottom * 2 ^ exponent := by
      rw [distance]
      ring
    exact_mod_cast mul_right_cancel₀ unit.ne' whole

end Units

end Tabletop.Binary
