import Tabletop.Proofs.Binary.Rounding

/-!
# The nearest number of the format

A value is rounded to the number of the format that is nearest to it and, if two are equally near,
to the one with an even number of units.
-/

namespace Tabletop.Binary

variable {value other : ℚ} {units count : Nat} {exponent : Int}

/-- A result is the number of the format that is nearest to a value. If another one is as near, the
result is the one with an even number of units, which are as fine as 53 bits allow. -/
structure RoundsTo (value result : ℚ) : Prop where
  representable : Representable result
  nearest : ∀ other, Representable other → |result - value| ≤ |other - value|
  even : ∀ other, Representable other → other ≠ result → |other - value| = |result - value| →
    ∃ (units : Nat) (exponent : Int),
      result = units * 2 ^ exponent ∧ units % 2 = 0 ∧ units ≤ 2 ^ 53 ∧
        (exponent = -1074 ∨ 2 ^ 52 ≤ units)

/-- What is known of the units to which a value is rounded. -/
structure InUnits (value : ℚ) (units : Nat) (exponent : Int) : Prop where
  rounds : roundOff value = units * 2 ^ exponent
  few : units ≤ 2 ^ 53
  many : exponent = -1074 ∨ 2 ^ 52 ≤ units
  reached : exponent = -1074 ∨ 2 ^ (exponent + 52) ≤ value
  near : |units * 2 ^ exponent - value| ≤ 2 ^ exponent / 2
  even : |units * 2 ^ exponent - value| = 2 ^ exponent / 2 → units % 2 = 0

theorem exists_inUnits (positive : 0 < value) :
    ∃ units exponent, InUnits value units exponent := by
  have numPositive : 0 < value.num.toNat := by
    have := Rat.num_pos.2 positive
    omega
  have denPositive : (0 : ℚ) < value.den := Nat.cast_pos.2 value.den_pos
  obtain ⟨near, even⟩ := unitsOf_near (unitExponent value.num.toNat value.den) value.den_pos
    (cast_num_toNat positive.le)
  have reached := unitExponent_cases numPositive value.den_pos
  rw [cast_num_toNat positive.le] at reached
  exact ⟨_, _, rfl, units_le numPositive value.den_pos, many_units numPositive value.den_pos,
    reached.imp_right fun low => le_of_mul_le_mul_right low denPositive, near, even⟩

/-! ## Distances -/

/-- Two different numbers of units are at least a unit apart. -/
theorem unit_le_abs_sub (exponent : Int) (different : count ≠ units) :
    (2 : ℚ) ^ exponent ≤ |(count : ℚ) * 2 ^ exponent - units * 2 ^ exponent| := by
  have whole : (1 : Int) ≤ |(count : Int) - units| :=
    Int.one_le_abs (sub_ne_zero.2 (Nat.cast_injective.ne different))
  have cast : (1 : ℚ) ≤ |(count : ℚ) - units| := by exact_mod_cast whole
  have unit := two_zpow_pos exponent
  rw [← sub_mul, abs_mul, abs_of_pos unit]
  have scaled := mul_le_mul_of_nonneg_right cast unit.le
  rwa [one_mul] at scaled

namespace InUnits

variable (inUnits : InUnits value units exponent)

include inUnits

/-- Another number of the same units is at least half a unit away. -/
theorem half_le (different : count ≠ units) :
    (2 : ℚ) ^ exponent / 2 ≤ |(count : ℚ) * 2 ^ exponent - value| := by
  have unit := unit_le_abs_sub exponent different
  have near := inUnits.near
  have triangle := abs_sub_le ((count : ℚ) * 2 ^ exponent) value (units * 2 ^ exponent)
  rw [abs_sub_comm value] at triangle
  linarith

theorem near_le (count : Nat) :
    |units * 2 ^ exponent - value| ≤ |(count : ℚ) * 2 ^ exponent - value| := by
  by_cases same : count = units
  · rw [same]
  · exact inUnits.near.trans (inUnits.half_le same)

/-- A number below the normal range of the units is farther away than the power of two where it
begins. -/
theorem near_lt (finer : ¬(exponent = -1074 ∨ 2 ^ (exponent + 52) ≤ other)) :
    |units * 2 ^ exponent - value| < |other - value| := by
  rw [not_or, not_le] at finer
  have power : (2 : ℚ) ^ (exponent + 52) ≤ value := inUnits.reached.resolve_left finer.1
  have size : (2 : ℚ) ^ (exponent + 52) = (2 ^ 52 : Nat) * 2 ^ exponent := two_zpow_add exponent 52
  have nearer := inUnits.near_le (2 ^ 52)
  rw [← size, abs_of_nonpos (sub_nonpos.2 power)] at nearer
  rw [abs_of_neg (sub_neg.2 (finer.2.trans_le power))]
  linarith

end InUnits

/-! ## The nearest number -/

theorem roundsTo_roundOff (nonneg : 0 ≤ value) : RoundsTo value (roundOff value) := by
  rcases nonneg.eq_or_lt with rfl | positive
  · have zero : roundOff 0 = 0 :=
      roundOff_eq_self le_rfl (by exact_mod_cast representable_natCast (Nat.zero_le _))
    refine ⟨representable_roundOff 0, ?_, ?_⟩
    · intro other _
      rw [zero, sub_zero, abs_zero]
      exact abs_nonneg _
    · intro other _ different same
      rw [zero, sub_zero, sub_zero, abs_zero, abs_eq_zero] at same
      exact absurd (same.trans zero.symm) different
  · obtain ⟨units, exponent, inUnits⟩ := exists_inUnits positive
    refine ⟨representable_roundOff value, ?_, ?_⟩
    · intro other representable
      rw [inUnits.rounds]
      by_cases normal : exponent = -1074 ∨ 2 ^ (exponent + 52) ≤ other
      · obtain ⟨count, rfl⟩ := representable.exists_units normal
        exact inUnits.near_le count
      · exact (inUnits.near_lt normal).le
    · intro other representable different same
      rw [inUnits.rounds] at different same
      refine ⟨units, exponent, inUnits.rounds, ?_, inUnits.few, inUnits.many⟩
      by_cases normal : exponent = -1074 ∨ 2 ^ (exponent + 52) ≤ other
      · obtain ⟨count, rfl⟩ := representable.exists_units normal
        have notSame : count ≠ units := by
          rintro rfl
          exact different rfl
        exact inUnits.even (le_antisymm inUnits.near ((inUnits.half_le notSame).trans_eq same))
      · exact absurd same (inUnits.near_lt normal).ne'

end Tabletop.Binary
