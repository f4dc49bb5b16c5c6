import Tabletop.Proofs.Binary.Units

/-!
# The order of rounded numbers

Rounding keeps numbers of the format as they are and never takes a number across one of them, so it
keeps the order of numbers. A number that falls short of a number of the format by the last of its
53 bits or more stays below it when it is rounded.
-/

namespace Tabletop.Binary

/-! ## Rounded numbers -/

/-- The exponent of the units in which a quotient is rounded. -/
def unitExponent (num den : Nat) : Int :=
  max (-1074) (leadingExponent num den - 52)

/-- What a quotient is rounded to if no number is too great for the format. -/
def rounded (num den : Nat) : ℚ :=
  unitsOf num den (unitExponent num den) * 2 ^ unitExponent num den

/-- A number of the format, but perhaps too great for it. -/
def Representable (value : ℚ) : Prop :=
  ∃ (units : Nat) (exponent : Int),
    units ≤ 2 ^ 53 ∧ -1074 ≤ exponent ∧ value = units * 2 ^ exponent

theorem representable_natCast {n : Nat} (small : n ≤ 2 ^ 53) : Representable n := by
  refine ⟨n, 0, small, by decide, ?_⟩
  rw [zpow_zero, mul_one]

theorem representable_two_zpow {exponent : Int} (low : -1074 ≤ exponent) :
    Representable (2 ^ exponent) :=
  ⟨1, exponent, by norm_num, low, by rw [Nat.cast_one, one_mul]⟩

/-- A number of the format is a whole number of units unless it is below the normal range of
them. -/
theorem Representable.exists_units
    {value : ℚ} {exponent : Int} (representable : Representable value)
    (normal : exponent = -1074 ∨ 2 ^ (exponent + 52) ≤ value) :
    ∃ count : Nat, value = count * 2 ^ exponent := by
  obtain ⟨units, fine, few, low, rfl⟩ := representable
  by_cases coarse : exponent ≤ fine
  · obtain ⟨power, isPower⟩ := Int.eq_ofNat_of_zero_le (Int.sub_nonneg_of_le coarse)
    refine ⟨units * 2 ^ power, ?_⟩
    have same : fine = power + exponent := by omega
    rw [same, zpow_add₀ (by norm_num), zpow_natCast]
    push_cast
    ring
  · -- only `2 ^ 53` of the finer units reach the normal range, and then the units are twice as fine
    have reaches : (2 : ℚ) ^ (exponent + 52) ≤ units * 2 ^ fine :=
      normal.resolve_left (by omega)
    have size : (2 : ℚ) ^ (fine + 53) = (2 ^ 53 : Nat) * 2 ^ fine := two_zpow_add fine 53
    have atMost : (units : ℚ) * 2 ^ fine ≤ 2 ^ (fine + 53) := by
      rw [size]
      exact mul_le_mul_of_nonneg_right (Nat.cast_le.2 few) (two_zpow_pos fine).le
    have next : fine + 53 = exponent + 52 := by
      have := (zpow_le_zpow_iff_right₀ (by norm_num : (1 : ℚ) < 2)).1 (reaches.trans atMost)
      omega
    rw [next] at atMost
    exact ⟨2 ^ 52, (le_antisymm atMost reaches).trans (two_zpow_add exponent 52)⟩

section Rounded

variable {num den : Nat}

theorem unitExponent_low (num den : Nat) : -1074 ≤ unitExponent num den :=
  le_max_left _ _

theorem lt_unitExponent (numPositive : 0 < num) (denPositive : 0 < den) :
    (num : ℚ) < 2 ^ (unitExponent num den + 53) * den := by
  obtain ⟨-, high⟩ := leadingExponent_spec numPositive denPositive
  have step : (2 : ℚ) ^ (leadingExponent num den + 1) ≤ 2 ^ (unitExponent num den + 53) := by
    have := le_max_right (-1074) (leadingExponent num den - 52)
    exact zpow_le_zpow_right₀ (by norm_num) (by rw [unitExponent]; omega)
  exact high.trans_le (mul_le_mul_of_nonneg_right step (Nat.cast_nonneg den))

theorem unitExponent_cases (numPositive : 0 < num) (denPositive : 0 < den) :
    unitExponent num den = -1074 ∨ 2 ^ (unitExponent num den + 52) * den ≤ (num : ℚ) := by
  obtain ⟨low, -⟩ := leadingExponent_spec numPositive denPositive
  rw [unitExponent]
  rcases max_choice (-1074) (leadingExponent num den - 52) with least | normal
  · exact Or.inl least
  · right
    rw [normal, sub_add_cancel]
    exact low

/-- A quotient in the normal range is rounded to at least `2 ^ 52` units. -/
theorem many_units (numPositive : 0 < num) (positive : 0 < den) :
    unitExponent num den = -1074 ∨ 2 ^ 52 ≤ unitsOf num den (unitExponent num den) := by
  refine (unitExponent_cases numPositive positive).imp_right fun reached => ?_
  have size :
      (2 : ℚ) ^ (unitExponent num den + 52) = (2 ^ 52 : Nat) * 2 ^ unitExponent num den :=
    two_zpow_add _ 52
  apply le_unitsOf positive
  rwa [← mul_assoc, ← size]

theorem rounded_zero (positive : 0 < den) : rounded 0 den = 0 := by
  have none : unitsOf 0 den (unitExponent 0 den) = 0 := by
    apply Nat.le_zero.1
    apply unitsOf_le positive
    simp
  rw [rounded, none, Nat.cast_zero, zero_mul]

theorem eq_of_nearest
    {negative sign : Bool} {units : Nat} {exponent : Int}
    (found : nearest negative num den = .finite sign units exponent) :
    sign = negative ∧
      (num = 0 ∧ units = 0 ∨
        0 < num ∧ units = unitsOf num den (unitExponent num den) ∧
          exponent = unitExponent num den) := by
  by_cases empty : num = 0
  · rw [nearest, if_pos empty] at found
    cases found
    exact ⟨rfl, Or.inl ⟨empty, rfl⟩⟩
  · rw [nearest, if_neg empty] at found
    simp only at found
    split at found
    · cases found
    · cases found
      exact ⟨rfl, Or.inr ⟨Nat.pos_of_ne_zero empty, rfl, rfl⟩⟩

theorem rounded_of_nearest
    {negative sign : Bool} {units : Nat} {exponent : Int} (positive : 0 < den)
    (found : nearest negative num den = .finite sign units exponent) :
    (units : ℚ) * 2 ^ exponent = rounded num den := by
  obtain ⟨-, ⟨rfl, rfl⟩ | ⟨-, rfl, rfl⟩⟩ := eq_of_nearest found
  · rw [rounded_zero positive, Nat.cast_zero, zero_mul]
  · rfl

theorem rounded_nonneg (num den : Nat) : 0 ≤ rounded num den :=
  mul_nonneg (Nat.cast_nonneg _) (two_zpow_pos _).le

/-- Nothing is rounded down across a number of the format. -/
theorem le_rounded
    {value : ℚ} (positive : 0 < den) (representable : Representable value)
    (above : value * den ≤ num) :
    value ≤ rounded num den := by
  by_cases empty : num = 0
  · rw [empty, rounded_zero positive]
    rw [empty, Nat.cast_zero] at above
    by_contra more
    exact absurd above (not_le.2 (mul_pos (not_le.1 more) (Nat.cast_pos.2 positive)))
  · have numPositive := Nat.pos_of_ne_zero empty
    have many := many_units numPositive positive
    rw [rounded]
    generalize unitExponent num den = exponent at many ⊢
    by_cases normal : exponent = -1074 ∨ 2 ^ (exponent + 52) ≤ value
    · obtain ⟨count, rfl⟩ := representable.exists_units normal
      have few : count ≤ unitsOf num den exponent := by
        apply le_unitsOf positive
        rw [← mul_assoc]
        exact above
      exact mul_le_mul_of_nonneg_right (Nat.cast_le.2 few) (two_zpow_pos exponent).le
    · -- below the normal range of the units a power of two lies in between
      rw [not_or, not_le] at normal
      have size : (2 : ℚ) ^ (exponent + 52) = (2 ^ 52 : Nat) * 2 ^ exponent :=
        two_zpow_add exponent 52
      have between : (2 : ℚ) ^ (exponent + 52) ≤ unitsOf num den exponent * 2 ^ exponent := by
        rw [size]
        exact mul_le_mul_of_nonneg_right (Nat.cast_le.2 (many.resolve_left normal.1))
          (two_zpow_pos exponent).le
      exact normal.2.le.trans between

/-- Nothing is rounded up across a number of the format. -/
theorem rounded_le
    {value : ℚ} (positive : 0 < den) (representable : Representable value)
    (below : (num : ℚ) ≤ value * den) :
    rounded num den ≤ value := by
  by_cases empty : num = 0
  · rw [empty, rounded_zero positive]
    obtain ⟨units, exponent, -, -, rfl⟩ := representable
    exact mul_nonneg (Nat.cast_nonneg _) (two_zpow_pos _).le
  · have numPositive := Nat.pos_of_ne_zero empty
    have denPositive : (0 : ℚ) < den := Nat.cast_pos.2 positive
    rw [rounded]
    have reached := unitExponent_cases numPositive positive
    generalize unitExponent num den = exponent at reached ⊢
    have normal : exponent = -1074 ∨ 2 ^ (exponent + 52) ≤ value :=
      reached.imp_right fun low => le_of_mul_le_mul_right (low.trans below) denPositive
    obtain ⟨count, rfl⟩ := representable.exists_units normal
    have few : unitsOf num den exponent ≤ count := by
      apply unitsOf_le positive
      rw [← mul_assoc]
      exact below
    exact mul_le_mul_of_nonneg_right (Nat.cast_le.2 few) (two_zpow_pos exponent).le

theorem units_le (numPositive : 0 < num) (positive : 0 < den) :
    unitsOf num den (unitExponent num den) ≤ 2 ^ 53 := by
  have size :
      (2 : ℚ) ^ (unitExponent num den + 53) = (2 ^ 53 : Nat) * 2 ^ unitExponent num den :=
    two_zpow_add _ 53
  apply unitsOf_le positive
  rw [← mul_assoc, ← size]
  exact (lt_unitExponent numPositive positive).le

theorem units_le_of_nearest
    {negative sign : Bool} {units : Nat} {exponent : Int} (positive : 0 < den)
    (found : nearest negative num den = .finite sign units exponent) : units ≤ 2 ^ 53 := by
  obtain ⟨-, ⟨-, rfl⟩ | ⟨some, rfl, -⟩⟩ := eq_of_nearest found
  · exact Nat.zero_le _
  · exact units_le some positive

theorem representable_rounded (num : Nat) (positive : 0 < den) :
    Representable (rounded num den) := by
  by_cases empty : num = 0
  · rw [empty, rounded_zero positive]
    exact_mod_cast representable_natCast (Nat.zero_le _)
  · exact ⟨_, _, units_le (Nat.pos_of_ne_zero empty) positive, unitExponent_low num den, rfl⟩

theorem unitExponent_le
    {exponent : Int} (numPositive : 0 < num) (positive : 0 < den) (low : -1074 ≤ exponent)
    (below : (num : ℚ) < 2 ^ (exponent + 53) * den) : unitExponent num den ≤ exponent := by
  by_contra greater
  have reached : 2 ^ (unitExponent num den + 52) * den ≤ (num : ℚ) :=
    (unitExponent_cases numPositive positive).resolve_left (by omega)
  have step : (2 : ℚ) ^ (exponent + 53) ≤ 2 ^ (unitExponent num den + 52) :=
    zpow_le_zpow_right₀ (by norm_num) (by omega)
  have above : 2 ^ (exponent + 53) * den ≤ (num : ℚ) :=
    (mul_le_mul_of_nonneg_right step (Nat.cast_nonneg den)).trans reached
  exact absurd below (not_lt.2 above)

/-- The units of a number are no greater than those of a greater number. -/
theorem unitExponent_mono
    {other otherDen : Nat} (numPositive : 0 < num) (otherNumPositive : 0 < other)
    (positive : 0 < den) (otherPositive : 0 < otherDen)
    (le : (num : ℚ) * otherDen ≤ other * den) :
    unitExponent num den ≤ unitExponent other otherDen := by
  apply unitExponent_le numPositive positive (unitExponent_low other otherDen)
  have denPositive : (0 : ℚ) < den := Nat.cast_pos.2 positive
  have high := lt_unitExponent otherNumPositive otherPositive
  have scaled :
      (num : ℚ) * otherDen < 2 ^ (unitExponent other otherDen + 53) * den * otherDen := by
    calc
      (num : ℚ) * otherDen ≤ other * den := le
      _ < 2 ^ (unitExponent other otherDen + 53) * otherDen * den :=
        mul_lt_mul_of_pos_right high denPositive
      _ = 2 ^ (unitExponent other otherDen + 53) * den * otherDen := by ring
  exact lt_of_mul_lt_mul_right scaled (Nat.cast_nonneg otherDen)

/-- Rounding keeps the order of numbers. -/
theorem rounded_mono
    {other otherDen : Nat} (positive : 0 < den) (otherPositive : 0 < otherDen)
    (le : (num : ℚ) * otherDen ≤ other * den) :
    rounded num den ≤ rounded other otherDen := by
  by_cases empty : num = 0
  · rw [empty, rounded_zero positive]
    exact rounded_nonneg other otherDen
  have numPositive := Nat.pos_of_ne_zero empty
  have otherNumPositive : 0 < other := by
    have product : (0 : ℚ) < num * otherDen :=
      mul_pos (Nat.cast_pos.2 numPositive) (Nat.cast_pos.2 otherPositive)
    exact Nat.cast_pos.1 (pos_of_mul_pos_left (product.trans_le le) (Nat.cast_nonneg den))
  have finer := unitExponent_mono numPositive otherNumPositive positive otherPositive le
  by_cases sameUnit : unitExponent num den = unitExponent other otherDen
  · rw [rounded, rounded, sameUnit]
    have fewer := unitsOf_mono (unitExponent other otherDen) positive otherPositive le
    exact mul_le_mul_of_nonneg_right (Nat.cast_le.2 fewer) (two_zpow_pos _).le
  · -- numbers with different units have a power of two between them
    have low := unitExponent_low num den
    have power : Representable (2 ^ (unitExponent other otherDen + 52)) :=
      representable_two_zpow (by omega)
    have step : (2 : ℚ) ^ (unitExponent num den + 53) ≤ 2 ^ (unitExponent other otherDen + 52) :=
      zpow_le_zpow_right₀ (by norm_num) (by omega)
    have below : (num : ℚ) ≤ 2 ^ (unitExponent other otherDen + 52) * den :=
      (lt_unitExponent numPositive positive).le.trans
        (mul_le_mul_of_nonneg_right step (Nat.cast_nonneg den))
    have above : 2 ^ (unitExponent other otherDen + 52) * otherDen ≤ (other : ℚ) :=
      (unitExponent_cases otherNumPositive otherPositive).resolve_left (by omega)
    exact (rounded_le positive power below).trans (le_rounded otherPositive power above)

/-- What is more than half a unit short of a number of units is rounded to less in units of that
size and in finer ones. -/
theorem unitsOf_mul_lt
    {units : Nat} {fine exponent : Int} (positive : 0 < den) (some : 0 < units)
    (finer : fine ≤ exponent)
    (short : 2 * (num : ℚ) < (2 * units - 1) * (2 ^ exponent * den)) :
    (unitsOf num den fine : ℚ) * 2 ^ fine < units * 2 ^ exponent := by
  rcases Int.lt_or_eq_of_le finer with strictly | rfl
  · -- in finer units the half that is missing is a whole number of them
    obtain ⟨power, isPower⟩ := Int.eq_ofNat_of_zero_le (show 0 ≤ exponent - 1 - fine by omega)
    have same : (2 : ℚ) ^ exponent = 2 * (2 ^ power * 2 ^ fine) := by
      have split : exponent = 1 + (power + fine) := by omega
      rw [split, zpow_add₀ (by norm_num), zpow_add₀ (by norm_num), zpow_one, zpow_natCast]
    have cast : (((2 * units - 1) * 2 ^ power : Nat) : ℚ) = (2 * units - 1) * 2 ^ power := by
      rw [Nat.cast_mul, Nat.cast_sub (by omega)]
      push_cast
      ring
    have counted : unitsOf num den fine ≤ (2 * units - 1) * 2 ^ power := by
      apply unitsOf_le positive
      rw [cast]
      rw [same] at short
      linarith
    have scaled :=
      mul_le_mul_of_nonneg_right (Nat.cast_le (α := ℚ).2 counted) (two_zpow_pos fine).le
    have fineUnit := mul_pos (pow_pos (by norm_num : (0 : ℚ) < 2) power) (two_zpow_pos fine)
    rw [cast] at scaled
    rw [same]
    linarith
  · have counted : unitsOf num den fine ≤ units - 1 := by
      apply unitsOf_le_of_lt_half positive
      have cast : ((units - 1 : Nat) : ℚ) = units - 1 := by
        rw [Nat.cast_sub (by omega), Nat.cast_one]
      rw [cast]
      linarith
    have strictly : unitsOf num den fine < units := by omega
    exact mul_lt_mul_of_pos_right (Nat.cast_lt.2 strictly) (two_zpow_pos fine)

/-- A number of the format from which at least its last bit is taken stays below it when it is
rounded. -/
theorem rounded_lt
    {units : Nat} {exponent : Int} (positive : 0 < den)
    (many : 2 ^ 52 < units) (few : units ≤ 2 ^ 53) (low : -1074 ≤ exponent)
    (below : (num : ℚ) * 2 ^ 53 ≤ (2 ^ 53 - 1) * (units * 2 ^ exponent) * den) :
    rounded num den < units * 2 ^ exponent := by
  have unit := unit_pos exponent positive
  have some : 0 < units := by omega
  have manyCast : (2 : ℚ) ^ 52 < units := by exact_mod_cast many
  have fewCast : (units : ℚ) ≤ 2 ^ 53 := by exact_mod_cast few
  -- the last bit is more than half a unit
  have short : 2 * (num : ℚ) < (2 * units - 1) * (2 ^ exponent * den) := by
    have bits : (2 ^ 53 - 1) * (units : ℚ) < (units - 1 / 2) * 2 ^ 53 := by linarith
    have scaled := mul_lt_mul_of_pos_right bits unit
    linarith
  rcases Nat.eq_zero_or_pos num with rfl | numPositive
  · rw [rounded_zero positive]
    exact mul_pos (Nat.cast_pos.2 some) (two_zpow_pos exponent)
  · have finer : unitExponent num den ≤ exponent := by
      have size : (2 : ℚ) ^ (exponent + 53) = (2 ^ 53 : Nat) * 2 ^ exponent :=
        two_zpow_add exponent 53
      have scaled := mul_le_mul_of_nonneg_right fewCast unit.le
      apply unitExponent_le numPositive positive low
      rw [size, Nat.cast_pow, Nat.cast_ofNat]
      linarith
    exact unitsOf_mul_lt positive some finer short

end Rounded

/-! ## Rounded values -/

/-- The number of the format nearest to a value that is at least nought, a tie going to the even
one; no value is too great. -/
def roundOff (value : ℚ) : ℚ :=
  rounded value.num.toNat value.den

section RoundOff

variable {value bound : ℚ}

theorem cast_num_toNat (nonneg : 0 ≤ value) : (value.num.toNat : ℚ) = value * value.den := by
  have whole : ((value.num.toNat : Int) : ℚ) = value.num := by
    rw [Int.toNat_of_nonneg (Rat.num_nonneg.2 nonneg)]
  rw [Rat.mul_den_eq_num, ← whole]
  rfl

/-- Rounding depends on the value of a quotient alone. -/
theorem rounded_eq_roundOff
    {num den : Nat} (positive : 0 < den) (same : (num : ℚ) = value * den) :
    rounded num den = roundOff value := by
  have denPositive : (0 : ℚ) < den := Nat.cast_pos.2 positive
  have nonneg : 0 ≤ value := by
    by_contra negative
    have below := mul_neg_of_neg_of_pos (not_le.1 negative) denPositive
    rw [← same] at below
    exact absurd below (not_lt.2 (Nat.cast_nonneg num))
  have cross : (num : ℚ) * value.den = value.num.toNat * den := by
    rw [same, cast_num_toNat nonneg]
    ring
  exact le_antisymm (rounded_mono positive value.den_pos cross.le)
    (rounded_mono value.den_pos positive cross.ge)

theorem roundOff_nonneg (value : ℚ) : 0 ≤ roundOff value :=
  rounded_nonneg _ _

theorem representable_roundOff (value : ℚ) : Representable (roundOff value) :=
  representable_rounded _ value.den_pos

theorem roundOff_le
    (nonneg : 0 ≤ value) (representable : Representable bound) (below : value ≤ bound) :
    roundOff value ≤ bound := by
  apply rounded_le value.den_pos representable
  rw [cast_num_toNat nonneg]
  exact mul_le_mul_of_nonneg_right below (Nat.cast_nonneg _)

theorem le_roundOff
    (nonneg : 0 ≤ value) (representable : Representable bound) (above : bound ≤ value) :
    bound ≤ roundOff value := by
  apply le_rounded value.den_pos representable
  rw [cast_num_toNat nonneg]
  exact mul_le_mul_of_nonneg_right above (Nat.cast_nonneg _)

theorem roundOff_eq_self (nonneg : 0 ≤ value) (representable : Representable value) :
    roundOff value = value :=
  le_antisymm (roundOff_le nonneg representable le_rfl) (le_roundOff nonneg representable le_rfl)

theorem roundOff_mono (nonneg : 0 ≤ value) (le : value ≤ bound) :
    roundOff value ≤ roundOff bound := by
  apply rounded_mono value.den_pos bound.den_pos
  rw [cast_num_toNat nonneg, cast_num_toNat (nonneg.trans le)]
  calc
    value * value.den * bound.den = value * (value.den * bound.den) := by ring
    _ ≤ bound * (value.den * bound.den) :=
      mul_le_mul_of_nonneg_right le (mul_nonneg (Nat.cast_nonneg _) (Nat.cast_nonneg _))
    _ = bound * bound.den * value.den := by ring

/-- A normal number of the format from which at least its last bit is taken stays below it when it
is rounded. -/
theorem roundOff_lt
    {units : Nat} {exponent : Int} (nonneg : 0 ≤ value)
    (many : 2 ^ 52 ≤ units) (few : units ≤ 2 ^ 53) (low : -1074 < exponent)
    (below : value * 2 ^ 53 ≤ (2 ^ 53 - 1) * (units * 2 ^ exponent)) :
    roundOff value < units * 2 ^ exponent := by
  have counted (size : ℚ) (same : units * 2 ^ exponent = size) :
      (value.num.toNat : ℚ) * 2 ^ 53 ≤ (2 ^ 53 - 1) * size * value.den := by
    rw [cast_num_toNat nonneg, ← same]
    have scaled := mul_le_mul_of_nonneg_right below (Nat.cast_nonneg (α := ℚ) value.den)
    linarith
  rcases Nat.lt_or_eq_of_le many with more | rfl
  · exact rounded_lt value.den_pos more few low.le (counted _ rfl)
  · -- a power of two has twice as many units of half the size
    have same : ((2 ^ 52 : Nat) : ℚ) * 2 ^ exponent = (2 ^ 53 : Nat) * 2 ^ (exponent - 1) := by
      rw [zpow_sub_one₀ (by norm_num)]
      push_cast
      ring
    rw [same]
    exact rounded_lt value.den_pos (by norm_num) le_rfl (by omega) (counted _ same)

end RoundOff

end Tabletop.Binary
