import Mathlib.Data.Rat.Floor
import Tabletop.Proofs.Binary.Nearest
import Tabletop.Proofs.Rolling

/-!
# The faces of a die

A draw of 53 bits gives a face between one and the number of sides, on every die whose sides fit the
binary format, although the sides are rounded and the product with the draw is rounded once more. A
greater draw gives no lesser face. Up to `2 ^ 53` sides the greatest draw gives the highest face; a
die with more sides may have faces that no draw gives.
-/

namespace Tabletop

open Binary

/-- The draw that 53 bits make, a multiple of `2 ^ (-53)`. -/
def Draw.ofBits (bits : Nat) : Draw :=
  .finite false bits (-53)

/-! ## Numbers of the format -/

namespace Binary

theorem truncate?_eq_floor (units : Nat) (exponent : Int) :
    (finite false units exponent).truncate? = some ⌊(units * 2 ^ exponent : ℚ)⌋ := by
  obtain ⟨positive, equal⟩ := fraction_spec units exponent
  have denPositive : (0 : ℚ) < (fraction units exponent).2 := Nat.cast_pos.2 positive
  have value :
      (units * 2 ^ exponent : ℚ) = (fraction units exponent).1 / (fraction units exponent).2 :=
    (eq_div_iff denPositive.ne').2 equal.symm
  rw [value, Rat.floor_natCast_div_natCast]
  rfl

theorem truncate?_le_zero (units : Nat) (exponent : Int) :
    (finite true units exponent).truncate?.getD 0 ≤ 0 :=
  Int.neg_nonpos_of_nonneg (Int.natCast_nonneg _)

/-- A product that is a number of the format is a rounded quotient. -/
theorem exists_nearest_of_mul
    {one other : Binary} {negative : Bool} {units : Nat} {exponent : Int}
    (product : one.mul other = .finite negative units exponent) :
    ∃ sign num den, 0 < den ∧ nearest sign num den = .finite negative units exponent := by
  cases one with
  | finite sign part partExponent =>
      cases other with
      | finite otherSign otherPart otherExponent =>
          obtain ⟨positive, -⟩ := fraction_spec (part * otherPart) (partExponent + otherExponent)
          exact ⟨_, _, _, positive, product⟩
      | infinite otherSign =>
          rw [mul] at product
          split at product <;> cases product
      | undefined => cases product
  | infinite sign =>
      cases other with
      | finite otherSign otherPart otherExponent =>
          rw [mul] at product
          split at product <;> cases product
      | infinite otherSign => cases product
      | undefined => cases product
  | undefined => cases product

theorem units_le_of_mul
    {one other : Binary} {negative : Bool} {units : Nat} {exponent : Int}
    (product : one.mul other = .finite negative units exponent) : units ≤ 2 ^ 53 := by
  obtain ⟨sign, num, den, positive, found⟩ := exists_nearest_of_mul product
  exact units_le_of_nearest positive found

/-- The whole part of a number of the format is even if it is beyond `2 ^ 53`. -/
theorem floor_even
    {units : Nat} {exponent : Int} (few : units ≤ 2 ^ 53)
    (large : 2 ^ 53 < ⌊(units * 2 ^ exponent : ℚ)⌋) :
    ⌊(units * 2 ^ exponent : ℚ)⌋ % 2 = 0 := by
  by_cases fine : exponent ≤ 0
  · have unit : (2 : ℚ) ^ exponent ≤ 1 := zpow_le_one_of_nonpos₀ (by norm_num) fine
    have castFew : (units : ℚ) ≤ 2 ^ 53 := by exact_mod_cast few
    have product : (units * 2 ^ exponent : ℚ) ≤ 2 ^ 53 :=
      (mul_le_of_le_one_right (Nat.cast_nonneg units) unit).trans castFew
    have reached := (Int.cast_lt (R := ℚ).2 large).trans_le (Int.floor_le _)
    push_cast at reached
    exact absurd reached (not_lt.2 product)
  · obtain ⟨power, rfl⟩ : ∃ power : Nat, exponent = power + 1 :=
      ⟨(exponent - 1).toNat, by omega⟩
    have whole : (units * 2 ^ ((power : Int) + 1) : ℚ) = ((units * 2 ^ power * 2 : Int) : ℚ) := by
      rw [zpow_add_one₀ (by norm_num), zpow_natCast]
      push_cast
      ring
    rw [whole, Int.floor_intCast]
    exact Int.mul_emod_left _ 2

/-- What is known of the sides of a die that are rounded to a finite number. -/
theorem exists_roundOff_sides
    {sides : Int} (positive : 0 < sides) (fits : FitsBinary sides) :
    ∃ (units : Nat) (exponent : Int),
      ofInt sides = .finite false units exponent ∧
        roundOff sides = units * 2 ^ exponent ∧
          2 ^ 52 ≤ units ∧ units ≤ 2 ^ 53 ∧ -1074 < exponent := by
  obtain ⟨negative, units, exponent, found⟩ := fits.exists_finite
  have nonzero : sides.natAbs ≠ 0 := Int.natAbs_ne_zero.2 positive.ne'
  obtain ⟨leading, whole⟩ := exists_fits nonzero found
  have plus : negative = false := by
    rw [(eq_of_nearest found).1]
    exact decide_eq_false (not_lt.2 positive.le)
  subst plus
  have size : ((sides.natAbs : Nat) : ℚ) = sides * (1 : Nat) := by
    rw [Nat.cast_natAbs, abs_of_pos positive, Nat.cast_one, mul_one]
  have value : roundOff sides = units * 2 ^ exponent := by
    rw [← rounded_eq_roundOff Nat.one_pos size]
    exact (rounded_of_nearest Nat.one_pos found).symm
  have leadingNonneg : 0 ≤ leading := by
    have one : (2 : ℚ) ^ (0 : Int) ≤ sides.natAbs := by
      rw [zpow_zero]
      exact_mod_cast Nat.pos_of_ne_zero nonzero
    have := (zpow_lt_zpow_iff_right₀ (by norm_num : (1 : ℚ) < 2)).1 (one.trans_lt whole.high)
    omega
  have isExponent := whole.isExponent
  exact ⟨units, exponent, found, value, whole.many, whole.few, by omega⟩

end Binary

theorem fitsBinary_of_le {sides : Int} (positive : 0 < sides) (few : sides ≤ 2 ^ 53) :
    FitsBinary sides := by
  have small : sides.natAbs ≤ 2 ^ 53 := by omega
  have bounded : (sides.natAbs : ℚ) ≤ greatest * (1 : Nat) := by
    have castSmall : (sides.natAbs : ℚ) ≤ 2 ^ 53 := by exact_mod_cast small
    have unit : (2 : ℚ) ≤ 2 ^ (971 : Int) := by
      have power := zpow_le_zpow_right₀ (by norm_num : (1 : ℚ) ≤ 2) (by norm_num : (1 : Int) ≤ 971)
      rwa [zpow_one] at power
    rw [greatest, Nat.cast_one, mul_one]
    generalize (2 : ℚ) ^ (971 : Int) = scale at unit ⊢
    norm_num at castSmall ⊢
    linarith
  obtain ⟨units, exponent, finite⟩ :=
    nearest_finite (decide (sides < 0)) Nat.one_pos bounded
  rw [FitsBinary, ofInt, finite]
  rfl

namespace Draw

variable {sides : Int} {bits : Nat}

/-! ## Faces -/

/-- The face of a die that a draw is meant to give: the rounded product of the draw and the rounded
sides, without its fraction, plus one. -/
def faceOf (sides : Int) (bits : Nat) : Int :=
  ⌊roundOff (bits / 2 ^ 53 * roundOff sides)⌋ + 1

theorem face_ofBits
    (positive : 0 < sides) (fits : FitsBinary sides) (small : bits < 2 ^ 53) :
    (Draw.ofBits bits).face sides = .ok (faceOf sides bits) := by
  obtain ⟨units, exponent, found, size, -, -, -⟩ := exists_roundOff_sides positive fits
  have belowOne : (fraction bits (-53)).1 < (fraction bits (-53)).2 := small
  obtain ⟨product, unit, multiplied⟩ := nearest_mul_finite false found belowOne
  obtain ⟨bottomPositive, top⟩ := fraction_spec (bits * units) (-53 + exponent)
  have value :
      (((bits * units : Nat) : ℚ) * 2 ^ (-53 + exponent)) = bits / 2 ^ 53 * roundOff sides := by
    rw [size, zpow_add₀ (by norm_num), Nat.cast_mul, zpow_neg]
    norm_num
    ring
  rw [value] at top
  have rounds : (product : ℚ) * 2 ^ unit = roundOff (bits / 2 ^ 53 * roundOff sides) := by
    rw [← rounded_eq_roundOff bottomPositive top]
    exact rounded_of_nearest bottomPositive multiplied
  rw [face, found, Draw.ofBits]
  simp only
  rw [multiplied]
  simp only [bne_self_eq_false, truncate?_eq_floor, rounds, Option.getD_some]
  rfl

theorem one_le_faceOf (sides : Int) (bits : Nat) : 1 ≤ faceOf sides bits := by
  have nonneg : 0 ≤ ⌊roundOff (bits / 2 ^ 53 * roundOff sides)⌋ :=
    Int.floor_nonneg.2 (roundOff_nonneg _)
  rw [faceOf]
  omega

theorem product_nonneg (sides : Int) (bits : Nat) : (0 : ℚ) ≤ bits / 2 ^ 53 * roundOff sides :=
  mul_nonneg (div_nonneg (Nat.cast_nonneg bits) (by norm_num)) (roundOff_nonneg _)

theorem faceOf_mono (sides : Int) {more : Nat} (fewer : bits ≤ more) :
    faceOf sides bits ≤ faceOf sides more := by
  have quotient : (bits : ℚ) / 2 ^ 53 ≤ more / 2 ^ 53 :=
    div_le_div_of_nonneg_right (Nat.cast_le.2 fewer) (by norm_num)
  have product := mul_le_mul_of_nonneg_right quotient (roundOff_nonneg sides)
  have floors := Int.floor_mono (roundOff_mono (product_nonneg sides bits) product)
  rw [faceOf, faceOf]
  omega

/-- No face is beyond the sides. -/
theorem faceOf_le
    (positive : 0 < sides) (fits : FitsBinary sides) (small : bits < 2 ^ 53) :
    faceOf sides bits ≤ sides := by
  obtain ⟨units, exponent, -, size, many, few, low⟩ := exists_roundOff_sides positive fits
  have castSmall : (bits : ℚ) ≤ 2 ^ 53 - 1 := by
    have last : bits ≤ 2 ^ 53 - 1 := by omega
    have := Nat.cast_le (α := ℚ).2 last
    norm_num at this ⊢
    exact this
  -- the rounded product stays below the rounded sides
  have short : roundOff (bits / 2 ^ 53 * roundOff sides) < roundOff sides := by
    have below : bits / 2 ^ 53 * roundOff sides * 2 ^ 53 ≤ (2 ^ 53 - 1) * roundOff sides := by
      have scaled := mul_le_mul_of_nonneg_right castSmall (roundOff_nonneg sides)
      linarith
    rw [size] at below ⊢
    apply roundOff_lt _ many few low below
    rw [← size]
    exact product_nonneg sides bits
  -- if it reached the sides, these would not be rounded beyond it
  have belowSides : roundOff (bits / 2 ^ 53 * roundOff sides) < sides := by
    by_contra reaches
    have nonneg : (0 : ℚ) ≤ sides := by exact_mod_cast positive.le
    have beyond := roundOff_le nonneg (representable_roundOff _) (not_lt.1 reaches)
    exact absurd short (not_lt.2 beyond)
  have floor := Int.floor_lt.2 belowSides
  rw [faceOf]
  omega

/-- Up to `2 ^ 53` sides the greatest draw gives the highest face. -/
theorem faceOf_greatest
    (positive : 0 < sides) (fits : FitsBinary sides) (few : sides ≤ 2 ^ 53) :
    faceOf sides (2 ^ 53 - 1) = sides := by
  apply le_antisymm (faceOf_le positive fits (by norm_num))
  obtain ⟨count, rfl⟩ := Int.eq_ofNat_of_zero_le positive.le
  have countPositive : 1 ≤ count := by omega
  have small : count ≤ 2 ^ 53 := by exact_mod_cast few
  have exact : roundOff ((count : Int) : ℚ) = count := by
    rw [Int.cast_natCast]
    exact roundOff_eq_self (Nat.cast_nonneg count) (representable_natCast small)
  have reaches :
      ((count - 1 : Nat) : ℚ) ≤
        ((2 ^ 53 - 1 : Nat) : ℚ) / 2 ^ 53 * roundOff ((count : Int) : ℚ) := by
    have castSmall : (count : ℚ) ≤ 9007199254740992 := by exact_mod_cast small
    rw [exact, Nat.cast_sub countPositive]
    norm_num
    linarith
  have whole := le_roundOff (product_nonneg _ _)
    (representable_natCast (n := count - 1) (by omega)) reaches
  have floor : ((count - 1 : Nat) : Int) ≤
      ⌊roundOff (((2 ^ 53 - 1 : Nat) : ℚ) / 2 ^ 53 * roundOff ((count : Int) : ℚ))⌋ :=
    Int.le_floor.2 (by exact_mod_cast whole)
  rw [faceOf]
  omega

/-- The least draw gives a one. -/
theorem faceOf_least (sides : Int) : faceOf sides 0 = 1 := by
  have zero : roundOff 0 = 0 :=
    roundOff_eq_self le_rfl (by exact_mod_cast representable_natCast (Nat.zero_le _))
  rw [faceOf, Nat.cast_zero, zero_div, zero_mul, zero, Int.floor_zero, zero_add]

/-- Some draw gives a one. -/
theorem exists_lowest (positive : 0 < sides) (fits : FitsBinary sides) :
    ∃ draw : Draw, draw.face sides = .ok 1 := by
  refine ⟨Draw.ofBits 0, ?_⟩
  rw [face_ofBits positive fits (by norm_num), faceOf_least]

/-- Some draw gives the highest face of a die with up to `2 ^ 53` sides. -/
theorem exists_highest (positive : 0 < sides) (few : sides ≤ 2 ^ 53) :
    ∃ draw : Draw, draw.face sides = .ok sides := by
  have fits := fitsBinary_of_le positive few
  refine ⟨Draw.ofBits (2 ^ 53 - 1), ?_⟩
  rw [face_ofBits positive fits (by norm_num), faceOf_greatest positive fits few]

/-- A face is made of the whole part of a product that is a number of the format. -/
theorem exists_product_of_face
    {draw : Draw} {face : Int} (shows : draw.face sides = .ok face) :
    ∃ size negative units exponent,
      draw.mul size = .finite negative units exponent ∧
        face = (finite negative units exponent).truncate?.getD 0 + 1 := by
  rw [Draw.face] at shows
  split at shows
  · split at shows
    · cases shows
    · cases shows
    · rename_i notInfinite notUndefined
      cases product : draw.mul (.finite _ _ _) with
      | finite negative units exponent =>
          rw [product] at shows
          exact ⟨_, negative, units, exponent, product, (Except.ok.inj shows).symm⟩
      | infinite negative => exact absurd product (notInfinite negative)
      | undefined => exact absurd product notUndefined
  · cases shows

/-- Beyond `2 ^ 53` the whole numbers of the format are even, so the faces after them are odd. -/
theorem face_odd
    {draw : Draw} {face : Int} (shows : draw.face sides = .ok face) (large : 2 ^ 53 + 1 < face) :
    face % 2 = 1 := by
  obtain ⟨size, negative, units, exponent, product, rfl⟩ := exists_product_of_face shows
  cases negative with
  | true =>
      have small := truncate?_le_zero units exponent
      omega
  | false =>
      rw [truncate?_eq_floor, Option.getD_some] at large ⊢
      have beyond : 2 ^ 53 < ⌊(units * 2 ^ exponent : ℚ)⌋ := by omega
      have even := floor_even (units_le_of_mul product) beyond
      omega

end Draw

/-- On a die whose sides fit the format each draw of 53 bits gives a face between one and the number
of sides: the whole part of a product, plus one. The product is that of the draw with the rounded
sides, rounded in its turn, both to the nearest number of 53 bits and to the even one of two that
are equally near. A greater draw gives no lesser face. -/
theorem faces_stay_on_the_die {sides : Int} (positive : 1 ≤ sides) (fits : FitsBinary sides) :
    ∃ face : Nat → Int,
      (∀ bits < 2 ^ 53,
        (∀ tray : Tray, tray.source.next.1 = Draw.ofBits bits →
          rollDie sides tray = (.ok (face bits), ⟨tray.source.next.2, tray.taken + 1⟩)) ∧
        (∃ size product : ℚ, RoundsTo sides size ∧ RoundsTo (bits / 2 ^ 53 * size) product ∧
          face bits = ⌊product⌋ + 1) ∧
        1 ≤ face bits ∧ face bits ≤ sides) ∧
      ∀ fewer more, fewer ≤ more → more < 2 ^ 53 → face fewer ≤ face more := by
  have some : 0 < sides := Int.lt_of_lt_of_le Int.zero_lt_one positive
  have nonneg : (0 : ℚ) ≤ sides := by exact_mod_cast some.le
  refine ⟨Draw.faceOf sides, ?_, fun fewer more less _ => Draw.faceOf_mono sides less⟩
  intro bits small
  refine ⟨?_, ?_, Draw.one_le_faceOf sides bits, Draw.faceOf_le some fits small⟩
  · intro tray isNext
    rw [rollDie, Rolling.bind_run]
    simp only [Rolling.draw, Rolling.lift, isNext, Draw.face_ofBits some fits small]
  · exact ⟨_, _, roundsTo_roundOff nonneg, roundsTo_roundOff (Draw.product_nonneg sides bits), rfl⟩

/-- The greatest draw on a die with `2 ^ 53 + 3` sides, which are rounded up. -/
theorem faces_stay_on_the_die_beyond_the_exact_numbers :
    let tray : Tray := ⟨Source.ofList [Draw.ofBits 9007199254740991], 0⟩
    (1 : Int) ≤ 9007199254740995 ∧ FitsBinary 9007199254740995 ∧
      (∃ face, (rollDie 9007199254740995 tray).1 = .ok face ∧ 1 ≤ face ∧
        face ≤ 9007199254740995) ∧
      (rollDie 9007199254740995 tray).1 = .ok 9007199254740995 := by
  intro tray
  have positive : (1 : Int) ≤ 9007199254740995 := by decide
  have fits : FitsBinary 9007199254740995 := by decide +kernel
  obtain ⟨face, faces, -⟩ := faces_stay_on_the_die positive fits
  obtain ⟨rolls, -, low, high⟩ := faces 9007199254740991 (by decide)
  have rolled := congrArg Prod.fst (rolls tray rfl)
  exact ⟨positive, fits, ⟨_, rolled, low, high⟩, by decide +kernel⟩

end Tabletop
