import Tabletop.Fault

/-!
Dice expressions: so many dice of so many sides and a number added once.
-/

namespace Tabletop

/-- A dice expression. There is at least one die, and a die has at least one side. -/
structure Dice where
  count : Nat
  sides : Nat
  modifier : Int := 0
  count_pos : 0 < count
  sides_pos : 0 < sides
deriving DecidableEq, Repr

namespace Dice

theorem max_one_pos (n : Nat) : 0 < max 1 n := by omega

theorem toNat_pos {n : Int} (positive : 0 < n) : 0 < n.toNat := by omega

/-- So many dice of so many sides, but one at least of each, with a modifier. -/
def of (count sides : Nat) (modifier : Int := 0) : Dice :=
  ⟨max 1 count, max 1 sides, modifier, max_one_pos count, max_one_pos sides⟩

/-- The dice of three numbers, unless there would be no die or a die without sides. -/
def ofInts (count sides modifier : Int) : Except Fault Dice :=
  if h : 0 < count ∧ 0 < sides then
    .ok ⟨count.toNat, sides.toNat, modifier, toNat_pos h.1, toNat_pos h.2⟩
  else if Numeral.isWritable count && Numeral.isWritable sides then
    .error (.nonPositiveDice count sides)
  else .error .tooLongToWrite

/-- An expression with its dice and its modifier taken a positive number of times. -/
def repeated (dice : Dice) (times : Nat) (times_pos : 0 < times) : Dice :=
  ⟨dice.count * times, dice.sides, dice.modifier * times,
    Nat.mul_pos dice.count_pos times_pos, dice.sides_pos⟩

/-- An expression with its dice and its modifier taken a number of times. -/
def scaled (dice : Dice) (times : Int) : Except Fault Dice :=
  ofInts (dice.count * times) dice.sides (dice.modifier * times)

theorem scaled_eq_repeated (dice : Dice) {times : Nat} (times_pos : 0 < times) :
    dice.scaled times = .ok (dice.repeated times times_pos) := by
  have count_pos : (0 : Int) < dice.count * times := by
    have := Nat.mul_pos dice.count_pos times_pos
    exact_mod_cast this
  have sides_pos : (0 : Int) < dice.sides := by
    have := dice.sides_pos
    exact_mod_cast this
  simp only [scaled, ofInts, count_pos, sides_pos, and_self, ↓reduceDIte]
  congr 1

end Dice

end Tabletop
