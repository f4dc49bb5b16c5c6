import Tabletop.Dice.Roll
import Tabletop.Outcome
import Tabletop.Weapon

/-!
Tests on a die of twenty sides, attacks with weapons and damage.
-/

namespace Tabletop

/-! ## Tests -/

/-- A roll of a die of twenty sides against a threshold, if one is known. -/
structure Test where
  face : Int
  modifier : Int
  total : Int
  critical : Option Critical := none
  success : Option Bool := none
deriving DecidableEq, Repr

namespace Test

/-- Rolls a test. It succeeds if its total reaches the threshold. -/
def roll (bonus : Int) (threshold : Option Int) : Rolling Test := do
  let roll ← rollD20 bonus
  let face := roll.faces.headD 0
  pure {
    face := face
    modifier := bonus
    total := roll.total
    critical := Critical.ofFace? face
    success := threshold.map fun threshold => decide (threshold ≤ roll.total) }

/-- Whether a test is a success whatever is added. -/
def isCritical (test : Test) : Bool :=
  test.critical == some .success

/-- Whether an attack may do damage: unless it is known to have missed without a twenty. -/
def mayHit (test : Test) : Bool :=
  test.success != some false || test.isCritical

end Test

/-! ## Weapons -/

section Weapons

variable {m : Type → Type} [Monad m]

/-- The ability that an attack with a weapon uses, given a way to look scores up: a finesse weapon
takes the better of strength and dexterity, strength if they are equal. -/
def Weapon.attackAbility (weapon : Weapon) (score : Ability → m Int) : m Ability := do
  if weapon.isFinesse then
    let strength ← score .strength
    let dexterity ← score .dexterity
    pure (if strength < dexterity then .dexterity else .strength)
  else pure weapon.ability.toAbility

/-- The ability of an attack, its modifier and what is added to the die. -/
def Weapon.attackBonus (weapon : Weapon) (score : Ability → m Int) (proficiency : Int)
    (proficient : Bool) : m (Ability × Int × Int) := do
  let ability ← weapon.attackAbility score
  let modifier := scoreModifier (← score ability)
  pure (ability, modifier, modifier + (if proficient then proficiency else 0))

end Weapons

/-! ## Damage -/

/-- A roll with a bonus on top of its own modifier; its total is one at least. -/
def Roll.withBonus (roll : Roll) (bonus : Int) : Roll :=
  { roll with
    modifier := roll.modifier + bonus
    total := max 1 (sumInts roll.faces + (roll.modifier + bonus)) }

/-- Rolls damage. After a critical success all dice are rolled twice; modifiers count once. -/
def rollDamage (pool : List Dice) (bonus : Int) (critical : Bool) : Rolling Roll :=
  (·.withBonus bonus) <$> rollPool pool critical

end Tabletop
