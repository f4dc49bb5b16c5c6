import Tabletop.Combat
import Tabletop.Spell

/-!
The numbers of a spell: its difficulty, its attack bonus, the slot it takes and the dice it rolls
there.
-/

namespace Tabletop

/-- The difficulty of the saving throw against a spell. -/
def spellDifficulty (score proficiency : Int) : Int :=
  8 + scoreModifier score + proficiency

/-- What is added to the die of a spell attack. -/
def spellAttackBonus (score proficiency : Int) : Int :=
  scoreModifier score + proficiency

/-- The levels at which a caster's cantrips grow. -/
def cantripLevels : List Int := [5, 11, 17]

/-- How often the cantrips of a caster have grown. -/
def cantripSteps (level : Int) : Nat :=
  cantripLevels.countP (· ≤ level)

namespace Spell

/-- The highest slot. -/
def highestSlot : Int := 9

/-- The slot that a spell takes: its own level if none is asked for, else the one asked for, but
neither below its own level nor above the highest. -/
def slotFor (spell : Spell) : Option Int → Int
  | none => spell.level.value
  | some slot => min (max slot spell.level.value) highestSlot

/-- Dice taken a number of times; no dice if that is nought or less. -/
def extraDice (dice : Option Dice) (times : Int) : List Dice :=
  match dice with
  | some dice =>
      if positive : 0 < times then [dice.repeated times.toNat (Dice.toNat_pos positive)] else []
  | none => []

/-- The dice that a spell rolls in a slot: its base dice, more for each slot level above its own
and, for a cantrip, more for each step of the caster. -/
def poolAt (spell : Spell) (base : Dice) (scaling : Option Scaling) (slot casterLevel : Int) :
    List Dice :=
  match scaling with
  | none => [base]
  | some scaling =>
      base :: (extraDice scaling.perSlot (slot - spell.level.value) ++
        (if spell.isCantrip then extraDice scaling.perStep (cantripSteps casterLevel) else []))

end Spell

/-- Rolls healing: the dice are never doubled, and it heals one at least. -/
def rollHealing (pool : List Dice) (bonus abilityModifier : Int) : Rolling Roll :=
  (·.withBonus (bonus + abilityModifier)) <$> rollPool pool

end Tabletop
