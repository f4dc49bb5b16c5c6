import Tabletop.Compendium

/-!
The spells that come with the rules.
-/

namespace Tabletop.Compendium

/-- Dice and more of them for each slot level above the spell's own. -/
def growingBySlot (dice perSlot : Dice) (type : String) : SpellDamage :=
  { dice := dice, type := type, scaling := some { perSlot := some perSlot } }

/-- Dice and as many more for each step of the caster. -/
def growingBySteps (dice : Dice) (type : String) : SpellDamage :=
  { dice := dice, type := type, scaling := some { perStep := some dice } }

/-- A saving throw that halves the damage. -/
def halvedBy (ability : Ability) : SavingThrow :=
  { ability := ability, effect := .half }

/-- Spells that take no slot. -/
def cantrips : List Spell := [
  { name := "Fire Bolt"
    damage := some (growingBySteps (Dice.of 1 10) "fire")
    ability := .intelligence },
  { name := "Eldritch Blast"
    damage := some (growingBySteps (Dice.of 1 10) "force")
    ability := .charisma },
  { name := "Ray of Frost"
    damage := some (growingBySteps (Dice.of 1 8) "cold")
    ability := .intelligence },
  { name := "Sacred Flame"
    damage := some (growingBySteps (Dice.of 1 8) "radiant")
    savingThrow := some { ability := .dexterity }
    ability := .wisdom }]

/-- Spells that strike a target. -/
def boltSpells : List Spell := [
  { name := "Magic Missile"
    level := .of 1
    damage := some (growingBySlot (Dice.of 3 4 3) (Dice.of 1 4 1) "force")
    autoHit := true
    ability := .intelligence },
  { name := "Guiding Bolt"
    level := .of 1
    damage := some (growingBySlot (Dice.of 4 6) (Dice.of 1 6) "radiant")
    ability := .wisdom },
  { name := "Inflict Wounds"
    level := .of 1
    damage := some (growingBySlot (Dice.of 3 10) (Dice.of 1 10) "necrotic")
    ability := .wisdom }]

/-- Spells that heal. -/
def healingSpells : List Spell := [
  { name := "Cure Wounds"
    level := .of 1
    healing := some {
      dice := Dice.of 1 8
      scaling := some { perSlot := some (Dice.of 1 8) } }
    ability := .wisdom },
  { name := "Healing Word"
    level := .of 1
    healing := some {
      dice := Dice.of 1 4
      scaling := some { perSlot := some (Dice.of 1 4) } }
    ability := .wisdom }]

/-- Spells that fill an area. -/
def areaSpells : List Spell := [
  { name := "Burning Hands"
    level := .of 1
    damage := some (growingBySlot (Dice.of 3 6) (Dice.of 1 6) "fire")
    savingThrow := some (halvedBy .dexterity)
    area := some (.of .cone 15)
    ability := .intelligence },
  { name := "Thunderwave"
    level := .of 1
    damage := some (growingBySlot (Dice.of 2 8) (Dice.of 1 8) "thunder")
    savingThrow := some (halvedBy .constitution)
    area := some (.of .cube 15)
    ability := .intelligence },
  { name := "Shatter"
    level := .of 2
    damage := some (growingBySlot (Dice.of 3 8) (Dice.of 1 8) "thunder")
    savingThrow := some (halvedBy .constitution)
    area := some (.of .sphere 10)
    ability := .intelligence },
  { name := "Fireball"
    level := .of 3
    damage := some (growingBySlot (Dice.of 8 6) (Dice.of 1 6) "fire")
    savingThrow := some (halvedBy .dexterity)
    area := some (.of .sphere 20)
    ability := .intelligence },
  { name := "Lightning Bolt"
    level := .of 3
    damage := some (growingBySlot (Dice.of 8 6) (Dice.of 1 6) "lightning")
    savingThrow := some (halvedBy .dexterity)
    area := some (.of .line 100)
    ability := .intelligence },
  { name := "Cone of Cold"
    level := .of 5
    damage := some (growingBySlot (Dice.of 8 8) (Dice.of 1 8) "cold")
    savingThrow := some (halvedBy .constitution)
    area := some (.of .cone 60)
    ability := .intelligence }]

/-- All spells that come with the rules. -/
def standardSpells : List Spell :=
  cantrips ++ boltSpells ++ healingSpells ++ areaSpells

end Tabletop.Compendium
