import Tabletop.Compendium

/-!
The weapons that come with the rules.
-/

namespace Tabletop.Compendium

/-- A weapon by its properties, in the order in which a list of weapons gives them. -/
def weaponOf (name : String) (type : WeaponType) (category : WeaponCategory) (dice : Dice)
    (damageType : String) (properties : List String) (ability : WeaponAbility) : Weapon where
  name := name
  type := type
  category := category
  damage := { dice := dice, type := damageType }
  properties := NameSet.ofList properties
  ability := ability

/-- Simple melee weapons. -/
def simpleMelee : List Weapon := [
  weaponOf "Club" .melee .simple (Dice.of 1 4) "bludgeoning"
    ["light"] .strength,
  weaponOf "Dagger" .melee .simple (Dice.of 1 4) "piercing"
    ["finesse", "light", "thrown"] .dexterity,
  weaponOf "Greatclub" .melee .simple (Dice.of 1 8) "bludgeoning"
    ["two-handed"] .strength,
  weaponOf "Handaxe" .melee .simple (Dice.of 1 6) "slashing"
    ["light", "thrown"] .strength,
  weaponOf "Javelin" .melee .simple (Dice.of 1 6) "piercing"
    ["thrown"] .strength,
  weaponOf "Light Hammer" .melee .simple (Dice.of 1 4) "bludgeoning"
    ["light", "thrown"] .strength,
  weaponOf "Mace" .melee .simple (Dice.of 1 6) "bludgeoning"
    [] .strength,
  weaponOf "Quarterstaff" .melee .simple (Dice.of 1 6) "bludgeoning"
    ["versatile"] .strength,
  weaponOf "Sickle" .melee .simple (Dice.of 1 4) "slashing"
    ["light"] .strength,
  weaponOf "Spear" .melee .simple (Dice.of 1 6) "piercing"
    ["thrown", "versatile"] .strength]

/-- Simple ranged weapons. -/
def simpleRanged : List Weapon := [
  weaponOf "Light Crossbow" .ranged .simple (Dice.of 1 8) "piercing"
    ["ammunition", "loading", "two-handed"] .dexterity,
  weaponOf "Dart" .ranged .simple (Dice.of 1 4) "piercing"
    ["finesse", "thrown"] .dexterity,
  weaponOf "Shortbow" .ranged .simple (Dice.of 1 6) "piercing"
    ["ammunition", "two-handed"] .dexterity,
  weaponOf "Sling" .ranged .simple (Dice.of 1 4) "bludgeoning"
    ["ammunition"] .dexterity]

/-- Martial melee weapons. -/
def martialMelee : List Weapon := [
  weaponOf "Battleaxe" .melee .martial (Dice.of 1 8) "slashing"
    ["versatile"] .strength,
  weaponOf "Flail" .melee .martial (Dice.of 1 8) "bludgeoning"
    [] .strength,
  weaponOf "Glaive" .melee .martial (Dice.of 1 10) "slashing"
    ["heavy", "reach", "two-handed"] .strength,
  weaponOf "Greataxe" .melee .martial (Dice.of 1 12) "slashing"
    ["heavy", "two-handed"] .strength,
  weaponOf "Greatsword" .melee .martial (Dice.of 2 6) "slashing"
    ["heavy", "two-handed"] .strength,
  weaponOf "Halberd" .melee .martial (Dice.of 1 10) "slashing"
    ["heavy", "reach", "two-handed"] .strength,
  weaponOf "Lance" .melee .martial (Dice.of 1 12) "piercing"
    ["reach", "special"] .strength,
  weaponOf "Longsword" .melee .martial (Dice.of 1 8) "slashing"
    ["versatile"] .strength,
  weaponOf "Maul" .melee .martial (Dice.of 2 6) "bludgeoning"
    ["heavy", "two-handed"] .strength,
  weaponOf "Morningstar" .melee .martial (Dice.of 1 8) "piercing"
    [] .strength,
  weaponOf "Pike" .melee .martial (Dice.of 1 10) "piercing"
    ["heavy", "reach", "two-handed"] .strength,
  weaponOf "Rapier" .melee .martial (Dice.of 1 8) "piercing"
    ["finesse"] .dexterity,
  weaponOf "Scimitar" .melee .martial (Dice.of 1 6) "slashing"
    ["finesse", "light"] .dexterity,
  weaponOf "Shortsword" .melee .martial (Dice.of 1 6) "piercing"
    ["finesse", "light"] .dexterity,
  weaponOf "Trident" .melee .martial (Dice.of 1 6) "piercing"
    ["thrown", "versatile"] .strength,
  weaponOf "War Pick" .melee .martial (Dice.of 1 8) "piercing"
    [] .strength,
  weaponOf "Warhammer" .melee .martial (Dice.of 1 8) "bludgeoning"
    ["versatile"] .strength,
  weaponOf "Whip" .melee .martial (Dice.of 1 4) "slashing"
    ["finesse", "reach"] .dexterity]

/-- Martial ranged weapons. -/
def martialRanged : List Weapon := [
  weaponOf "Blowgun" .ranged .martial (Dice.of 1 1) "piercing"
    ["ammunition", "loading"] .dexterity,
  weaponOf "Hand Crossbow" .ranged .martial (Dice.of 1 6) "piercing"
    ["ammunition", "light", "loading"] .dexterity,
  weaponOf "Heavy Crossbow" .ranged .martial (Dice.of 1 10) "piercing"
    ["ammunition", "heavy", "loading", "two-handed"] .dexterity,
  weaponOf "Longbow" .ranged .martial (Dice.of 1 8) "piercing"
    ["ammunition", "heavy", "two-handed"] .dexterity]

/-- All weapons that come with the rules. -/
def standardWeapons : List Weapon :=
  simpleMelee ++ simpleRanged ++ martialMelee ++ martialRanged

end Tabletop.Compendium
