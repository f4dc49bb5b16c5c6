import Tabletop.Datum.Checked
import Tabletop.Dice.Notation
import Tabletop.NameSet
import Tabletop.Skill

/-!
Weapons: what they roll for damage and the ability that wields them.
-/

namespace Tabletop

/-! ## Dice in records -/

namespace Dice

/-- Reads dice from their notation or from a table with their numbers. -/
def ofField : Datum → Checked Dice
  | .text text => Checked.ofExcept (parse text)
  | .table entries =>
      let source := Datum.table entries
      let numbers : Checked (Int × Int × Int) :=
        (fun count sides modifier => (count, sides, modifier))
          <$> source.field "count" Datum.toInt
          <*> source.field "sides" Datum.toInt
          <*> source.fieldOr "modifier" 0 Datum.toInt
      numbers.andThen fun (count, sides, modifier) =>
        Checked.ofExcept (ofInts count sides modifier)
  | _ => Checked.broken .dice

/-- The dice in records are written in their notation. -/
def toDatum (dice : Dice) : Datum :=
  .text dice.spelled

end Dice

/-! ## Weapons -/

/-- How a weapon reaches its target. -/
inductive WeaponType where
  | melee
  | ranged
deriving DecidableEq, Repr

namespace WeaponType

def name : WeaponType → String
  | .melee => "melee"
  | .ranged => "ranged"

/-- The type with a name. -/
def ofName? (text : String) : Option WeaponType :=
  [melee, ranged].find? fun type => type.name == text

end WeaponType

/-- The training that a weapon takes. -/
inductive WeaponCategory where
  | simple
  | martial
deriving DecidableEq, Repr

namespace WeaponCategory

def name : WeaponCategory → String
  | .simple => "simple"
  | .martial => "martial"

/-- The category with a name. -/
def ofName? (text : String) : Option WeaponCategory :=
  [simple, martial].find? fun category => category.name == text

end WeaponCategory

/-- The damage of a weapon. -/
structure WeaponDamage where
  dice : Dice
  type : String := "bludgeoning"
deriving DecidableEq, Repr

namespace WeaponDamage

/-- Reads the damage of a weapon. -/
def ofDatum : Datum → Checked WeaponDamage :=
  Datum.fields .record fun source =>
    WeaponDamage.mk
      <$> source.field "dice" Dice.ofField
      <*> source.fieldOr "damage_type" "bludgeoning" Datum.toText

/-- The damage as a table. -/
def toDatum (damage : WeaponDamage) : Datum :=
  .table [("dice", damage.dice.toDatum), ("damage_type", .text damage.type)]

end WeaponDamage

/-- The abilities that wield weapons. -/
inductive WeaponAbility where
  | strength
  | dexterity
deriving DecidableEq, Repr

namespace WeaponAbility

def toAbility : WeaponAbility → Ability
  | .strength => .strength
  | .dexterity => .dexterity

/-- Reads the ability of a weapon. -/
def ofDatum (source : Datum) : Checked WeaponAbility :=
  source.toText.andThen fun name =>
    match [strength, dexterity].find? fun ability => ability.toAbility.name == name with
    | some ability => .sound ability
    | none =>
        Checked.broken (.own ("Weapons must use strength or dexterity, got '" ++ name ++ "'"))

end WeaponAbility

/-- A weapon. -/
structure Weapon where
  name : String
  type : WeaponType := .melee
  category : WeaponCategory := .simple
  damage : WeaponDamage
  properties : NameSet := .empty
  ability : WeaponAbility := .strength
deriving DecidableEq

namespace Weapon

/-- Whether the wielder may choose between strength and dexterity. -/
def isFinesse (weapon : Weapon) : Bool :=
  weapon.properties.contains "finesse"

/-- What is left to a character without a weapon. -/
def unarmedStrike : Weapon where
  name := "Unarmed Strike"
  damage := { dice := Dice.of 1 1 }

/-- Reads a weapon. -/
def ofDatum : Datum → Checked Weapon :=
  Datum.fields .record fun source =>
    Weapon.mk
      <$> source.field "name" Datum.toText
      <*> source.fieldOr "type" .melee (Datum.toChoice WeaponType.ofName?)
      <*> source.fieldOr "category" .simple (Datum.toChoice WeaponCategory.ofName?)
      <*> source.field "damage" WeaponDamage.ofDatum
      <*> source.fieldOr "properties" .empty (fun value =>
        (value.toList .set Datum.toText).map NameSet.ofList)
      <*> source.fieldOr "required_stat" .strength WeaponAbility.ofDatum

/-- The weapon as a table. -/
def toDatum (weapon : Weapon) : Datum :=
  .table [
    ("name", .text weapon.name),
    ("type", .text weapon.type.name),
    ("category", .text weapon.category.name),
    ("damage", weapon.damage.toDatum),
    ("properties", .ofNames weapon.properties),
    ("required_stat", .text weapon.ability.toAbility.name)]

end Weapon

end Tabletop
