import Tabletop.Weapon

/-!
Spells: what they do to a target or for it, how they grow with the slot or the caster, and what a
target may do against them.
-/

namespace Tabletop

/-! ## Parts of a spell -/

/-- The dice that a spell gains for each slot level above its own, and a cantrip for each step of
its caster. -/
structure Scaling where
  perSlot : Option Dice := none
  perStep : Option Dice := none
deriving DecidableEq, Repr

namespace Scaling

/-- Reads how a spell grows. -/
def ofDatum : Datum → Checked Scaling :=
  Datum.fields .record fun source =>
    Scaling.mk
      <$> source.fieldOr "per_level" none (Datum.toOption Dice.ofField)
      <*> source.fieldOr "per_character_level" none (Datum.toOption Dice.ofField)

/-- The growth as a table. -/
def toDatum (scaling : Scaling) : Datum :=
  .table [
    ("per_level", .ofOption Dice.toDatum scaling.perSlot),
    ("per_character_level", .ofOption Dice.toDatum scaling.perStep)]

end Scaling

/-- The damage of a spell. -/
structure SpellDamage where
  dice : Dice
  type : String
  scaling : Option Scaling := none
  addsModifier : Bool := false
deriving DecidableEq, Repr

namespace SpellDamage

/-- Reads the damage of a spell. -/
def ofDatum : Datum → Checked SpellDamage :=
  Datum.fields .record fun source =>
    SpellDamage.mk
      <$> source.field "dice" Dice.ofField
      <*> source.field "damage_type" Datum.toText
      <*> source.fieldOr "scaling" none (Datum.toOption Scaling.ofDatum)
      <*> source.fieldOr "add_modifier" false Datum.toFlag

/-- The damage as a table. -/
def toDatum (damage : SpellDamage) : Datum :=
  .table [
    ("dice", damage.dice.toDatum),
    ("damage_type", .text damage.type),
    ("scaling", .ofOption Scaling.toDatum damage.scaling),
    ("add_modifier", .flag damage.addsModifier)]

end SpellDamage

/-- The healing of a spell. -/
structure SpellHealing where
  dice : Dice
  bonus : Int := 0
  scaling : Option Scaling := none
deriving DecidableEq, Repr

namespace SpellHealing

/-- Reads the healing of a spell. -/
def ofDatum : Datum → Checked SpellHealing :=
  Datum.fields .record fun source =>
    SpellHealing.mk
      <$> source.field "dice" Dice.ofField
      <*> source.fieldOr "bonus" 0 Datum.toInt
      <*> source.fieldOr "scaling" none (Datum.toOption Scaling.ofDatum)

/-- The healing as a table. -/
def toDatum (healing : SpellHealing) : Datum :=
  .table [
    ("dice", healing.dice.toDatum),
    ("bonus", .whole healing.bonus),
    ("scaling", .ofOption Scaling.toDatum healing.scaling)]

end SpellHealing

/-- What a saved target still suffers. -/
inductive SaveEffect where
  | half
  | nothing
deriving DecidableEq, Repr

namespace SaveEffect

def name : SaveEffect → String
  | .half => "half"
  | .nothing => "none"

/-- The effect with a name. -/
def ofName? (text : String) : Option SaveEffect :=
  [half, nothing].find? fun effect => effect.name == text

end SaveEffect

/-- The saving throw that a spell allows. -/
structure SavingThrow where
  ability : Ability
  effect : SaveEffect := .nothing
deriving DecidableEq, Repr

namespace SavingThrow

/-- Reads the ability of a saving throw. -/
def readAbility (source : Datum) : Checked Ability :=
  source.toText.andThen fun name =>
    match Ability.ofFullName? name with
    | some ability => .sound ability
    | none => Checked.broken (.own ("Unknown saving throw ability '" ++ name ++ "'"))

/-- Reads a saving throw. -/
def ofDatum : Datum → Checked SavingThrow :=
  Datum.fields .record fun source =>
    SavingThrow.mk
      <$> source.field "ability" readAbility
      <*> source.fieldOr "effect" .nothing (Datum.toChoice SaveEffect.ofName?)

/-- The saving throw as a table. -/
def toDatum (save : SavingThrow) : Datum :=
  .table [("ability", .text save.ability.name), ("effect", .text save.effect.name)]

end SavingThrow

/-- The shapes that a spell can fill. -/
inductive AreaShape where
  | cone
  | cube
  | cylinder
  | line
  | sphere
deriving DecidableEq, Repr

namespace AreaShape

def name : AreaShape → String
  | .cone => "cone"
  | .cube => "cube"
  | .cylinder => "cylinder"
  | .line => "line"
  | .sphere => "sphere"

/-- The shape with a name. -/
def ofName? (text : String) : Option AreaShape :=
  [cone, cube, cylinder, line, sphere].find? fun shape => shape.name == text

end AreaShape

/-- The area of a spell, measured in feet. -/
structure Area where
  shape : AreaShape
  size : Nat
  one_le_size : 1 ≤ size
deriving DecidableEq, Repr

namespace Area

/-- An area of so many feet, but one at least. -/
def of (shape : AreaShape) (feet : Nat) : Area :=
  ⟨shape, max 1 feet, Nat.le_max_left 1 feet⟩

/-- Reads an area. -/
def ofDatum : Datum → Checked Area :=
  Datum.fields .record fun source =>
    let size : Checked { size : Nat // 1 ≤ size } :=
      source.field "size_ft" fun value =>
        value.toInt.andThen fun feet =>
          if positive : 0 < feet then .sound ⟨feet.toNat, Dice.toNat_pos positive⟩ else Checked.broken .above
    (fun shape size => ⟨shape, size.1, size.2⟩)
      <$> source.field "shape" (Datum.toChoice AreaShape.ofName?)
      <*> size

/-- The area as a table. -/
def toDatum (area : Area) : Datum :=
  .table [("shape", .text area.shape.name), ("size_ft", .whole area.size)]

end Area

/-- The abilities that cast spells. -/
inductive SpellAbility where
  | intelligence
  | wisdom
  | charisma
deriving DecidableEq, Repr

namespace SpellAbility

def toAbility : SpellAbility → Ability
  | .intelligence => .intelligence
  | .wisdom => .wisdom
  | .charisma => .charisma

/-- Reads the ability of a spell. -/
def ofDatum (source : Datum) : Checked SpellAbility :=
  source.toText.andThen fun name =>
    match [intelligence, wisdom, charisma].find? fun ability => ability.toAbility.name == name with
    | some ability => .sound ability
    | none => Checked.broken (.own ("Spells must use a mental stat, got '" ++ name ++ "'"))

end SpellAbility

/-! ## Spells -/

/-- The level of a spell, nine at most. -/
structure SpellLevel where
  value : Nat
  le_nine : value ≤ 9
deriving DecidableEq, Repr

namespace SpellLevel

/-- The level of this number, or the ninth if that is beyond it. -/
def of (value : Nat) : SpellLevel :=
  ⟨min 9 value, Nat.min_le_left 9 value⟩

/-- The level of cantrips. -/
def cantrip : SpellLevel := SpellLevel.of 0

/-- Reads the level of a spell. -/
def ofDatum (source : Datum) : Checked SpellLevel :=
  source.toInt.andThen fun value =>
    if low : 0 ≤ value then
      if high : value ≤ 9 then .sound ⟨value.toNat, by omega⟩ else Checked.broken .atMost
    else Checked.broken .atLeast

end SpellLevel

/-- A spell; one of level nought is a cantrip. -/
structure Spell where
  name : String
  level : SpellLevel := .cantrip
  damage : Option SpellDamage := none
  healing : Option SpellHealing := none
  savingThrow : Option SavingThrow := none
  area : Option Area := none
  autoHit : Bool := false
  ability : SpellAbility := .intelligence
deriving DecidableEq

namespace Spell

/-- Whether a spell takes no slot. -/
def isCantrip (spell : Spell) : Bool :=
  spell.level.value == 0

/-- Whether a spell has to hit: it does damage, allows no saving throw and does not find its target
by itself. -/
def needsAttackRoll (spell : Spell) : Bool :=
  spell.damage.isSome && spell.savingThrow.isNone && !spell.autoHit

/-- Reads a spell. -/
def ofDatum : Datum → Checked Spell :=
  Datum.fields .record fun source =>
    Spell.mk
      <$> source.field "name" Datum.toText
      <*> source.fieldOr "level" .cantrip SpellLevel.ofDatum
      <*> source.fieldOr "damage" none (Datum.toOption SpellDamage.ofDatum)
      <*> source.fieldOr "healing" none (Datum.toOption SpellHealing.ofDatum)
      <*> source.fieldOr "saving_throw" none (Datum.toOption SavingThrow.ofDatum)
      <*> source.fieldOr "area_of_effect" none (Datum.toOption Area.ofDatum)
      <*> source.fieldOr "auto_hit" false Datum.toFlag
      <*> source.fieldOr "required_stat" .intelligence SpellAbility.ofDatum

/-- The spell as a table. -/
def toDatum (spell : Spell) : Datum :=
  .table [
    ("name", .text spell.name),
    ("level", .whole spell.level.value),
    ("damage", .ofOption SpellDamage.toDatum spell.damage),
    ("healing", .ofOption SpellHealing.toDatum spell.healing),
    ("saving_throw", .ofOption SavingThrow.toDatum spell.savingThrow),
    ("area_of_effect", .ofOption Area.toDatum spell.area),
    ("auto_hit", .flag spell.autoHit),
    ("required_stat", .text spell.ability.toAbility.name)]

end Spell

end Tabletop
