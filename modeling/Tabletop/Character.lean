import Tabletop.Datum.Checked
import Tabletop.NameSet
import Tabletop.Skill

/-!
Characters: ability scores, level, proficiencies and the weapon in hand. A character is read from a
table in which anything may be left out; names of skills and of saving throws are brought to one
spelling on the way in.
-/

namespace Tabletop

/-! ## Scores -/

/-- A score for each ability. -/
structure Scores where
  strength : Int := defaultScore
  dexterity : Int := defaultScore
  constitution : Int := defaultScore
  intelligence : Int := defaultScore
  wisdom : Int := defaultScore
  charisma : Int := defaultScore
deriving DecidableEq, Repr

namespace Scores

/-- The score of an ability. -/
def get (scores : Scores) : Ability → Int
  | .strength => scores.strength
  | .dexterity => scores.dexterity
  | .constitution => scores.constitution
  | .intelligence => scores.intelligence
  | .wisdom => scores.wisdom
  | .charisma => scores.charisma

/-- Reads scores; one that is left out is ten. -/
def ofDatum : Datum → Checked Scores :=
  Datum.fields .openRecord fun source =>
    let score (ability : Ability) := source.fieldOr ability.name defaultScore Datum.toInt
    Scores.mk <$> score .strength <*> score .dexterity <*> score .constitution
      <*> score .intelligence <*> score .wisdom <*> score .charisma

/-- The scores as a table. -/
def toDatum (scores : Scores) : Datum :=
  .table (Ability.all.map fun ability => (ability.name, .whole (scores.get ability)))

end Scores

/-! ## Levels -/

/-- A level between one and twenty. -/
structure Level where
  value : Int
  one_le : 1 ≤ value
  le_twenty : value ≤ 20
deriving DecidableEq, Repr

namespace Level

/-- The level of a new character. -/
def first : Level := ⟨1, by decide, by decide⟩

/-- Reads a level. -/
def ofDatum (source : Datum) : Checked Level :=
  source.toInt.andThen fun value =>
    if low : 1 ≤ value then
      if high : value ≤ 20 then .sound ⟨value, low, high⟩ else Checked.broken .atMost
    else Checked.broken .atLeast

end Level

/-! ## Characters -/

/-- A character as the rules see it. -/
structure Character where
  scores : Scores := {}
  level : Level := Level.first
  /-- The proficiency bonus, where it is not left to the rules. -/
  proficiencyBonus : Option Int := none
  skills : NameSet := .empty
  saves : NameSet := .empty
  equippedWeapon : Option String := none
deriving DecidableEq

namespace Character

/-- The one spelling of the name of a saving throw. -/
def saveForm (name : String) : String :=
  match Ability.ofName? name with
  | some ability => ability.name
  | none => Text.lower name

/-- Whether a character is proficient in a skill, however it is spelled. -/
def isProficientInSkill (character : Character) (skill : String) : Bool :=
  character.skills.contains (Skill.normalForm skill)

/-- Whether a character is proficient in the saving throw of an ability, given by its full name. -/
def isProficientInSave (character : Character) (ability : String) : Bool :=
  character.saves.contains ability

/-! ## Reading and writing -/

/-- The texts of a list that holds nothing else. -/
def texts? : List Datum → Option (List String)
  | [] => some []
  | .text text :: rest => (texts? rest).map (text :: ·)
  | _ :: _ => none

/-- Reads a list of names into a set in which each has its one spelling. -/
def readNames (form : String → String) : Datum → Checked NameSet
  | .list items =>
      match texts? items with
      | some names => .sound (NameSet.ofList (names.map form))
      | none => .stopped .lacksPart
  | _ => Checked.broken .set

/-- A table without the entries that hold nothing. -/
def withoutNulls : Datum → Datum
  | .table entries => .table (entries.filter fun entry => entry.2 matches .null |> not)
  | value => value

/-- Reads a character. -/
def ofDatum : Datum → Checked Character :=
  Datum.fields .openRecord fun source =>
    Character.mk
      <$> source.fieldOr "stats" {} (Scores.ofDatum ∘ withoutNulls)
      <*> source.fieldOr "level" Level.first Level.ofDatum
      <*> source.fieldOr "proficiency_bonus" none (Datum.toOption Datum.toInt)
      <*> source.fieldOr "skill_proficiencies" .empty (readNames Skill.normalForm)
      <*> source.fieldOr "saving_throw_proficiencies" .empty (readNames saveForm)
      <*> source.fieldOr "equipped_weapon" none (Datum.toOption Datum.toText)

/-- The character that a caller names: nothing stands for a character of whom nothing is known. -/
def coerce : Datum → Except Fault Character
  | .null => .ok {}
  | value => (ofDatum value).toExcept

/-- The character as a table. -/
def toDatum (character : Character) : Datum :=
  .table [
    ("stats", character.scores.toDatum),
    ("level", .whole character.level.value),
    ("proficiency_bonus", .ofOption .whole character.proficiencyBonus),
    ("skill_proficiencies", .ofNames character.skills),
    ("saving_throw_proficiencies", .ofNames character.saves),
    ("equipped_weapon", .ofOption .text character.equippedWeapon)]

end Character

end Tabletop
