import Tabletop.Ability

/-!
The skills, each with the ability that governs it.
-/

namespace Tabletop

/-- A skill of a character. -/
inductive Skill where
  | acrobatics
  | animalHandling
  | arcana
  | athletics
  | deception
  | history
  | insight
  | intimidation
  | investigation
  | medicine
  | nature
  | perception
  | performance
  | persuasion
  | religion
  | sleightOfHand
  | stealth
  | survival
deriving DecidableEq, Repr

namespace Skill

/-- All skills in alphabetical order. -/
def all : List Skill :=
  [.acrobatics, .animalHandling, .arcana, .athletics, .deception, .history, .insight,
    .intimidation, .investigation, .medicine, .nature, .perception, .performance, .persuasion,
    .religion, .sleightOfHand, .stealth, .survival]

/-- The name, its words in small letters with single spaces between them. -/
def name : Skill → String
  | .acrobatics => "acrobatics"
  | .animalHandling => "animal handling"
  | .arcana => "arcana"
  | .athletics => "athletics"
  | .deception => "deception"
  | .history => "history"
  | .insight => "insight"
  | .intimidation => "intimidation"
  | .investigation => "investigation"
  | .medicine => "medicine"
  | .nature => "nature"
  | .perception => "perception"
  | .performance => "performance"
  | .persuasion => "persuasion"
  | .religion => "religion"
  | .sleightOfHand => "sleight of hand"
  | .stealth => "stealth"
  | .survival => "survival"

/-- The ability that governs a skill. -/
def ability : Skill → Ability
  | .athletics => .strength
  | .acrobatics | .sleightOfHand | .stealth => .dexterity
  | .arcana | .history | .investigation | .nature | .religion => .intelligence
  | .animalHandling | .insight | .medicine | .perception | .survival => .wisdom
  | .deception | .intimidation | .performance | .persuasion => .charisma

/-- The form in which names of skills are compared: small letters, underscores read as spaces,
single spaces between the words. -/
def normalForm (text : String) : String :=
  let spaced := (Text.lower text).toList.map fun c => if c = '_' then ' ' else c
  String.ofList ([' '].intercalate (Text.words spaced))

/-- The skill with this name, however it is spelled. -/
def ofName? (text : String) : Option Skill :=
  let key := normalForm text
  all.find? fun skill => skill.name == key

end Skill

/-- The ability that governs what a name stands for, be it an ability or a skill. -/
def Ability.governing? (name : String) : Option Ability :=
  match Ability.ofName? name with
  | some ability => some ability
  | none => (Skill.ofName? name).map Skill.ability

end Tabletop
