import Tabletop.Text.Case
import Tabletop.Text.Blank

/-!
The six abilities, the modifier of a score and the proficiency bonus of a level.
-/

namespace Tabletop

/-- An ability of a character. -/
inductive Ability where
  | strength
  | dexterity
  | constitution
  | intelligence
  | wisdom
  | charisma
deriving DecidableEq, Repr

namespace Ability

/-- All abilities in their usual order. -/
def all : List Ability :=
  [.strength, .dexterity, .constitution, .intelligence, .wisdom, .charisma]

/-- The full name. -/
def name : Ability → String
  | .strength => "strength"
  | .dexterity => "dexterity"
  | .constitution => "constitution"
  | .intelligence => "intelligence"
  | .wisdom => "wisdom"
  | .charisma => "charisma"

/-- The name of three letters. -/
def abbreviation : Ability → String
  | .strength => "str"
  | .dexterity => "dex"
  | .constitution => "con"
  | .intelligence => "int"
  | .wisdom => "wis"
  | .charisma => "cha"

/-- The ability with exactly this full name. -/
def ofFullName? (text : String) : Option Ability :=
  all.find? fun ability => ability.name == text

/-- The ability with this name or abbreviation, in any case and with white space around it. -/
def ofName? (text : String) : Option Ability :=
  let key := Text.lower (String.ofList (Text.trim text.toList))
  all.find? fun ability => ability.name == key || ability.abbreviation == key

end Ability

/-! ## Scores and bonuses -/

/-- The score of an ability of which nothing else is known. -/
def defaultScore : Int := 10

/-- The modifier of a score: half its distance from ten, rounded down. -/
def scoreModifier (score : Int) : Int :=
  (score - 10) / 2

/-- The proficiency bonus of a level: two at first and one more after every fourth level, up to
level twenty. -/
def levelBonus (level : Int) : Int :=
  1 + (min (max level 1) 20 + 3) / 4

end Tabletop
