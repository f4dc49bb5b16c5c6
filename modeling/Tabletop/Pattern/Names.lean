import Tabletop.Pattern
import Tabletop.Skill

/-!
The names of abilities and skills as patterns.
-/

namespace Tabletop.Pattern

variable {ι : Type}

/-- The names and abbreviations of the abilities. -/
def abilityWords : List String :=
  Ability.all.map Ability.name ++ Ability.all.map Ability.abbreviation

/-- An ability by its name or abbreviation. -/
def ability : Pattern ι :=
  phrases abilityWords

/-- A skill by its name. -/
def skill : Pattern ι :=
  phrases (Skill.all.map Skill.name)

/-- An ability or a skill. -/
def abilityOrSkill : Pattern ι :=
  phrases (abilityWords ++ Skill.all.map Skill.name)

end Tabletop.Pattern
