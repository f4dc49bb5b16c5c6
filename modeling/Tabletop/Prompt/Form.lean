import Tabletop.Pattern.Names
import Tabletop.Pattern.Scan
import Tabletop.Suggestion

/-!
The forms of prompts: the ways in which a text asks for a check, a saving throw or an attack roll.
Their order is their priority: of two prompts that start together and are equally long, the one
whose form comes first is kept.
-/

namespace Tabletop.Prompt

open Pattern

/-- The parts of a prompt. -/
inductive Label where
  | name
  | ability
  | skill
  | difficulty
  | trailingDifficulty
  | armorClass
  | damage
  | mode
  | body
deriving DecidableEq, Repr

/-! ## Wordings -/

/-- A skill, or else any word, in the hope that it names an ability. -/
def anyName : Pattern Label :=
  .mark .name (.either skill letters)

/-- A request in so many words, up to what is requested. -/
def request : Pattern Label :=
  sequence [
    .wordEdge, oneOf [chars "make", chars "roll", chars "attempt"], gap,
    oneOf [sequence [chars "a", optional (chars "n")], chars "your"], gap]

/-- A difficulty. -/
def difficulty (label : Label) : Pattern Label :=
  sequence [chars "dc", space, .mark label digits]

/-- A difficulty with a gap after it. -/
def leadingDifficulty : Pattern Label :=
  .andThen (difficulty .difficulty) gap

/-- A difficulty in brackets, which may be left out. -/
def trailing (label : Label) : Pattern Label :=
  optional (sequence [space, chars "(", space, difficulty label, space, chars ")"])

/-- The end of a check, after a gap. -/
def check : Pattern Label :=
  sequence [gap, chars "check", .wordEdge]

/-- The end of a check of which it may be said that it is one of an ability. -/
def abilityCheck : Pattern Label :=
  .andThen (optional (sequence [gap, chars "ability"])) check

/-- An ability with a skill in brackets. -/
def abilityWithSkill : Pattern Label :=
  sequence [
    .mark .ability ability, space, chars "(", space, .mark .skill skill, space, chars ")"]

/-- The end of a saving throw, after a gap. -/
def save : Pattern Label :=
  sequence [gap, oneOf [phrase "saving throw", chars "save"], .wordEdge]

/-- The kind of an attack, which may be left out. -/
def mode : Pattern Label :=
  optional (.andThen (.mark .mode (oneOf [chars "melee", chars "ranged", chars "spell"])) gap)

/-- The armor class of the target, after a gap. -/
def target : Pattern Label :=
  sequence [
    gap, oneOf [chars "against", .andThen (chars "vs") (optional (chars "."))], gap, chars "ac",
    space, .mark .armorClass digits]

/-- Dice, with white space around the sign allowed. -/
def dice : Pattern Label :=
  sequence [
    digits, chars "d", digits,
    optional (sequence [space, .one (.oneOf ['+', '-']), space, digits])]

/-- The damage of an attack, which may be left out. -/
def damage : Pattern Label :=
  optional (sequence [
    optional (chars ","), gap, oneOf [chars "dealing", chars "for", chars "doing"], gap,
    .mark .damage dice, optional (.andThen gap letters), gap, chars "damage"])

/-! ## Forms -/

/-- A form of prompt. -/
structure Form where
  name : String
  kind : SuggestionKind
  pattern : Pattern Label
  /-- Whether the roll is spelled out in square brackets. -/
  bracketed : Bool := false

namespace Form

/-- "DC 12 Wisdom (Perception) check" -/
def difficultyAbilitySkillCheck : Form where
  name := "dc_ability_skill_check"
  kind := .skill
  pattern := sequence [.wordEdge, leadingDifficulty, abilityWithSkill, check]

/-- "Wisdom (Perception) check (DC 12)" -/
def abilitySkillCheck : Form where
  name := "ability_skill_check"
  kind := .skill
  pattern := sequence [.wordEdge, abilityWithSkill, check, trailing .difficulty]

/-- "make a DC 12 Perception check" -/
def requestedCheck : Form where
  name := "requested_check"
  kind := .skill
  pattern := sequence [
    request, optional leadingDifficulty, anyName, abilityCheck, trailing .trailingDifficulty]

/-- "DC 12 Wisdom check" -/
def difficultyCheck : Form where
  name := "dc_check"
  kind := .skill
  pattern := sequence [.wordEdge, leadingDifficulty, anyName, abilityCheck]

/-- "Wisdom check (DC 12)" -/
def abilityOnlyCheck : Form where
  name := "ability_check"
  kind := .skill
  pattern := sequence [.wordEdge, .mark .name ability, abilityCheck, trailing .difficulty]

/-- "Perception check (DC 12)" -/
def skillCheck : Form where
  name := "skill_check"
  kind := .skill
  pattern := sequence [
    optional (chars "("), .wordEdge, .mark .skill skill, optional (chars ")"), check,
    trailing .difficulty]

/-- "[Roll: d20+Wis vs DC 12]" -/
def bracketRoll : Form where
  name := "bracket_roll"
  kind := .skill
  pattern := sequence [
    chars "[roll:", .mark .body (.many (.except ']') 0 .shortest),
    oneOf [.andThen (chars "vs") (optional (chars ".")), chars "against"], gap,
    difficulty .difficulty, .many (.except ']') 0 .longest, chars "]"]
  bracketed := true

/-- "make a DC 12 Wisdom saving throw" -/
def requestedSave : Form where
  name := "requested_save"
  kind := .save
  pattern := sequence [
    request, optional leadingDifficulty, .mark .name ability, save,
    trailing .trailingDifficulty]

/-- "DC 12 Wisdom save" -/
def difficultySave : Form where
  name := "dc_save"
  kind := .save
  pattern := sequence [.wordEdge, leadingDifficulty, .mark .name ability, save]

/-- "Wisdom save (DC 12)" -/
def abilitySave : Form where
  name := "ability_save"
  kind := .save
  pattern := sequence [.wordEdge, .mark .name ability, save, trailing .difficulty]

/-- "make a melee attack roll against AC 15, dealing 1d8 damage" -/
def requestedAttack : Form where
  name := "requested_attack"
  kind := .attack
  pattern := sequence [
    request, mode, phrase "attack roll", .wordEdge, optional target, damage]

/-- "attack roll against AC 15" -/
def attackOnTarget : Form where
  name := "attack_vs_ac"
  kind := .attack
  pattern := sequence [.wordEdge, mode, phrase "attack roll", target, damage]

/-- "ranged attack roll" -/
def attackRoll : Form where
  name := "attack_roll"
  kind := .attack
  pattern := sequence [.wordEdge, mode, phrase "attack roll", .wordEdge]

/-- All forms, by priority. -/
def all : List Form :=
  [difficultyAbilitySkillCheck, abilitySkillCheck, requestedCheck, difficultyCheck,
    abilityOnlyCheck, skillCheck, bracketRoll, requestedSave, difficultySave, abilitySave,
    requestedAttack, attackOnTarget, attackRoll]

end Form

end Tabletop.Prompt
