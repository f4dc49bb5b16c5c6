import Tabletop.Casting
import Tabletop.Character
import Tabletop.Compendium
import Tabletop.Referee.Wording
import Tabletop.Settings

/-!
The referee: from what a text suggests, or from an action as a player describes it, to its outcome.
Checks, attacks and spells are each resolved by one function, which rolls first for the hit and
then for what it does.
-/

namespace Tabletop

/-- Who applies the rules: the settings and the compendium in use. -/
structure Referee where
  compendium : Compendium
  settings : Settings := {}

namespace Referee

/-- The proficiency bonus of a character: the one that overrides all, else the character's own,
else the one that the settings give. -/
def proficiency (referee : Referee) (character : Character) (override : Option Int) : Int :=
  match override, character.proficiencyBonus with
  | some bonus, _ => bonus
  | none, some bonus => bonus
  | none, none =>
      if referee.settings.byLevel then levelBonus character.level.value
      else referee.settings.proficiencyBonus

end Referee

/-! ## Checks -/

/-- A check to be rolled. -/
structure CheckRequest where
  kind : ActionKind
  description : String
  ability : Option String
  skill : Option String
  difficulty : Option Int
  /-- Whether the proficiency bonus counts, where it is not left to the character. -/
  proficient : Option Bool := none
  suggestion : Option Suggestion := none
  notes : List String := []

namespace CheckRequest

/-- The name under which the score is looked up: the ability, else the skill. -/
def key (request : CheckRequest) : String :=
  ((Text.nonEmpty? request.ability).or (Text.nonEmpty? request.skill)).getD ""

/-- Whether a character is proficient in what is asked for. -/
def isProficient (request : CheckRequest) (character : Character) : Bool :=
  match request.proficient with
  | some proficient => proficient
  | none =>
      if request.kind = .savingThrow then request.ability.any character.isProficientInSave
      else request.skill.any character.isProficientInSkill

/-- What a character adds to the die. -/
def bonus (request : CheckRequest) (character : Character) (proficiency : Int) : Int :=
  let modifier :=
    match Ability.governing? request.key with
    | some ability => scoreModifier (character.scores.get ability)
    | none => 0
  modifier + (if request.isProficient character then proficiency else 0)

/-- Rolls a check. -/
def resolve (request : CheckRequest) (character : Character) (proficiency : Int) :
    Rolling Outcome := do
  let test ← Test.roll (request.bonus character proficiency) request.difficulty
  pure {
    kind := request.kind
    description := request.description
    suggestion := request.suggestion
    face := some test.face
    modifier := test.modifier
    total := test.total
    success := test.success
    critical := test.critical
    ability := (Ability.governing? request.key).map Ability.name
    skill := request.skill
    notes := request.notes }

end CheckRequest

/-! ## Attacks -/

/-- An attack to be rolled. -/
structure AttackRequest where
  kind : ActionKind
  description : String
  target : Option Int
  suggestion : Option Suggestion := none
  /-- Dice that take the place of the weapon's. -/
  damage : Option String := none
  notes : List String := []
  proficient : Bool := true

/-- An outcome with the damage that was rolled for it. -/
def Outcome.withDamage (outcome : Outcome) (damage : Option Roll) : Outcome :=
  match damage with
  | some roll =>
      { outcome with
        damage := some roll.total
        damageFaces := roll.faces
        damageBonus := roll.modifier }
  | none => outcome

/-- An outcome with the test that was rolled for it. -/
def Outcome.withTest (outcome : Outcome) (test : Test) : Outcome :=
  { outcome with
    face := some test.face
    modifier := test.modifier
    total := test.total
    success := test.success
    critical := test.critical }

namespace AttackRequest

/-- The weapon that the first of several texts names, and a note if texts name none. -/
def weaponIn (compendium : Compendium) (texts : List (Option String)) :
    Weapon × List String :=
  let named := texts.filterMap Text.nonEmpty?
  match named.findSome? compendium.findWeapon? with
  | some weapon => (weapon, [])
  | none =>
      (Weapon.unarmedStrike,
        if named.isEmpty then [] else ["Unknown weapon, using " ++ Weapon.unarmedStrike.name])

/-- The damage of an attack that may hit: the dice it brings, or those of the weapon with the
modifier of the ability. -/
def rollFor (request : AttackRequest) (weapon : Weapon) (modifier : Int) (critical : Bool) :
    Rolling Roll :=
  match Text.nonEmpty? request.damage with
  | some text => do
      let dice ← Rolling.lift (Dice.parse text)
      rollDamage [dice] 0 critical
  | none => rollDamage [weapon.damage.dice] modifier critical

/-- Rolls an attack with the first weapon that the texts name. -/
def resolve (request : AttackRequest) (compendium : Compendium) (texts : List (Option String))
    (character : Character) (proficiency : Int) : Rolling Outcome := do
  let (weapon, fallbackNotes) := weaponIn compendium texts
  let (ability, modifier, bonus) :=
    Id.run (weapon.attackBonus (m := Id) character.scores.get proficiency request.proficient)
  let test ← Test.roll bonus request.target
  let damage ←
    if test.mayHit then some <$> request.rollFor weapon modifier test.isCritical else pure none
  let outcome : Outcome := {
    kind := request.kind
    description := request.description
    suggestion := request.suggestion
    ability := some ability.name
    weapon := some weapon.name
    damageType := some weapon.damage.type
    notes := request.notes ++ fallbackNotes }
  pure ((outcome.withTest test).withDamage damage)

end AttackRequest

/-- The spellcasting ability in which scores are best, the earlier one if two are equal. -/
def Scores.bestSpellAbility (scores : Scores) : Ability :=
  let better (best next : Ability) := if scores.get best < scores.get next then next else best
  better (better .intelligence .wisdom) .charisma

/-- Rolls an attack with a spell that is not named. -/
def resolveSpellAttack (suggestion : Suggestion) (character : Character) (proficiency : Int)
    (target : Option Int) : Rolling Outcome := do
  let ability := character.scores.bestSpellAbility
  let test ← Test.roll (spellAttackBonus (character.scores.get ability) proficiency) target
  let damage ←
    match Text.nonEmpty? suggestion.damage with
    | some text =>
        if test.mayHit then do
          let dice ← Rolling.lift (Dice.parse text)
          some <$> rollDamage [dice] 0 test.isCritical
        else pure none
    | none => pure none
  let outcome : Outcome := {
    kind := .attackRoll
    description := suggestion.description
    suggestion := some suggestion
    ability := some ability.name }
  pure ((outcome.withTest test).withDamage damage)

/-! ## Spells -/

/-- A spell to be cast. -/
structure CastRequest where
  spell : Spell
  description : String
  slot : Option Int
  target : Option Int

namespace CastRequest

/-- The slot that the spell takes. -/
def slotTaken (request : CastRequest) : Int :=
  request.spell.slotFor request.slot

/-- The outcome before anything is rolled: the spell, and the saving throw against it. -/
def announced (request : CastRequest) (score proficiency : Int) : Outcome :=
  let outcome : Outcome := {
    kind := .spellCast
    description := request.description
    ability := some request.spell.ability.toAbility.name
    spell := some request.spell.name
    slot := some request.slotTaken
    damageType := request.spell.damage.map SpellDamage.type }
  match request.spell.savingThrow with
  | some save =>
      { outcome with
        saveDifficulty := some (spellDifficulty score proficiency)
        saveAbility := some save.ability.name
        saveEffect := some save.effect.name }
  | none => outcome

/-- Rolls to hit, if the spell has to. -/
def rollToHit (request : CastRequest) (score proficiency : Int) : Rolling (Option Test) :=
  if request.spell.needsAttackRoll then
    some <$> Test.roll (spellAttackBonus score proficiency) request.target
  else pure none

/-- Rolls the damage, if the spell does any and may hit. -/
def rollHarm (request : CastRequest) (test : Option Test) (modifier : Int) (level : Int) :
    Rolling (Option Roll) :=
  match request.spell.damage with
  | some damage =>
      if test.all Test.mayHit then
        let pool := request.spell.poolAt damage.dice damage.scaling request.slotTaken level
        some <$> rollDamage pool (if damage.addsModifier then modifier else 0)
          (test.any Test.isCritical)
      else pure none
  | none => pure none

/-- Rolls the healing, if the spell heals. -/
def rollRelief (request : CastRequest) (modifier : Int) (level : Int) :
    Rolling (Option Roll) :=
  match request.spell.healing with
  | some healing =>
      let pool := request.spell.poolAt healing.dice healing.scaling request.slotTaken level
      some <$> rollHealing pool healing.bonus modifier
  | none => pure none

/-- Casts a spell. -/
def resolve (request : CastRequest) (character : Character) (proficiency : Int) :
    Rolling Outcome := do
  let score := character.scores.get request.spell.ability.toAbility
  let modifier := scoreModifier score
  let level := character.level.value
  let test ← request.rollToHit score proficiency
  let harm ← request.rollHarm test modifier level
  let relief ← request.rollRelief modifier level
  let outcome := request.announced score proficiency
  let outcome :=
    match test with
    | some test => outcome.withTest test
    | none => outcome
  let outcome := outcome.withDamage harm
  pure (match relief with
    | some roll => { outcome with healing := some roll.total, healingFaces := roll.faces }
    | none => outcome)

end CastRequest

/-! ## Suggestions and described actions -/

namespace Referee

/-- What a caller may say about a suggestion to be resolved. -/
structure Options where
  proficient : Option Bool := none
  armorClass : Option Int := none
  proficiency : Option Int := none

/-- Resolves a suggestion for a character. -/
def resolve (referee : Referee) (suggestion : Suggestion) (character : Character)
    (options : Options) : Rolling Outcome :=
  let proficiency := referee.proficiency character options.proficiency
  match suggestion.kind with
  | .attack =>
      let target := options.armorClass.or suggestion.armorClass
      if suggestion.mode = some "spell" then
        resolveSpellAttack suggestion character proficiency target
      else
        let request : AttackRequest := {
          kind := .attackRoll
          description := suggestion.description
          target := target
          suggestion := some suggestion
          damage := suggestion.damage
          proficient := options.proficient != some false }
        request.resolve referee.compendium [character.equippedWeapon] character proficiency
  | kind =>
      let request : CheckRequest := {
        kind := if kind = .save then .savingThrow else .skillCheck
        description := suggestion.description
        ability := suggestion.ability
        skill := suggestion.skill
        difficulty := suggestion.difficulty
        proficient := options.proficient
        suggestion := some suggestion }
      request.resolve character proficiency

/-- Resolves an action that names an ability or a skill, or none. -/
def resolveNamed (text : String) (character : Character) (proficiency : Int)
    (notes : List String) : Rolling Outcome := do
  match (Wording.named.search? text.toList).bind (·.mark? ()) with
  | none =>
      pure {
        kind := .unresolved
        description := text
        notes := notes ++ ["No ability, skill, weapon or spell recognized"] }
  | some found =>
      let name := Text.lower found
      let ability := Ability.ofName? name
      let skill := if ability.isSome then none else some (Skill.normalForm name)
      let governing := ability.or (skill.bind fun skill => (Skill.ofName? skill).map Skill.ability)
      let kind : ActionKind :=
        if Wording.saveWord.occursIn text.toList then .savingThrow else .skillCheck
      let difficulty ← Rolling.lift (Wording.numberIn Wording.difficulty text.toList)
      let request : CheckRequest := {
        kind := kind
        description := text
        ability := governing.map Ability.name
        skill := if kind = .skillCheck then skill else none
        difficulty := difficulty
        notes := notes }
      request.resolve character proficiency

/-- Resolves an action that may be an attack with a weapon. -/
def resolveArmed (referee : Referee) (text : String) (character : Character) (proficiency : Int)
    (notes : List String) : Rolling Outcome := do
  if Wording.weaponVerb.occursIn text.toList then
    let target ← Rolling.lift (Wording.numberIn Wording.armorClass text.toList)
    let request : AttackRequest := {
      kind := .weaponAttack
      description := text
      target := target
      notes := notes }
    request.resolve referee.compendium [some text, character.equippedWeapon] character proficiency
  else resolveNamed text character proficiency notes

/-- Resolves an action as a player describes it: a spell that it names, else an attack with a
weapon, else a check of the ability or skill that it names. -/
def resolveFree (referee : Referee) (text : String) (character : Character)
    (override : Option Int) : Rolling Outcome := do
  let proficiency := referee.proficiency character override
  if Wording.spellWord.occursIn text.toList then
    match referee.compendium.findSpell? text with
    | some spell =>
        let slot ← Rolling.lift (Wording.numberIn Wording.slotLevel text.toList)
        let target ← Rolling.lift (Wording.numberIn Wording.armorClass text.toList)
        let request : CastRequest :=
          { spell := spell, description := text, slot := slot, target := target }
        request.resolve character proficiency
    | none =>
        referee.resolveArmed text character proficiency
          ["Unknown spell, no spell effect applied"]
  else referee.resolveArmed text character proficiency []

end Referee

end Tabletop
