import Tabletop.Proofs.Outcome.Coherence

/-!
# The stages of an outcome

A request announces what is known before anything is rolled. Then a test, damage and healing are
rolled, as far as the request has them, and the outcome is the announced one with these rolls.
-/

namespace Tabletop

/-! ## Outcomes without their rolls -/

namespace Outcome

/-- An outcome without what was rolled for it. -/
def unrolled (outcome : Outcome) : Outcome :=
  { outcome with
    face := none
    modifier := 0
    total := 0
    success := none
    critical := none
    damage := none
    damageFaces := []
    damageBonus := 0
    healing := none
    healingFaces := [] }

theorem unrolled_withRolls
    {outcome : Outcome} (blank : outcome.Blank) (test : Option Test) (harm relief : Option Roll) :
    (outcome.withRolls test harm relief).unrolled = outcome := by
  rw [blank.withRolls_eq]
  cases outcome
  obtain ⟨rfl, rfl, rfl, rfl, rfl, rfl, rfl, rfl, rfl, rfl⟩ := blank
  rfl

end Outcome

/-! ## Checks -/

namespace CheckRequest

variable (request : CheckRequest)

/-- The outcome of a check before it is rolled. -/
def announced : Outcome where
  kind := request.kind
  description := request.description
  suggestion := request.suggestion
  ability := (Ability.governing? request.key).map Ability.name
  skill := request.skill
  notes := request.notes

theorem blank_announced : request.announced.Blank :=
  ⟨rfl, rfl, rfl, rfl, rfl, rfl, rfl, rfl, rfl, rfl⟩

/-- What a request says of itself has no bearing on how a check is rolled. -/
theorem bonus_restated (description : String) (suggestion : Option Suggestion) :
    ({ request with description := description, suggestion := suggestion }).bonus =
      request.bonus := by
  have sameKey :
      ({ request with description := description, suggestion := suggestion }).key =
        request.key := by
    simp only [key]
  have sameSkill :
      ({ request with description := description, suggestion := suggestion }).isProficient =
        request.isProficient := by
    funext character
    simp only [isProficient]
  funext character proficiency
  simp only [bonus, sameKey, sameSkill]

theorem resolve_eq (character : Character) (proficiency : Int) :
    request.resolve character proficiency = (do
      let test ← Test.roll (request.bonus character proficiency) request.difficulty
      pure (request.announced.withRolls (some test) none none)) := by
  rw [resolve, announced]
  generalize (Ability.governing? request.key).map Ability.name = ability
  rfl

end CheckRequest

/-! ## Attacks -/

/-- The ability with which a weapon attacks: of a finesse weapon the better of strength and
dexterity. -/
def Weapon.abilityFor (weapon : Weapon) (scores : Scores) : Ability :=
  if weapon.isFinesse then
    if scores.strength < scores.dexterity then .dexterity else .strength
  else weapon.ability.toAbility

theorem Weapon.run_attackBonus
    (weapon : Weapon) (scores : Scores) (proficiency : Int) (proficient : Bool) :
    Id.run (weapon.attackBonus (m := Id) scores.get proficiency proficient) =
      (weapon.abilityFor scores, scoreModifier (scores.get (weapon.abilityFor scores)),
        scoreModifier (scores.get (weapon.abilityFor scores)) +
          (if proficient then proficiency else 0)) := by
  rw [Weapon.attackBonus, Weapon.attackAbility, Weapon.abilityFor]
  by_cases finesse : weapon.isFinesse = true
  · rw [if_pos finesse, if_pos finesse]
    rfl
  · rw [if_neg finesse, if_neg finesse]
    rfl

/-- Damage that is done only if a test may hit. -/
def Test.rollHarm (test : Test) (work : Rolling Roll) : Rolling (Option Roll) :=
  if test.mayHit then some <$> work else pure none

namespace AttackRequest

variable (request : AttackRequest)

/-- The outcome of an attack with a weapon before it is rolled. -/
def announced (weapon : Weapon) (ability : Ability) (fallbackNotes : List String) : Outcome where
  kind := request.kind
  description := request.description
  suggestion := request.suggestion
  ability := some ability.name
  weapon := some weapon.name
  damageType := some weapon.damage.type
  notes := request.notes ++ fallbackNotes

theorem blank_announced (weapon : Weapon) (ability : Ability) (fallbackNotes : List String) :
    (request.announced weapon ability fallbackNotes).Blank :=
  ⟨rfl, rfl, rfl, rfl, rfl, rfl, rfl, rfl, rfl, rfl⟩

/-- Rolls an attack with a weapon that was found. -/
def resolveWith (weapon : Weapon) (fallbackNotes : List String) (scores : Scores)
    (proficiency : Int) : Rolling Outcome := do
  let ability := weapon.abilityFor scores
  let modifier := scoreModifier (scores.get ability)
  let test ← Test.roll (modifier + if request.proficient then proficiency else 0) request.target
  let harm ← test.rollHarm (request.rollFor weapon modifier test.isCritical)
  pure ((request.announced weapon ability fallbackNotes).withRolls (some test) harm none)

theorem resolve_eq
    (compendium : Compendium) (texts : List (Option String)) (character : Character)
    (proficiency : Int) :
    request.resolve compendium texts character proficiency =
      request.resolveWith (weaponIn compendium texts).1 (weaponIn compendium texts).2
        character.scores proficiency := by
  simp only [resolve, Weapon.run_attackBonus]
  generalize weaponIn compendium texts = chosen
  obtain ⟨weapon, fallbackNotes⟩ := chosen
  rw [resolveWith]
  refine bind_congr fun test => ?_
  rw [Test.rollHarm]
  split <;> rfl

end AttackRequest

/-- The outcome of an attack with a spell that is not named, before it is rolled. -/
def Suggestion.announced (suggestion : Suggestion) (ability : Ability) : Outcome where
  kind := .attackRoll
  description := suggestion.description
  suggestion := some suggestion
  ability := some ability.name

theorem Suggestion.blank_announced (suggestion : Suggestion) (ability : Ability) :
    (suggestion.announced ability).Blank :=
  ⟨rfl, rfl, rfl, rfl, rfl, rfl, rfl, rfl, rfl, rfl⟩

/-- The damage that a suggestion itself calls for. -/
def Suggestion.rollHarm (suggestion : Suggestion) (test : Test) : Rolling (Option Roll) :=
  match Text.nonEmpty? suggestion.damage with
  | some text =>
      test.rollHarm do
        let dice ← Rolling.lift (Dice.parse text)
        rollDamage [dice] 0 test.isCritical
  | none => pure none

theorem resolveSpellAttack_eq
    (suggestion : Suggestion) (character : Character) (proficiency : Int) (target : Option Int) :
    resolveSpellAttack suggestion character proficiency target = (do
      let ability := character.scores.bestSpellAbility
      let test ← Test.roll (spellAttackBonus (character.scores.get ability) proficiency) target
      let harm ← suggestion.rollHarm test
      pure ((suggestion.announced ability).withRolls (some test) harm none)) := by
  rw [resolveSpellAttack]
  generalize character.scores.bestSpellAbility = ability
  refine bind_congr fun test => ?_
  rw [Suggestion.rollHarm]
  cases Text.nonEmpty? suggestion.damage with
  | none => rfl
  | some text =>
      simp only [Test.rollHarm]
      split
      · simp only [map_bind, bind_assoc]
        rfl
      · rfl

/-! ## Spells -/

theorem CastRequest.resolve_eq
    (request : CastRequest) (character : Character) (proficiency : Int) :
    request.resolve character proficiency = (do
      let score := character.scores.get request.spell.ability.toAbility
      let test ← request.rollToHit score proficiency
      let harm ← request.rollHarm test (scoreModifier score) character.level.value
      let relief ← request.rollRelief (scoreModifier score) character.level.value
      pure ((request.announced score proficiency).withRolls test harm relief)) := by
  rw [resolve]
  rfl

/-- What a cast spell shows of its kind, its ability and a skill. -/
theorem CastRequest.announced_shows (request : CastRequest) (score proficiency : Int) :
    (request.announced score proficiency).kind = .spellCast ∧
      (request.announced score proficiency).ability =
        some request.spell.ability.toAbility.name ∧
      (request.announced score proficiency).skill = none := by
  rw [announced]
  cases request.spell.savingThrow <;> exact ⟨rfl, rfl, rfl⟩

/-! ## What outcomes show beside their rolls -/

theorem CheckRequest.ensures_unrolled
    (request : CheckRequest) (character : Character) (proficiency : Int) :
    (request.resolve character proficiency).Ensures fun outcome =>
      outcome.unrolled = request.announced := by
  rw [resolve_eq]
  refine Rolling.ensures_bind fun test => Rolling.ensures_pure ?_
  exact Outcome.unrolled_withRolls request.blank_announced _ _ _

theorem AttackRequest.ensures_unrolled
    (request : AttackRequest) (compendium : Compendium) (texts : List (Option String))
    (character : Character) (proficiency : Int) :
    (request.resolve compendium texts character proficiency).Ensures fun outcome =>
      ∃ weapon ability fallbackNotes,
        outcome.unrolled = request.announced weapon ability fallbackNotes := by
  rw [resolve_eq]
  generalize weaponIn compendium texts = chosen
  obtain ⟨weapon, fallbackNotes⟩ := chosen
  rw [resolveWith]
  refine Rolling.ensures_bind fun test => ?_
  refine Rolling.ensures_bind fun harm => Rolling.ensures_pure ?_
  exact ⟨weapon, _, fallbackNotes,
    Outcome.unrolled_withRolls (request.blank_announced weapon _ fallbackNotes) _ _ _⟩

theorem CastRequest.ensures_unrolled
    (request : CastRequest) (character : Character) (proficiency : Int) :
    (request.resolve character proficiency).Ensures fun outcome =>
      outcome.unrolled =
        request.announced (character.scores.get request.spell.ability.toAbility) proficiency := by
  rw [resolve_eq]
  refine Rolling.ensures_bind fun test => ?_
  refine Rolling.ensures_bind fun harm => ?_
  refine Rolling.ensures_bind fun relief => Rolling.ensures_pure ?_
  exact Outcome.unrolled_withRolls (request.blank_announced _ proficiency) test harm relief

end Tabletop
