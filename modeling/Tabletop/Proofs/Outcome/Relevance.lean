import Tabletop.Proofs.Outcome.Improvement
import Tabletop.Proofs.Referee.Free

/-!
# Scores that matter

An outcome hangs on few scores of a character: on the one of its own ability, on strength and
dexterity if it comes from a finesse weapon, and on the three that cast spells if it comes from a
spell without a name. Two characters who agree on these come to one outcome with the same draws.
-/

namespace Tabletop

open Rolling

/-- The abilities whose scores an outcome hangs on, if a weapon that it shows is the given one. -/
def Outcome.MayUse (outcome : Outcome) (weapon : Weapon) (ability : Ability) : Prop :=
  if outcome.weapon ≠ none ∧ weapon.isFinesse then
    ability = .strength ∨ ability = .dexterity
  else if outcome.kind = .attackRoll ∧ outcome.weapon = none then
    ability ∈ Scores.spellAbilities
  else outcome.ability = some ability.name

/-- Two sets of scores agree on the abilities that an outcome may use. -/
def Scores.AgreeFor (scores other : Scores) (weapon : Weapon) (outcome : Outcome) : Prop :=
  ∀ ability, outcome.MayUse weapon ability → scores.get ability = other.get ability

namespace Outcome

variable {outcome : Outcome} {weapon : Weapon}

theorem mayUse_of_finesse
    (armed : outcome.weapon ≠ none) (finesse : weapon.isFinesse = true) (ability : Ability) :
    outcome.MayUse weapon ability ↔ ability = .strength ∨ ability = .dexterity := by
  rw [MayUse, if_pos ⟨armed, finesse⟩]

theorem mayUse_of_plain
    (armed : outcome.weapon ≠ none) (plain : ¬weapon.isFinesse = true) (ability : Ability) :
    outcome.MayUse weapon ability ↔ outcome.ability = some ability.name := by
  rw [MayUse, if_neg fun finesse => plain finesse.2, if_neg fun spell => armed spell.2]

theorem mayUse_of_spell
    (isAttack : outcome.kind = .attackRoll) (unarmed : outcome.weapon = none)
    (ability : Ability) :
    outcome.MayUse weapon ability ↔ ability ∈ Scores.spellAbilities := by
  rw [MayUse, if_neg fun finesse => finesse.1 unarmed, if_pos ⟨isAttack, unarmed⟩]

theorem mayUse_of_unarmed
    (noAttack : outcome.kind ≠ .attackRoll) (unarmed : outcome.weapon = none)
    (ability : Ability) :
    outcome.MayUse weapon ability ↔ outcome.ability = some ability.name := by
  rw [MayUse, if_neg fun finesse => finesse.1 unarmed, if_neg fun spell => noAttack spell.1]

end Outcome

/-! ## Runs that are repeated -/

/-- Wherever some work has a value of a kind, other work has the same value and takes the same
draws. -/
def RepeatedBy {α : Type} (work other : Rolling α) (Kind : α → Prop) : Prop :=
  ∀ tray value, (work tray).1 = .ok value → Kind value → other tray = work tray

section Repeated

variable {α β : Type} {Kind : α → Prop}

theorem Rolling.Ensures.repeatedBy
    {work other : Rolling α} (ensured : work.Ensures fun value => Kind value → other = work) :
    RepeatedBy work other Kind := by
  intro tray value done isKind
  rw [ensured tray value done isKind]

theorem repeatedBy_bind_lift
    {result : Except Fault β} {next after : β → Rolling α}
    (rest : ∀ value, RepeatedBy (next value) (after value) Kind) :
    RepeatedBy (lift result >>= next) (lift result >>= after) Kind := by
  cases result with
  | error fault =>
      rintro tray value ⟨⟩
  | ok middle => exact rest middle

end Repeated

/-! ## Choices of an ability -/

namespace Scores

variable {scores other : Scores}

theorem bestSpellAbility_congr
    (agree : ∀ ability ∈ spellAbilities, scores.get ability = other.get ability) :
    scores.bestSpellAbility = other.bestSpellAbility := by
  have intelligence := agree .intelligence (by decide)
  have wisdom := agree .wisdom (by decide)
  have charisma := agree .charisma (by decide)
  simp only [bestSpellAbility, intelligence, wisdom]
  by_cases wiser : other.get .intelligence < other.get .wisdom
  · simp only [if_pos wiser, wisdom, charisma]
  · simp only [if_neg wiser, intelligence, charisma]

end Scores

theorem Weapon.abilityFor_of_finesse
    {weapon : Weapon} (finesse : weapon.isFinesse = true) (scores : Scores) :
    weapon.abilityFor scores = .strength ∨ weapon.abilityFor scores = .dexterity := by
  rw [abilityFor, if_pos finesse]
  split
  · exact Or.inr rfl
  · exact Or.inl rfl

theorem Weapon.abilityFor_congr
    {weapon : Weapon} {scores other : Scores}
    (agree : weapon.isFinesse = true → ∀ ability, ability = .strength ∨ ability = .dexterity →
      scores.get ability = other.get ability) :
    weapon.abilityFor scores = weapon.abilityFor other := by
  rw [abilityFor, abilityFor]
  by_cases finesse : weapon.isFinesse = true
  · have strength : scores.strength = other.strength := agree finesse .strength (Or.inl rfl)
    have dexterity : scores.dexterity = other.dexterity := agree finesse .dexterity (Or.inr rfl)
    rw [if_pos finesse, if_pos finesse, strength, dexterity]
  · rw [if_neg finesse, if_neg finesse]

/-! ## Checks, attacks and spells -/

section Requests

variable {character : Character} {scores : Scores}

theorem CheckRequest.resolve_withScores
    (request : CheckRequest)
    (agree : ∀ ability, Ability.governing? request.key = some ability →
      scores.get ability = character.scores.get ability)
    (proficiency : Int) :
    request.resolve (character.withScores scores) proficiency =
      request.resolve character proficiency := by
  have sameProficiency :
      request.isProficient (character.withScores scores) = request.isProficient character := rfl
  have sameBonus :
      request.bonus (character.withScores scores) proficiency =
        request.bonus character proficiency := by
    simp only [bonus, sameProficiency]
    cases known : Ability.governing? request.key with
    | none => rfl
    | some ability =>
        have sameScore : (character.withScores scores).scores.get ability =
            character.scores.get ability := agree ability known
        simp only [sameScore]
  rw [resolve_eq, resolve_eq, sameBonus]

theorem CheckRequest.repeatedBy_resolve
    (request : CheckRequest) (isCheck : request.kind ≠ .attackRoll) (weapon : Weapon)
    (proficiency : Int) :
    RepeatedBy (request.resolve character proficiency)
      (request.resolve (character.withScores scores) proficiency)
      (scores.AgreeFor character.scores weapon) := by
  apply Ensures.repeatedBy
  intro tray outcome done agree
  have shown : outcome.unrolled = request.announced :=
    request.ensures_unrolled character proficiency tray outcome done
  have isKind : outcome.kind = request.kind := congrArg Outcome.kind shown
  have unarmed : outcome.weapon = none := congrArg Outcome.weapon shown
  have noAttack : outcome.kind ≠ .attackRoll := by
    rw [isKind]
    exact isCheck
  have agreeOnOwn (ability : Ability) (known : Ability.governing? request.key = some ability) :
      scores.get ability = character.scores.get ability := by
    have isAbility : outcome.unrolled.ability = some ability.name := by
      rw [shown, announced, known, Option.map_some]
    apply agree ability
    exact (Outcome.mayUse_of_unarmed noAttack unarmed ability).2 isAbility
  exact request.resolve_withScores agreeOnOwn proficiency

theorem AttackRequest.resolveWith_congr
    (request : AttackRequest) {weapon : Weapon} {other : Scores}
    (sameAbility : weapon.abilityFor scores = weapon.abilityFor other)
    (sameScore : scores.get (weapon.abilityFor other) = other.get (weapon.abilityFor other))
    (fallbackNotes : List String) (proficiency : Int) :
    request.resolveWith weapon fallbackNotes scores proficiency =
      request.resolveWith weapon fallbackNotes other proficiency := by
  simp only [resolveWith, sameAbility, sameScore]

theorem AttackRequest.ensures_abilityFor
    (request : AttackRequest) (weapon : Weapon) (fallbackNotes : List String) (scores : Scores)
    (proficiency : Int) :
    (request.resolveWith weapon fallbackNotes scores proficiency).Ensures fun outcome =>
      outcome.unrolled = request.announced weapon (weapon.abilityFor scores) fallbackNotes := by
  rw [resolveWith]
  refine ensures_bind fun test => ensures_bind fun harm => ensures_pure ?_
  exact Outcome.unrolled_withRolls (request.blank_announced weapon _ fallbackNotes) _ _ _

theorem AttackRequest.repeatedBy_resolve
    (request : AttackRequest) (compendium : Compendium) (texts : List (Option String))
    (proficiency : Int) :
    RepeatedBy (request.resolve compendium texts character proficiency)
      (request.resolve compendium texts (character.withScores scores) proficiency)
      (scores.AgreeFor character.scores (weaponIn compendium texts).1) := by
  rw [resolve_eq, resolve_eq]
  generalize weaponIn compendium texts = chosen
  obtain ⟨weapon, fallbackNotes⟩ := chosen
  apply Ensures.repeatedBy
  intro tray outcome done agree
  have shown :=
    request.ensures_abilityFor weapon fallbackNotes character.scores proficiency tray outcome done
  have isWeapon : outcome.weapon = some weapon.name := congrArg Outcome.weapon shown
  have isAbility : outcome.ability = some (weapon.abilityFor character.scores).name :=
    congrArg Outcome.ability shown
  have armed : outcome.weapon ≠ none := by
    rw [isWeapon]
    exact Option.some_ne_none _
  have agreeOnFinesse (finesse : weapon.isFinesse = true) (ability : Ability)
      (either : ability = .strength ∨ ability = .dexterity) :
      scores.get ability = character.scores.get ability := by
    apply agree ability
    exact (Outcome.mayUse_of_finesse armed finesse ability).2 either
  have sameScore :
      scores.get (weapon.abilityFor character.scores) =
        character.scores.get (weapon.abilityFor character.scores) := by
    by_cases finesse : weapon.isFinesse = true
    · exact agreeOnFinesse finesse _ (Weapon.abilityFor_of_finesse finesse character.scores)
    · apply agree
      exact (Outcome.mayUse_of_plain armed finesse _).2 isAbility
  exact request.resolveWith_congr (Weapon.abilityFor_congr agreeOnFinesse) sameScore
    fallbackNotes proficiency

theorem repeatedBy_resolveSpellAttack
    (suggestion : Suggestion) (weapon : Weapon) (proficiency : Int) (target : Option Int) :
    RepeatedBy (resolveSpellAttack suggestion character proficiency target)
      (resolveSpellAttack suggestion (character.withScores scores) proficiency target)
      (scores.AgreeFor character.scores weapon) := by
  have announces :
      (resolveSpellAttack suggestion character proficiency target).Ensures fun outcome =>
        outcome.unrolled = suggestion.announced character.scores.bestSpellAbility := by
    rw [resolveSpellAttack_eq]
    refine ensures_bind fun test => ensures_bind fun harm => ensures_pure ?_
    exact Outcome.unrolled_withRolls (suggestion.blank_announced _) _ _ _
  apply Ensures.repeatedBy
  intro tray outcome done agree
  have shown := announces tray outcome done
  have isKind : outcome.kind = .attackRoll := congrArg Outcome.kind shown
  have unarmed : outcome.weapon = none := congrArg Outcome.weapon shown
  have agreeOnSpells :
      ∀ ability ∈ Scores.spellAbilities, scores.get ability = character.scores.get ability := by
    intro ability member
    apply agree ability
    exact (Outcome.mayUse_of_spell isKind unarmed ability).2 member
  have sameAbility :
      (character.withScores scores).scores.bestSpellAbility = character.scores.bestSpellAbility :=
    Scores.bestSpellAbility_congr agreeOnSpells
  have sameScore :
      (character.withScores scores).scores.get character.scores.bestSpellAbility =
        character.scores.get character.scores.bestSpellAbility :=
    agreeOnSpells _ character.scores.bestSpellAbility_mem
  simp only [resolveSpellAttack_eq, sameAbility, sameScore]

theorem CastRequest.repeatedBy_resolve
    (request : CastRequest) (weapon : Weapon) (proficiency : Int) :
    RepeatedBy (request.resolve character proficiency)
      (request.resolve (character.withScores scores) proficiency)
      (scores.AgreeFor character.scores weapon) := by
  apply Ensures.repeatedBy
  intro tray outcome done agree
  have shown := request.ensures_unrolled character proficiency tray outcome done
  obtain ⟨announcedKind, announcedAbility, -⟩ := request.announced_shows
    (character.scores.get request.spell.ability.toAbility) proficiency
  have isKind : outcome.kind = .spellCast := (congrArg Outcome.kind shown).trans announcedKind
  have noAttack : outcome.kind ≠ .attackRoll := by
    rw [isKind]
    decide
  have isAbility : outcome.ability = some request.spell.ability.toAbility.name :=
    (congrArg Outcome.ability shown).trans announcedAbility
  have unarmed : outcome.weapon = none :=
    (congrArg Outcome.weapon shown).trans (request.announced_weapon _ proficiency)
  have sameScore :
      (character.withScores scores).scores.get request.spell.ability.toAbility =
        character.scores.get request.spell.ability.toAbility := by
    apply agree
    exact (Outcome.mayUse_of_unarmed noAttack unarmed _).2 isAbility
  have sameLevel : (character.withScores scores).level = character.level := rfl
  simp only [resolve_eq, sameScore, sameLevel]

end Requests

/-! ## Suggestions and described actions -/

namespace Referee

variable (referee : Referee) {character : Character} {scores : Scores}

theorem repeatedBy_resolve (suggestion : Suggestion) (options : Options) :
    RepeatedBy (referee.resolve suggestion character options)
      (referee.resolve suggestion (character.withScores scores) options)
      (scores.AgreeFor character.scores
        (AttackRequest.weaponIn referee.compendium [character.equippedWeapon]).1) := by
  have sameProficiency :
      referee.proficiency (character.withScores scores) options.proficiency =
        referee.proficiency character options.proficiency := rfl
  have sameWeapon : (character.withScores scores).equippedWeapon = character.equippedWeapon := rfl
  rw [resolve, resolve, sameProficiency, sameWeapon]
  cases suggestion.kind with
  | attack =>
      by_cases casts : suggestion.mode = some "spell"
      · simp only [casts, if_true]
        exact repeatedBy_resolveSpellAttack suggestion _ _ _
      · simp only [casts, if_false]
        exact AttackRequest.repeatedBy_resolve _ _ _ _
  | skill => exact CheckRequest.repeatedBy_resolve _ (by simp) _ _
  | save => exact CheckRequest.repeatedBy_resolve _ (by simp) _ _

theorem repeatedBy_resolveNamed
    (text : String) (weapon : Weapon) (proficiency : Int) (notes : List String) :
    RepeatedBy (resolveNamed text character proficiency notes)
      (resolveNamed text (character.withScores scores) proficiency notes)
      (scores.AgreeFor character.scores weapon) := by
  rw [resolveNamed, resolveNamed]
  split
  · intro tray outcome _ _
    rfl
  · apply repeatedBy_bind_lift
    intro difficulty
    apply CheckRequest.repeatedBy_resolve
    simp only
    split <;> simp

theorem repeatedBy_resolveArmed
    (text : String) (proficiency : Int) (notes : List String) :
    RepeatedBy (referee.resolveArmed text character proficiency notes)
      (referee.resolveArmed text (character.withScores scores) proficiency notes)
      (scores.AgreeFor character.scores
        (AttackRequest.weaponIn referee.compendium [some text, character.equippedWeapon]).1) := by
  rw [resolveArmed, resolveArmed]
  split
  · apply repeatedBy_bind_lift
    intro target
    exact AttackRequest.repeatedBy_resolve _ _ _ _
  · exact repeatedBy_resolveNamed text _ proficiency notes

theorem repeatedBy_resolveFree (text : String) (override : Option Int) :
    RepeatedBy (referee.resolveFree text character override)
      (referee.resolveFree text (character.withScores scores) override)
      (scores.AgreeFor character.scores
        (AttackRequest.weaponIn referee.compendium [some text, character.equippedWeapon]).1) := by
  have sameProficiency :
      referee.proficiency (character.withScores scores) override =
        referee.proficiency character override := rfl
  rw [resolveFree, resolveFree, sameProficiency]
  split
  · cases referee.compendium.findSpell? text with
    | none => exact referee.repeatedBy_resolveArmed text _ _
    | some spell =>
        apply repeatedBy_bind_lift
        intro slot
        apply repeatedBy_bind_lift
        intro target
        exact CastRequest.repeatedBy_resolve _ _ _
  · exact referee.repeatedBy_resolveArmed text _ _

end Referee

/-- A character whose other scores differ from those that an outcome may use comes to the same
outcome with the same draws, be it of a suggestion or of a described action. -/
theorem only_scores_in_use_matter
    (referee : Referee) (character : Character) (scores : Scores) (tray : Tray)
    (outcome : Outcome) :
    (∀ suggestion options,
      (referee.resolve suggestion character options tray).1 = .ok outcome →
        scores.AgreeFor character.scores
          (AttackRequest.weaponIn referee.compendium [character.equippedWeapon]).1 outcome →
        referee.resolve suggestion (character.withScores scores) options tray =
          referee.resolve suggestion character options tray) ∧
    ∀ text override,
      (referee.resolveFree text character override tray).1 = .ok outcome →
        scores.AgreeFor character.scores
          (AttackRequest.weaponIn referee.compendium [some text, character.equippedWeapon]).1
          outcome →
        referee.resolveFree text (character.withScores scores) override tray =
          referee.resolveFree text character override tray := by
  constructor
  · intro suggestion options done agree
    exact referee.repeatedBy_resolve suggestion options tray outcome done agree
  · intro text override done agree
    exact referee.repeatedBy_resolveFree text override tray outcome done agree

/-- An attack with a rapier, on which the wits of a character have no bearing. -/
theorem only_scores_in_use_matter_for_a_rapier :
    let referee : Referee := ⟨Compendium.standard, {}⟩
    let tray : Tray := ⟨Source.ofList [], 0⟩
    let text := "I attack with my rapier vs AC 14"
    let clever : Scores := { constitution := 8, intelligence := 17, wisdom := 13 }
    ∃ outcome,
      (referee.resolveFree text {} none tray).1 = .ok outcome ∧
        outcome.weapon = some "Rapier" ∧
        referee.resolveFree text (Character.withScores {} clever) none tray =
          referee.resolveFree text {} none tray := by
  intro referee tray text clever
  have wielded :
      (referee.resolveFree text {} none tray).1.toOption.map Outcome.weapon =
        some (some "Rapier") := by
    decide +kernel
  have isFinesse :
      (AttackRequest.weaponIn referee.compendium [some text, none]).1.isFinesse = true := by
    decide +kernel
  have isSome : (referee.resolveFree text {} none tray).1.toOption.isSome = true := by
    rw [← Option.isSome_map, wielded, Option.isSome_some]
  obtain ⟨outcome, done⟩ := exists_of_isSome_toOption isSome
  have isRapier : outcome.weapon = some "Rapier" := by
    rw [done] at wielded
    exact Option.some.inj wielded
  have armed : outcome.weapon ≠ none := by
    rw [isRapier]
    exact Option.some_ne_none _
  have agree : clever.AgreeFor {}
      (AttackRequest.weaponIn referee.compendium [some text, none]).1 outcome := by
    intro ability used
    rcases (Outcome.mayUse_of_finesse armed isFinesse ability).1 used with rfl | rfl
    · rfl
    · rfl
  have same := only_scores_in_use_matter referee {} clever tray outcome
  exact ⟨outcome, done, isRapier, same.2 text none done agree⟩

end Tabletop
