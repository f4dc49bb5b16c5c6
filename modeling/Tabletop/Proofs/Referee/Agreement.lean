import Tabletop.Proofs.Referee.Hearing

/-!
# Prompts taken up as they stand

A player may answer a prompt by its suggestion or by repeating its words. For a check of an ability
or of a skill both come to the same outcome. Of an ability with a skill in brackets only the ability
is heard, and a saving throw is taken for an attack.
-/

namespace Tabletop

open Numeral Pattern Prompt Text

/-! ## Suggested checks -/

/-- An outcome without the suggestion that it comes from. -/
def Outcome.withoutSuggestion (outcome : Outcome) : Outcome :=
  { outcome with suggestion := none }

theorem CheckRequest.resolve_unsuggested
    (request : CheckRequest) (character : Character) (proficiency : Int) :
    ({ request with suggestion := none }).resolve character proficiency =
      Outcome.withoutSuggestion <$> request.resolve character proficiency := by
  simp only [resolve, bonus_restated, map_bind, map_pure]
  simp only [Outcome.withoutSuggestion, key]

namespace Referee

variable (referee : Referee) {text : String} {numbers : Nat → List Char} {difficulty : Int}

/-- The check that a suggestion asks for. -/
theorem resolve_of_check
    (suggestion : Suggestion) (isCheck : suggestion.kind = .skill)
    (character : Character) (override : Option Int) :
    Outcome.withoutSuggestion <$>
        referee.resolve suggestion character { proficiency := override } =
      CheckRequest.resolve
        { kind := .skillCheck, description := suggestion.description
          ability := suggestion.ability, skill := suggestion.skill
          difficulty := suggestion.difficulty }
        character (referee.proficiency character override) := by
  rw [resolve, isCheck]
  exact (CheckRequest.resolve_unsuggested _ character _).symm

/-! ## Described checks -/

theorem resolveFree_of_no_spell
    (noSpell : Wording.spellWord.occursIn text.toList = false)
    (character : Character) (override : Option Int) :
    referee.resolveFree text character override =
      referee.resolveArmed text character (referee.proficiency character override) [] := by
  rw [resolveFree, noSpell, if_neg Bool.false_ne_true]

theorem resolveFree_of_asksFor
    {name : Outline} (asks : Wording.AsksFor text name difficulty numbers)
    (character : Character) (override : Option Int) :
    referee.resolveFree text character override =
      resolveNamed text character (referee.proficiency character override) [] := by
  rw [referee.resolveFree_of_no_spell asks.noSpell, resolveArmed, asks.unarmed,
    if_neg Bool.false_ne_true]

theorem resolveFree_of_ability
    {ability : Ability} {short : Bool}
    (asks : Wording.AsksFor text (plain (ability.word short)) difficulty numbers)
    (character : Character) (override : Option Int) :
    referee.resolveFree text character override =
      CheckRequest.resolve
        { kind := .skillCheck, description := text, ability := some ability.name, skill := none
          difficulty := some difficulty }
        character (referee.proficiency character override) := by
  obtain ⟨found, isNamed, written⟩ := asks.isNamed
  have known := Ability.ofName?_lower_of_written written
  have isRequest :
      checkFor text (some ability) none (some difficulty) [] =
        { kind := .skillCheck, description := text, ability := some ability.name, skill := none
          difficulty := some difficulty } := by
    simp only [checkFor, asks.isCheck, if_true, Option.map_some]
  rw [referee.resolveFree_of_asksFor asks, resolveNamed_of_ability isNamed known, asks.isHard,
    ← isRequest]
  rfl

theorem resolveFree_of_skill
    {skill : Skill} (isRun : ∀ index, IsRun (numbers index))
    (asks : Wording.AsksFor text (plain skill.name) difficulty numbers)
    (character : Character) (override : Option Int) :
    referee.resolveFree text character override =
      CheckRequest.resolve
        { kind := .skillCheck, description := text, ability := some skill.ability.name
          skill := some skill.name, difficulty := some difficulty }
        character (referee.proficiency character override) := by
  obtain ⟨found, isNamed, written⟩ := asks.isNamed
  obtain ⟨noAbility, spelled⟩ := Skill.lower_of_written isRun written
  have governing : (Skill.ofName? skill.name).map Skill.ability = some skill.ability := by
    rw [Skill.ofName?_name, Option.map_some]
  have isRequest :
      checkFor text (some skill.ability) (some skill.name) (some difficulty) [] =
        { kind := .skillCheck, description := text, ability := some skill.ability.name
          skill := some skill.name, difficulty := some difficulty } := by
    simp only [checkFor, asks.isCheck, if_true, Option.map_some]
  rw [referee.resolveFree_of_asksFor asks,
    resolveNamed_of_skill isNamed noAbility spelled governing, asks.isHard, ← isRequest]
  rfl

/-- An action that speaks of an attack but of no armor class. -/
theorem resolveFree_of_weapon
    (noSpell : Wording.spellWord.occursIn text.toList = false)
    (armed : Wording.weaponVerb.occursIn text.toList = true)
    (noTarget : Wording.armorClass.occursIn text.toList = false)
    (character : Character) (override : Option Int) :
    referee.resolveFree text character override =
      AttackRequest.resolve { kind := .weaponAttack, description := text, target := none }
        referee.compendium [some text, character.equippedWeapon] character
        (referee.proficiency character override) := by
  have isNone : Wording.armorClass.search? text.toList = none := by
    rw [occursIn, Option.isSome_eq_false_iff, Option.isNone_iff_eq_none] at noTarget
    exact noTarget
  have untargeted : Wording.numberIn Wording.armorClass text.toList = .ok none := by
    simp only [Wording.numberIn, isNone, Option.bind_none]
  rw [referee.resolveFree_of_no_spell noSpell, resolveArmed, if_pos armed, untargeted]
  rfl

end Referee

/-! ## Prompts taken up -/

/-- A prompt for a check or a saving throw makes one suggestion. As an action, a check comes to the
same outcome as its suggestion, or, if it gives a skill in brackets, to the outcome without the
skill. A saving throw comes to an attack with a weapon. -/
theorem actions_agree_with_suggestions
    (wording : CheckWording) (numbers : Nat → List Char) {text : String}
    (isRun : ∀ index, IsRun (numbers index)) (short : (numbers 0).length ≤ digitLimit)
    (written : wording.outline.WrittenAs numbers text.toList)
    (referee : Referee) (character : Character) (override : Option Int) :
    let said := wording.suggestion numbers text
    let suggested (suggestion : Suggestion) : Rolling Outcome :=
      Outcome.withoutSuggestion <$>
        referee.resolve suggestion character { proficiency := override }
    suggestions text = .ok [said] ∧
      match wording with
      | .abilityCheck _ _ | .skillCheck _ =>
          referee.resolveFree text character override = suggested said
      | .abilitySkillCheck _ _ _ =>
          referee.resolveFree text character override = suggested { said with skill := none }
      | .save _ _ =>
          referee.resolveFree text character override =
            AttackRequest.resolve { kind := .weaponAttack, description := text, target := none }
              referee.compendium [some text, character.equippedWeapon] character
              (referee.proficiency character override) := by
  intro said suggested
  refine ⟨wording.suggestions_eq isRun short written, ?_⟩
  cases wording with
  | abilityCheck inShort ability =>
      have hears := Wording.hearsCheck_abilityCheck ability ability.mem_all inShort
      have asks := Wording.asksFor_of_hearsCheck isRun short written hears
      have heard := referee.resolveFree_of_ability asks character override
      have isSuggested := referee.resolve_of_check said rfl character override
      exact heard.trans isSuggested.symm
  | skillCheck skill =>
      have hears := Wording.hearsCheck_skillCheck skill skill.mem_all
      have asks := Wording.asksFor_of_hearsCheck isRun short written hears
      have heard := referee.resolveFree_of_skill isRun asks character override
      have isSuggested := referee.resolve_of_check said rfl character override
      exact heard.trans isSuggested.symm
  | abilitySkillCheck inShort ability skill =>
      have hears :=
        Wording.hearsCheck_abilitySkillCheck ability ability.mem_all inShort skill skill.mem_all
      have asks := Wording.asksFor_of_hearsCheck isRun short written hears
      have heard := referee.resolveFree_of_ability asks character override
      have isSuggested :=
        referee.resolve_of_check { said with skill := none } rfl character override
      exact heard.trans isSuggested.symm
  | save inShort ability =>
      -- the throw is heard before the referee listens for a name
      obtain ⟨noSpell, armed, noTarget⟩ :=
        Wording.prospect_save ability ability.mem_all inShort
      exact referee.resolveFree_of_weapon (occursIn_eq_false_of_prospect isRun written noSpell)
        (occursIn_of_prospect isRun written armed)
        (occursIn_eq_false_of_prospect isRun written noTarget) character override

/-- A check of stealth for a character who is proficient in it. -/
theorem actions_agree_with_suggestions_for_a_stealth_check :
    ∃ suggestion,
      suggestions "Make a DC 12 Stealth check" = .ok [suggestion] ∧
        Referee.resolveFree ⟨Compendium.standard, {}⟩ "Make a DC 12 Stealth check"
            { skills := NameSet.ofList ["stealth"] } none =
          Outcome.withoutSuggestion <$>
            Referee.resolve ⟨Compendium.standard, {}⟩ suggestion
              { skills := NameSet.ofList ["stealth"] } {} := by
  have isRun : IsRun ['1', '2'] := ⟨by decide, List.all_eq_true.1 (by decide)⟩
  have written :
      (CheckWording.skillCheck .stealth).outline.WrittenAs (fun _ => ['1', '2'])
        "Make a DC 12 Stealth check".toList :=
    ⟨[['M'], ['a'], ['k'], ['e'], [' '], ['a'], [' '], ['D'], ['C'], [' '], ['1', '2'], [' '],
        ['S'], ['t'], ['e'], ['a'], ['l'], ['t'], ['h'], [' '], ['c'], ['h'], ['e'], ['c'],
        ['k']],
      by decide, by decide⟩
  obtain ⟨found, agrees⟩ :=
    actions_agree_with_suggestions (.skillCheck .stealth) (fun _ => ['1', '2']) (fun _ => isRun)
      (by decide) written ⟨Compendium.standard, {}⟩ { skills := NameSet.ofList ["stealth"] } none
  exact ⟨_, found, agrees⟩

/-- A saving throw is taken for an attack, and a skill in brackets is not heard, so that proficiency
in it does not count. -/
theorem saving_throws_and_bracketed_skills_are_misheard :
    (∃ suggestion,
      suggestions "make a DC 15 Wisdom saving throw" = .ok [suggestion] ∧
        (Referee.resolveFree ⟨Compendium.standard, {}⟩ "make a DC 15 Wisdom saving throw" {} none
          ⟨Source.ofList [], 0⟩).1.map Outcome.kind = .ok .weaponAttack ∧
        (Referee.resolve ⟨Compendium.standard, {}⟩ suggestion {} {}
          ⟨Source.ofList [], 0⟩).1.map Outcome.kind = .ok .savingThrow) ∧
      ∃ suggestion,
        suggestions "Wisdom (Perception) check (DC 12)" = .ok [suggestion] ∧
          (Referee.resolveFree ⟨Compendium.standard, {}⟩ "Wisdom (Perception) check (DC 12)"
            { skills := NameSet.ofList ["perception"] } none
            ⟨Source.ofList [], 0⟩).1.map Outcome.modifier = .ok 0 ∧
          (Referee.resolve ⟨Compendium.standard, {}⟩ suggestion
            { skills := NameSet.ofList ["perception"] } {}
            ⟨Source.ofList [], 0⟩).1.map Outcome.modifier = .ok 2 := by
  constructor
  · refine ⟨(CheckWording.save false .wisdom).suggestion (fun _ => ['1', '5'])
      "make a DC 15 Wisdom saving throw", ?_, ?_, ?_⟩ <;> decide +kernel
  · refine ⟨(CheckWording.abilitySkillCheck false .wisdom .perception).suggestion
      (fun _ => ['1', '2']) "Wisdom (Perception) check (DC 12)", ?_, ?_, ?_⟩ <;> decide +kernel

end Tabletop
