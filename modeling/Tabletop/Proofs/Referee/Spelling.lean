import Tabletop.Proofs.Character
import Tabletop.Proofs.Outcome.Proficiency
import Tabletop.Proofs.Referee.Agreement

/-!
# Spellings of an ability

A check depends on its ability, not on how the ability is spelled, with one exception: whether a
character is proficient in a saving throw is looked up under the very text that names the ability.
There the full name alone finds the proficiency, and any other spelling is resolved as if the caller
had said that the bonus does not count.
-/

namespace Tabletop

open Text

/-- A way to write an ability: its full name or its abbreviation, in any case and with white space
around it. -/
def Ability.IsSpelling (ability : Ability) (text : String) : Prop :=
  ∃ opening letters closing short,
    text.toList = opening ++ (letters ++ closing) ∧
      (∀ c ∈ opening, isBlank c = true) ∧ (∀ c ∈ closing, isBlank c = true) ∧
        letters.map Char.toLower = (ability.word short).toList

theorem Ability.IsSpelling.ofName?_eq
    {ability : Ability} {text : String} (spelled : ability.IsSpelling text) :
    Ability.ofName? text = some ability := by
  obtain ⟨opening, letters, closing, short, split, opens, closes, small⟩ := spelled
  have whole : text = String.ofList (opening ++ (letters ++ closing)) := by
    rw [← split, String.ofList_toList]
  rw [whole]
  exact Ability.ofName?_of_map_toLower opens closes small

/-! ## Checks of one score -/

namespace CheckRequest

/-- Checks that show the same, go by the same score and count the proficiency bonus alike. -/
structure Alike (request other : CheckRequest) (character : Character) : Prop where
  kind : request.kind = other.kind
  description : request.description = other.description
  skill : request.skill = other.skill
  difficulty : request.difficulty = other.difficulty
  notes : request.notes = other.notes
  score : Ability.governing? request.key = Ability.governing? other.key
  proficient : request.isProficient character = other.isProficient character

theorem resolve_alike
    {request other : CheckRequest} {character : Character}
    (alike : request.Alike other character) (proficiency : Int) :
    Outcome.withoutSuggestion <$> request.resolve character proficiency =
      Outcome.withoutSuggestion <$> other.resolve character proficiency := by
  have sameBonus :
      request.bonus character proficiency = other.bonus character proficiency := by
    rw [bonus, bonus, alike.score, alike.proficient]
  have sameAnnounced :
      request.announced.withoutSuggestion = other.announced.withoutSuggestion := by
    rw [announced, announced, alike.kind, alike.description, alike.skill, alike.notes, alike.score]
    rfl
  have announcedWith (check : CheckRequest) (test : Test) :
      (check.announced.withRolls (some test) none none).withoutSuggestion =
        check.announced.withoutSuggestion.withRolls (some test) none none := rfl
  rw [resolve_eq, resolve_eq, sameBonus, alike.difficulty, map_bind, map_bind]
  apply bind_congr
  intro test
  rw [map_pure, map_pure, announcedWith, announcedWith, sameAnnounced]

end CheckRequest

/-! ## Suggested checks -/

/-- A suggestion whose ability is spelled like this. -/
def Suggestion.respelled (suggestion : Suggestion) (name : String) : Suggestion :=
  { suggestion with ability := some name }

section

variable {suggestion : Suggestion} {ability : Ability} {name : String}

theorem governing?_check_respelled
    (known : Ability.ofName? name = some ability) (proficient : Option Bool) :
    Ability.governing? ((suggestion.respelled name).check proficient).key = some ability := by
  have notEmpty : name.isEmpty = false := by
    cases empty : name.isEmpty with
    | false => rfl
    | true =>
        have noName : Ability.ofName? "" = none := by decide
        rw [String.isEmpty_iff.1 empty, noName] at known
        cases known
  have isKey : ((suggestion.respelled name).check proficient).key = name := by
    have listed : nonEmpty? (some name) = some name := by
      rw [nonEmpty?, Option.filter_some, notEmpty]
      rfl
    rw [CheckRequest.key, Suggestion.check, Suggestion.respelled, listed]
    rfl
  rw [isKey, Ability.governing?, known]

theorem isProficient_check_of_skill
    (isSkill : suggestion.kind = .skill) (character : Character) :
    ((suggestion.respelled name).check none).isProficient character =
      suggestion.skill.any character.isProficientInSkill := by
  have kind : ((suggestion.respelled name).check none).kind = .skillCheck := by
    rw [Suggestion.check, Suggestion.respelled, isSkill]
    rfl
  have noSave : ¬(ActionKind.skillCheck = ActionKind.savingThrow) := by decide
  rw [CheckRequest.isProficient, kind, if_neg noSave]
  rfl

theorem isProficient_check_of_save
    (isSave : suggestion.kind = .save) (character : Character) :
    ((suggestion.respelled name).check none).isProficient character =
      character.isProficientInSave name := by
  have kind : ((suggestion.respelled name).check none).kind = .savingThrow := by
    rw [Suggestion.check, Suggestion.respelled, isSave]
    rfl
  rw [CheckRequest.isProficient, kind, if_pos rfl]
  rfl

/-- Two spellings of an ability are resolved alike if the bonus counts for both or for neither. -/
theorem Referee.resolve_respelled
    (referee : Referee) {character : Character} {other : String} {options others : Options}
    (isCheck : suggestion.kind ≠ .attack) (known : Ability.ofName? name = some ability)
    (otherKnown : Ability.ofName? other = some ability)
    (sameOverride : options.proficiency = others.proficiency)
    (proficient : ((suggestion.respelled name).check options.proficient).isProficient character =
      ((suggestion.respelled other).check others.proficient).isProficient character) :
    Outcome.withoutSuggestion <$> referee.resolve (suggestion.respelled name) character options =
      Outcome.withoutSuggestion <$>
        referee.resolve (suggestion.respelled other) character others := by
  have score :
      Ability.governing? ((suggestion.respelled name).check options.proficient).key =
        Ability.governing? ((suggestion.respelled other).check others.proficient).key := by
    rw [governing?_check_respelled known, governing?_check_respelled otherKnown]
  have noAttack (text : String) : (suggestion.respelled text).kind ≠ .attack := isCheck
  rw [referee.resolve_of_not_attack _ character options (noAttack name),
    referee.resolve_of_not_attack _ character others (noAttack other), sameOverride]
  apply CheckRequest.resolve_alike
  exact ⟨rfl, rfl, rfl, rfl, rfl, score, proficient⟩

end

/-- However an ability is spelled, a check of it comes to the same outcome, apart from the
suggestion, unless a saving throw in which the character is proficient is left to the character and
just one of two spellings is the full name. Then the bonus counts for the full name and not for the
other spelling. -/
theorem spelling_matters_in_open_saving_throws_alone
    (referee : Referee) (given : Datum) (character : Character)
    (read : Character.coerce given = .ok character) (suggestion : Suggestion)
    (isCheck : suggestion.kind ≠ .attack) (options : Referee.Options) (ability : Ability)
    (one other : String) (spelled : ability.IsSpelling one)
    (otherSpelled : ability.IsSpelling other) :
    let resolved (name : String) (options : Referee.Options) : Rolling Outcome :=
      Outcome.withoutSuggestion <$>
        referee.resolve (suggestion.respelled name) character options
    ((suggestion.kind = .save → options.proficient = none →
        character.isProficientInSave ability.name = true →
        (one = ability.name ↔ other = ability.name)) →
      resolved one options = resolved other options) ∧
    (suggestion.kind = .save → options.proficient = none →
      character.isProficientInSave ability.name = true →
      one = ability.name → other ≠ ability.name →
        resolved one options = resolved one (options.withWord true) ∧
          resolved other options = resolved one (options.withWord false)) := by
  intro resolved
  have known := spelled.ofName?_eq
  have otherKnown := otherSpelled.ofName?_eq
  have found := Character.isProficientInSave_eq read known
  have otherFound := Character.isProficientInSave_eq read otherKnown
  constructor
  · intro bothOrNeither
    apply referee.resolve_respelled isCheck known otherKnown rfl
    cases word : options.proficient with
    | some proficient => rfl
    | none =>
        cases kind : suggestion.kind with
        | attack => exact absurd kind isCheck
        | skill => rw [isProficient_check_of_skill kind, isProficient_check_of_skill kind]
        | save =>
            rw [isProficient_check_of_save kind, isProficient_check_of_save kind, found, otherFound]
            cases proficient : character.isProficientInSave ability.name with
            | false => rw [Bool.and_false, Bool.and_false]
            | true =>
                have both := bothOrNeither kind word proficient
                rw [Bool.and_true, Bool.and_true, Bool.eq_iff_iff, beq_iff_eq, beq_iff_eq]
                exact both
  · intro isSave noWord proficient isFull notFull
    have sameOverride (word : Bool) :
        options.proficiency = (options.withWord word).proficiency := rfl
    have missed : (other == ability.name) = false := beq_eq_false_iff_ne.2 notFull
    rw [missed, Bool.false_and] at otherFound
    constructor
    · apply referee.resolve_respelled isCheck known known (sameOverride true)
      rw [noWord, isProficient_check_of_save isSave, isFull, proficient]
      rfl
    · apply referee.resolve_respelled isCheck otherKnown known (sameOverride false)
      rw [noWord, isProficient_check_of_save isSave, otherFound]
      rfl

theorem spelling_matters_in_open_saving_throws_alone_for_constitution :
    ∃ character,
      Character.coerce (.table [("saving_throw_proficiencies", .list [.text " cOn "])]) =
          .ok character ∧
        Outcome.withoutSuggestion <$>
            Referee.resolve ⟨Compendium.standard, {}⟩
              { kind := .save, ability := " Con", span := ⟨0, 0⟩ } character {} =
          Outcome.withoutSuggestion <$>
            Referee.resolve ⟨Compendium.standard, {}⟩
              { kind := .save, ability := "CONSTITUTION", span := ⟨0, 0⟩ } character {} := by
  have isSome :
      (Character.coerce (.table
        [("saving_throw_proficiencies", .list [.text " cOn "])])).toOption.isSome = true := by
    decide +kernel
  obtain ⟨character, read⟩ := exists_of_isSome_toOption isSome
  have spelled : Ability.IsSpelling .constitution " Con" :=
    ⟨[' '], ['C', 'o', 'n'], [], true, by decide, List.all_eq_true.1 (by decide),
      List.all_eq_true.1 (by decide), by decide⟩
  have otherSpelled : Ability.IsSpelling .constitution "CONSTITUTION" :=
    ⟨[], ['C', 'O', 'N', 'S', 'T', 'I', 'T', 'U', 'T', 'I', 'O', 'N'], [], false,
      by decide, List.all_eq_true.1 (by decide), List.all_eq_true.1 (by decide), by decide⟩
  have alike := spelling_matters_in_open_saving_throws_alone ⟨Compendium.standard, {}⟩ _ character
    read { kind := .save, span := ⟨0, 0⟩ } (by decide) {} .constitution " Con" "CONSTITUTION"
    spelled otherSpelled
  exact ⟨character, read, alike.1 fun _ _ _ => by decide⟩

/-- A saving throw that is named by the abbreviation of its ability goes without the bonus. -/
theorem abbreviated_saving_throw_goes_without_bonus :
    Character.coerce (.table [("saving_throw_proficiencies", .list [.text "constitution"])]) =
        .ok { saves := NameSet.ofList ["constitution"] } ∧
      Ability.IsSpelling .constitution "constitution" ∧ Ability.IsSpelling .constitution "CON" ∧
      ∃ outcome abbreviated,
        (Referee.resolve ⟨Compendium.standard, {}⟩
            { kind := .save, ability := "constitution", span := ⟨0, 0⟩ }
            { saves := NameSet.ofList ["constitution"] } {} ⟨Source.ofList [], 0⟩).1 =
          .ok outcome ∧
        (Referee.resolve ⟨Compendium.standard, {}⟩
            { kind := .save, ability := "CON", span := ⟨0, 0⟩ }
            { saves := NameSet.ofList ["constitution"] } {} ⟨Source.ofList [], 0⟩).1 =
          .ok abbreviated ∧
        outcome.modifier = 2 ∧ abbreviated.modifier = 0 ∧
        outcome.withoutSuggestion ≠ abbreviated.withoutSuggestion := by
  have fullModifier :
      Outcome.modifier <$> (Referee.resolve ⟨Compendium.standard, {}⟩
        { kind := .save, ability := "constitution", span := ⟨0, 0⟩ }
        { saves := NameSet.ofList ["constitution"] } {} ⟨Source.ofList [], 0⟩).1 = .ok 2 := by
    decide +kernel
  have shortModifier :
      Outcome.modifier <$> (Referee.resolve ⟨Compendium.standard, {}⟩
        { kind := .save, ability := "CON", span := ⟨0, 0⟩ }
        { saves := NameSet.ofList ["constitution"] } {} ⟨Source.ofList [], 0⟩).1 = .ok 0 := by
    decide +kernel
  obtain ⟨outcome, done, modifier⟩ := map_eq_ok_iff.1 fullModifier
  obtain ⟨abbreviated, shortDone, noModifier⟩ := map_eq_ok_iff.1 shortModifier
  refine ⟨by decide +kernel, ?_, ?_, outcome, abbreviated, done, shortDone, modifier, noModifier, ?_⟩
  · exact ⟨[], "constitution".toList, [], false, by decide, List.all_eq_true.1 (by decide),
      List.all_eq_true.1 (by decide), by decide⟩
  · exact ⟨[], ['C', 'O', 'N'], [], true, by decide, List.all_eq_true.1 (by decide),
      List.all_eq_true.1 (by decide), by decide⟩
  · intro same
    have sameModifier :
        outcome.withoutSuggestion.modifier = abbreviated.withoutSuggestion.modifier := by
      rw [same]
    have modifiersDiffer : outcome.modifier ≠ abbreviated.modifier := by omega
    exact modifiersDiffer sameModifier

end Tabletop
