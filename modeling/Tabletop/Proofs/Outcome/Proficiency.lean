import Tabletop.Proofs.Outcome.Stages
import Tabletop.Proofs.Rolling.InStep

/-!
# A word on proficiency

Whoever resolves a suggestion may say whether the proficiency bonus counts. Two runs that differ in
this word alone roll the same die, and behind the die they may part. Checks and attacks with weapons
then differ by the bonus; attacks with spells do not hear the word and always add the bonus.
-/

namespace Tabletop

open Rolling

variable {more : Int}

/-! ## Rolls -/

/-- Tests of one die, the first of which adds so much more. -/
structure Test.AddsMore (more : Int) (test plain : Test) : Prop where
  face : test.face = plain.face
  critical : test.critical = plain.critical
  modifier : test.modifier = plain.modifier + more

theorem Test.inStep_addsMore
    {bonus plain : Int} (sum : bonus = plain + more) (threshold : Option Int) :
    InStep (Test.roll bonus threshold) (Test.roll plain threshold) (Test.AddsMore more) := by
  have rolled :
      InStep (rollD20 bonus) (rollD20 plain) fun roll other => roll.faces = other.faces := by
    refine (inStep_self d20.roll).bind ?_
    intro roll other same
    rw [same]
    exact inStep_pure rfl
  refine rolled.bind ?_
  intro roll other sameFaces
  apply inStep_pure
  constructor
  case face => rw [sameFaces]
  case critical => rw [sameFaces]
  case modifier => exact sum

/-! ## Outcomes -/

/-- Outcomes of one die and one ability, the first of which adds so much more. -/
structure Outcome.AddsMore (more : Int) (outcome plain : Outcome) : Prop where
  face : outcome.face = plain.face
  critical : outcome.critical = plain.critical
  ability : outcome.ability = plain.ability
  modifier : outcome.modifier = plain.modifier + more

/-- Whatever is rolled behind the tests, the outcomes differ as the tests do. -/
theorem Outcome.addsMore_withRolls
    {outcome other : Outcome} {test plain : Test} (blank : outcome.Blank)
    (otherBlank : other.Blank) (sameAbility : outcome.ability = other.ability)
    (tests : test.AddsMore more plain) (harm otherHarm relief otherRelief : Option Roll) :
    (outcome.withRolls (some test) harm relief).AddsMore more
      (other.withRolls (some plain) otherHarm otherRelief) := by
  rw [blank.withRolls_eq, otherBlank.withRolls_eq]
  exact ⟨congrArg some tests.face, tests.critical, sameAbility, tests.modifier⟩

/-! ## Checks and attacks -/

section Requests

variable {character : Character} {proficiency : Int}

/-- Checks of one score against one difficulty differ by what they add. -/
theorem CheckRequest.beside_addsMore
    {request plain : CheckRequest}
    (sum : request.bonus character proficiency = plain.bonus character proficiency + more)
    (sameScore : Ability.governing? request.key = Ability.governing? plain.key)
    (sameDifficulty : request.difficulty = plain.difficulty) :
    Beside (request.resolve character proficiency) (plain.resolve character proficiency)
      (Outcome.AddsMore more) := by
  have sameAbility : request.announced.ability = plain.announced.ability := by
    rw [announced, announced, sameScore]
  rw [resolve_eq, resolve_eq, sameDifficulty]
  refine (Test.inStep_addsMore sum plain.difficulty).bind_beside ?_
  intro test other tests
  refine (inStep_pure ?_).beside
  exact Outcome.addsMore_withRolls request.blank_announced plain.blank_announced sameAbility tests
    none none none none

/-- A check with a word on proficiency. -/
def CheckRequest.withWord (request : CheckRequest) (proficient : Bool) : CheckRequest :=
  { request with proficient := some proficient }

theorem CheckRequest.beside_withWord (request : CheckRequest) :
    Beside ((request.withWord true).resolve character proficiency)
      ((request.withWord false).resolve character proficiency) (Outcome.AddsMore proficiency) := by
  have sameKey : (request.withWord true).key = (request.withWord false).key := by
    simp only [withWord, key]
  have counts : (request.withWord true).isProficient character = true := rfl
  have countsNot : (request.withWord false).isProficient character = false := rfl
  apply beside_addsMore
  case sum =>
    rw [bonus, bonus, counts, countsNot, sameKey]
    simp
  case sameScore => rw [sameKey]
  case sameDifficulty => rfl

/-- An attack with a word on proficiency. -/
def AttackRequest.withWord (request : AttackRequest) (proficient : Bool) : AttackRequest :=
  { request with proficient := proficient }

theorem AttackRequest.beside_withWord
    (request : AttackRequest) (compendium : Compendium) (texts : List (Option String)) :
    Beside ((request.withWord true).resolve compendium texts character proficiency)
      ((request.withWord false).resolve compendium texts character proficiency)
      (Outcome.AddsMore proficiency) := by
  rw [resolve_eq, resolve_eq]
  generalize weaponIn compendium texts = chosen
  obtain ⟨weapon, fallbackNotes⟩ := chosen
  rw [resolveWith, resolveWith]
  have sum :
      scoreModifier (character.scores.get (weapon.abilityFor character.scores)) +
          (if (request.withWord true).proficient then proficiency else 0) =
        scoreModifier (character.scores.get (weapon.abilityFor character.scores)) +
            (if (request.withWord false).proficient then proficiency else 0) +
          proficiency := by
    simp [withWord]
  refine (Test.inStep_addsMore sum request.target).bind_beside ?_
  intro test other tests
  -- damage may be rolled in one of the runs only, so from here on they are not in step
  have ends (proficient : Bool) (test : Test) (work : Rolling (Option Roll)) :
      (work >>= fun harm =>
        pure (((request.withWord proficient).announced weapon
          (weapon.abilityFor character.scores) fallbackNotes).withRolls (some test) harm none)
      ).Ensures fun outcome =>
        ∃ harm, outcome = ((request.withWord proficient).announced weapon
          (weapon.abilityFor character.scores) fallbackNotes).withRolls (some test) harm none :=
    ensures_bind fun harm => ensures_pure ⟨harm, rfl⟩
  refine beside_of_ensures (ends true test _) (ends false other _) ?_
  intro outcome plain made plainMade
  obtain ⟨harm, rfl⟩ := made
  obtain ⟨otherHarm, rfl⟩ := plainMade
  exact Outcome.addsMore_withRolls (blank_announced _ weapon _ fallbackNotes)
    (blank_announced _ weapon _ fallbackNotes) rfl tests harm otherHarm none none

end Requests

/-! ## Suggestions -/

/-- Whether a suggestion is resolved as an attack with a spell that it does not name. -/
def Suggestion.IsSpellAttack (suggestion : Suggestion) : Prop :=
  suggestion.kind = .attack ∧ suggestion.mode = some "spell"

/-- The check that a suggestion calls for, unless it calls for an attack. -/
def Suggestion.check (suggestion : Suggestion) (proficient : Option Bool) : CheckRequest where
  kind := if suggestion.kind = .save then .savingThrow else .skillCheck
  description := suggestion.description
  ability := suggestion.ability
  skill := suggestion.skill
  difficulty := suggestion.difficulty
  proficient := proficient
  suggestion := some suggestion

/-- The attack with a weapon that a suggestion calls for. -/
def Suggestion.weaponAttack (suggestion : Suggestion) (options : Referee.Options) :
    AttackRequest where
  kind := .attackRoll
  description := suggestion.description
  target := options.armorClass.or suggestion.armorClass
  suggestion := some suggestion
  damage := suggestion.damage
  proficient := options.proficient != some false

namespace Referee

/-- Options with a word on proficiency. -/
def Options.withWord (options : Options) (proficient : Bool) : Options :=
  { options with proficient := some proficient }

variable (referee : Referee) (suggestion : Suggestion) (character : Character) (options : Options)

theorem resolve_of_isSpellAttack {suggestion : Suggestion} (spell : suggestion.IsSpellAttack) :
    referee.resolve suggestion character options =
      resolveSpellAttack suggestion character
        (referee.proficiency character options.proficiency)
        (options.armorClass.or suggestion.armorClass) := by
  simp only [resolve, spell.1, spell.2, if_true]

theorem resolve_of_weapon
    (isAttack : suggestion.kind = .attack) (noSpell : ¬suggestion.IsSpellAttack) :
    referee.resolve suggestion character options =
      (suggestion.weaponAttack options).resolve referee.compendium [character.equippedWeapon]
        character (referee.proficiency character options.proficiency) := by
  have byWeapon : ¬suggestion.mode = some "spell" := fun spell => noSpell ⟨isAttack, spell⟩
  simp only [resolve, isAttack, byWeapon, if_false]
  rfl

theorem resolve_of_not_attack (noAttack : suggestion.kind ≠ .attack) :
    referee.resolve suggestion character options =
      (suggestion.check options.proficient).resolve character
        (referee.proficiency character options.proficiency) := by
  rw [resolve, Suggestion.check]
  cases kind : suggestion.kind with
  | attack => exact absurd kind noAttack
  | skill => rfl
  | save => rfl

theorem beside_withWord (noSpell : ¬suggestion.IsSpellAttack) :
    Beside (referee.resolve suggestion character (options.withWord true))
      (referee.resolve suggestion character (options.withWord false))
      (Outcome.AddsMore (referee.proficiency character options.proficiency)) := by
  by_cases isAttack : suggestion.kind = .attack
  · rw [referee.resolve_of_weapon suggestion character _ isAttack noSpell,
      referee.resolve_of_weapon suggestion character _ isAttack noSpell]
    exact (suggestion.weaponAttack options).beside_withWord _ _
  · rw [referee.resolve_of_not_attack suggestion character _ isAttack,
      referee.resolve_of_not_attack suggestion character _ isAttack]
    exact (suggestion.check none).beside_withWord

end Referee

/-- If a suggestion is resolved with the word that the proficiency bonus counts and with the word
that it does not, by the same draws, the first outcome adds the bonus to what the second one adds.
Only for an attack with a spell it is the same outcome. -/
theorem explicit_proficiency_counts
    (referee : Referee) (suggestion : Suggestion) (character : Character)
    (options : Referee.Options) (tray : Tray) (outcome plain : Outcome)
    (done : (referee.resolve suggestion character (options.withWord true) tray).1 = .ok outcome)
    (plainDone :
      (referee.resolve suggestion character (options.withWord false) tray).1 = .ok plain) :
    (¬suggestion.IsSpellAttack →
      outcome.AddsMore (referee.proficiency character options.proficiency) plain) ∧
    (suggestion.IsSpellAttack → outcome = plain) := by
  constructor
  · intro noSpell
    exact referee.beside_withWord suggestion character options noSpell tray outcome plain done
      plainDone
  · intro spell
    rw [referee.resolve_of_isSpellAttack character _ spell] at done plainDone
    exact Except.ok.inj (done.symm.trans plainDone)

theorem explicit_proficiency_counts_for_a_saving_throw :
    ∃ outcome plain,
      (Referee.resolve ⟨Compendium.standard, {}⟩
          { kind := .save, ability := "wisdom", span := ⟨0, 0⟩ } {}
          (Referee.Options.withWord {} true) ⟨Source.ofList [], 0⟩).1 = .ok outcome ∧
        (Referee.resolve ⟨Compendium.standard, {}⟩
            { kind := .save, ability := "wisdom", span := ⟨0, 0⟩ } {}
            (Referee.Options.withWord {} false) ⟨Source.ofList [], 0⟩).1 = .ok plain ∧
        outcome.AddsMore 2 plain := by
  have isSome (proficient : Bool) :
      (Referee.resolve ⟨Compendium.standard, {}⟩
        { kind := .save, ability := "wisdom", span := ⟨0, 0⟩ } {}
        (Referee.Options.withWord {} proficient)
        ⟨Source.ofList [], 0⟩).1.toOption.isSome = true := by
    cases proficient <;> decide +kernel
  obtain ⟨outcome, done⟩ := exists_of_isSome_toOption (isSome true)
  obtain ⟨plain, plainDone⟩ := exists_of_isSome_toOption (isSome false)
  have noSpell :
      ¬Suggestion.IsSpellAttack { kind := .save, ability := "wisdom", span := ⟨0, 0⟩ } :=
    fun spell => (by cases spell.1)
  have counts := explicit_proficiency_counts ⟨Compendium.standard, {}⟩ _ {} {}
    ⟨Source.ofList [], 0⟩ outcome plain done plainDone
  exact ⟨outcome, plain, done, plainDone, counts.1 noSpell⟩

/-- An attack with a spell adds the bonus even with the word that it does not count. -/
theorem spell_attacks_ignore_the_word :
    ∃ outcome plain,
      (Referee.resolve ⟨Compendium.standard, {}⟩
          { kind := .attack, mode := "spell", span := ⟨0, 0⟩ } {}
          (Referee.Options.withWord {} true) ⟨Source.ofList [], 0⟩).1 = .ok outcome ∧
        (Referee.resolve ⟨Compendium.standard, {}⟩
            { kind := .attack, mode := "spell", span := ⟨0, 0⟩ } {}
            (Referee.Options.withWord {} false) ⟨Source.ofList [], 0⟩).1 = .ok plain ∧
        Referee.proficiency ⟨Compendium.standard, {}⟩ {} none = 2 ∧
        outcome.modifier = 2 ∧ plain.modifier = 2 ∧ ¬outcome.AddsMore 2 plain := by
  have modifiers (proficient : Bool) :
      Outcome.modifier <$> (Referee.resolve ⟨Compendium.standard, {}⟩
        { kind := .attack, mode := "spell", span := ⟨0, 0⟩ } {}
        (Referee.Options.withWord {} proficient) ⟨Source.ofList [], 0⟩).1 = .ok 2 := by
    cases proficient <;> decide +kernel
  obtain ⟨outcome, done, modifier⟩ := map_eq_ok_iff.1 (modifiers true)
  obtain ⟨plain, plainDone, plainModifier⟩ := map_eq_ok_iff.1 (modifiers false)
  refine ⟨outcome, plain, done, plainDone, rfl, modifier, plainModifier, ?_⟩
  intro addsMore
  have sum := addsMore.modifier
  omega

end Tabletop
