import Tabletop.Proofs.Outcome.Stages
import Tabletop.Proofs.Rolling.InStep

/-!
# Better characters do no worse

With higher scores and no lower proficiency bonus the same action and the same draws give an outcome
that is at least as good. Both runs roll the same test; where the lesser one hits, the better one
hits too and rolls the same dice, and where it misses, there is nothing to lose.
-/

namespace Tabletop

open Rolling

/-! ## Scores -/

/-- Scores none of which is lower. -/
def Scores.AtMost (scores better : Scores) : Prop :=
  ∀ ability, scores.get ability ≤ better.get ability

theorem scoreModifier_le {score better : Int} (le : score ≤ better) :
    scoreModifier score ≤ scoreModifier better := by
  have distance : score - 10 ≤ better - 10 := by omega
  exact Int.ediv_le_ediv (by decide) distance

/-- What counts only on a condition does not get less. -/
theorem counted_le {counts : Prop} [Decidable counts] {addend more : Int} (le : addend ≤ more) :
    (if counts then addend else 0) ≤ if counts then more else 0 := by
  split
  · exact le
  · exact Int.le_refl 0

namespace Scores

/-- The abilities that cast spells without a name. -/
def spellAbilities : List Ability := [.intelligence, .wisdom, .charisma]

variable (scores : Scores)

theorem bestSpellAbility_mem : scores.bestSpellAbility ∈ spellAbilities := by
  simp only [bestSpellAbility]
  split <;> split <;> decide

theorem get_le_bestSpellAbility :
    ∀ ability ∈ spellAbilities, scores.get ability ≤ scores.get scores.bestSpellAbility := by
  intro ability member
  simp only [spellAbilities, List.mem_cons, List.not_mem_nil, or_false] at member
  simp only [bestSpellAbility]
  rcases member with rfl | rfl | rfl <;>
    · split <;> split at * <;> omega

end Scores

namespace Scores.AtMost

variable {scores better : Scores}

theorem abilityFor (atMost : scores.AtMost better) (weapon : Weapon) :
    scores.get (weapon.abilityFor scores) ≤ better.get (weapon.abilityFor better) := by
  have strength : scores.strength ≤ better.strength := atMost .strength
  have dexterity : scores.dexterity ≤ better.dexterity := atMost .dexterity
  rw [Weapon.abilityFor, Weapon.abilityFor]
  by_cases finesse : weapon.isFinesse = true
  · rw [if_pos finesse, if_pos finesse]
    split <;> split <;> simp only [Scores.get] <;> omega
  · rw [if_neg finesse, if_neg finesse]
    exact atMost _

theorem bestSpellAbility (atMost : scores.AtMost better) :
    scores.get scores.bestSpellAbility ≤ better.get better.bestSpellAbility := by
  have lesser : scores.get scores.bestSpellAbility ≤ better.get scores.bestSpellAbility :=
    atMost scores.bestSpellAbility
  have best := better.get_le_bestSpellAbility _ scores.bestSpellAbility_mem
  exact lesser.trans best

end Scores.AtMost

/-! ## Rolls -/

/-- A test with the same die that is at least as good. -/
structure Test.AtMost (test better : Test) : Prop where
  face : better.face = test.face
  critical : better.critical = test.critical
  modifier : test.modifier ≤ better.modifier
  total : test.total ≤ better.total
  success : Option.Rel (· ≤ ·) test.success better.success

theorem Test.inStep_roll {bonus more : Int} (le : bonus ≤ more) (threshold : Option Int) :
    InStep (Test.roll bonus threshold) (Test.roll more threshold) Test.AtMost := by
  have rolled :
      InStep (rollD20 bonus) (rollD20 more) fun roll better =>
        better.faces = roll.faces ∧ roll.total ≤ better.total := by
    refine (inStep_self d20.roll).bind ?_
    rintro roll _ rfl
    exact inStep_pure ⟨rfl, by simpa using le⟩
  refine rolled.bind fun roll better ⟨sameFaces, totals⟩ => inStep_pure ?_
  constructor
  case face => rw [sameFaces]
  case critical => rw [sameFaces]
  case modifier => exact le
  case total => exact totals
  case success =>
    cases threshold with
    | none => exact Option.Rel.none
    | some threshold =>
        refine Option.Rel.some fun reached => ?_
        simp only [decide_eq_true_eq] at reached ⊢
        omega

theorem Test.AtMost.isCritical_eq {test better : Test} (atMost : test.AtMost better) :
    better.isCritical = test.isCritical := by
  rw [Test.isCritical, Test.isCritical, atMost.critical]

/-- A test that may hit still may when it gets better. -/
theorem Test.AtMost.mayHit
    {test better : Test} (atMost : test.AtMost better) (mayHit : test.mayHit = true) :
    better.mayHit = true := by
  rw [Test.mayHit, Bool.or_eq_true, bne_iff_ne] at mayHit ⊢
  rw [atMost.isCritical_eq]
  -- what the better test misses, the lesser one cannot have hit
  refine mayHit.imp_left fun notMissed missed => notMissed ?_
  have judged := atMost.success
  rw [missed] at judged
  cases known : test.success with
  | none =>
      rw [known] at judged
      cases judged
  | some success =>
      rw [known] at judged
      cases judged with
      | some le =>
          cases success with
          | false => rfl
          | true => exact absurd le (by decide)

/-- More modifier makes more damage. -/
theorem inStep_rollDamage
    (pool : List Dice) (critical : Bool) {bonus more : Int} (le : bonus ≤ more) :
    InStep (rollDamage pool bonus critical) (rollDamage pool more critical) fun roll better =>
      roll.total ≤ better.total := by
  refine (inStep_self (rollPool pool critical)).map ?_
  rintro roll _ rfl
  simp only [Roll.withBonus]
  omega

/-! ## Outcomes -/

/-- An outcome of the same die that is at least as good. -/
structure Outcome.AtMost (outcome better : Outcome) : Prop where
  face : better.face = outcome.face
  critical : better.critical = outcome.critical
  modifier : outcome.modifier ≤ better.modifier
  total : outcome.total ≤ better.total
  saveDifficulty : Option.Rel (· ≤ ·) outcome.saveDifficulty better.saveDifficulty
  success : Option.Rel (· ≤ ·) outcome.success better.success
  damage : ∀ damage, outcome.damage = some damage →
    ∃ more, better.damage = some more ∧ damage ≤ more

/-- Damage that is neither lost nor lowered. -/
def HarmAtMost (harm more : Option Roll) : Prop :=
  ∀ roll, harm = some roll → ∃ greater, more = some greater ∧ roll.total ≤ greater.total

theorem harmAtMost_none (more : Option Roll) : HarmAtMost none more := by
  intro roll absent
  cases absent

/-- What is rolled for an outcome carries over to it. -/
theorem Outcome.atMost_withRolls
    {outcome other : Outcome} {test better : Option Test} {harm more : Option Roll}
    (blank : outcome.Blank) (otherBlank : other.Blank)
    (saves : Option.Rel (· ≤ ·) outcome.saveDifficulty other.saveDifficulty)
    (tests : Option.Rel Test.AtMost test better) (harms : HarmAtMost harm more)
    (relief otherRelief : Option Roll) :
    (outcome.withRolls test harm relief).AtMost (other.withRolls better more otherRelief) := by
  rw [blank.withRolls_eq, otherBlank.withRolls_eq]
  have damage :
      ∀ damage, harm.map Roll.total = some damage →
        ∃ greater, more.map Roll.total = some greater ∧ damage ≤ greater := by
    intro damage isDamage
    obtain ⟨roll, isRoll, rfl⟩ := Option.map_eq_some_iff.1 isDamage
    obtain ⟨greater, rfl, le⟩ := harms roll isRoll
    exact ⟨greater.total, rfl, le⟩
  cases tests with
  | none =>
      exact ⟨rfl, rfl, Int.le_refl 0, Int.le_refl 0, saves, Option.Rel.none, damage⟩
  | some atMost =>
      exact ⟨congrArg some atMost.face, atMost.critical, atMost.modifier, atMost.total, saves,
        atMost.success, damage⟩

/-! ## Requests -/

section Requests

variable {character : Character} {scores : Scores} {modest generous : Int}

/-- What a check adds does not get less. -/
theorem CheckRequest.bonus_le
    (request : CheckRequest) (better : character.scores.AtMost scores) (le : modest ≤ generous) :
    request.bonus character modest ≤ request.bonus { character with scores := scores } generous := by
  have sameSaves :
      Character.isProficientInSave { character with scores := scores } =
        character.isProficientInSave := rfl
  have sameSkills :
      Character.isProficientInSkill { character with scores := scores } =
        character.isProficientInSkill := rfl
  have sameProficiency :
      request.isProficient { character with scores := scores } = request.isProficient character := by
    simp only [isProficient, sameSaves, sameSkills]
  have proficiencies :
      (if request.isProficient character then modest else 0) ≤
        if request.isProficient character then generous else 0 := counted_le le
  simp only [bonus, sameProficiency]
  cases Ability.governing? request.key with
  | none => exact Int.add_le_add_left proficiencies 0
  | some ability => exact Int.add_le_add (scoreModifier_le (better ability)) proficiencies

theorem AttackRequest.inStep_rollFor
    (request : AttackRequest) (weapon : Weapon) {modifier more : Int} (le : modifier ≤ more)
    (critical : Bool) :
    InStep (request.rollFor weapon modifier critical) (request.rollFor weapon more critical)
      fun roll better => roll.total ≤ better.total := by
  rw [rollFor, rollFor]
  split
  · refine (inStep_self _).bind ?_
    rintro dice _ rfl
    exact inStep_rollDamage [dice] critical (Int.le_refl 0)
  · exact inStep_rollDamage [weapon.damage.dice] critical le

end Requests

/-! ## Damage -/

/-- Damage either goes in step and is no less, or there is none to lose. -/
def HarmsKept (harming more : Rolling (Option Roll)) : Prop :=
  InStep harming more HarmAtMost ∨ harming.Ensures fun harm => harm = none

theorem harmsKept_none (more : Rolling (Option Roll)) : HarmsKept (pure none) more :=
  Or.inr (ensures_pure rfl)

/-- A better test hits where a lesser one does. -/
theorem Test.AtMost.harmsKept
    {test better : Test} {work more : Rolling Roll} (atMost : test.AtMost better)
    (harms : InStep work more fun roll greater => roll.total ≤ greater.total) :
    HarmsKept (test.rollHarm work) (better.rollHarm more) := by
  rw [Test.rollHarm, Test.rollHarm]
  by_cases mayHit : test.mayHit = true
  · rw [if_pos mayHit, if_pos (atMost.mayHit mayHit)]
    refine Or.inl (harms.map ?_)
    rintro roll greater le _ ⟨⟩
    exact ⟨greater, rfl, le⟩
  · rw [if_neg mayHit]
    exact harmsKept_none _

/-- If damage is kept and what follows only adds the rolls to the outcomes, the outcome is no
worse. -/
theorem HarmsKept.beside
    {harming more : Rolling (Option Roll)} {after otherAfter : Option Roll → Rolling Outcome}
    {outcome other : Outcome} {test better : Option Test}
    (kept : HarmsKept harming more) (blank : outcome.Blank) (otherBlank : other.Blank)
    (saves : Option.Rel (· ≤ ·) outcome.saveDifficulty other.saveDifficulty)
    (tests : Option.Rel Test.AtMost test better)
    (ends : ∀ harm, (after harm).Ensures fun result =>
      ∃ relief, result = outcome.withRolls test harm relief)
    (otherEnds : ∀ harm, (otherAfter harm).Ensures fun result =>
      ∃ relief, result = other.withRolls better harm relief) :
    Beside (harming >>= after) (more >>= otherAfter) Outcome.AtMost := by
  rcases kept with inStep | unharmed
  · refine inStep.bind_beside fun harm greater harms => ?_
    refine beside_of_ensures (ends harm) (otherEnds greater) ?_
    rintro _ _ ⟨relief, rfl⟩ ⟨otherRelief, rfl⟩
    exact Outcome.atMost_withRolls blank otherBlank saves tests harms relief otherRelief
  · -- from here on the draws may differ, but the lesser outcome has no damage to be kept
    have without : (harming >>= after).Ensures fun result =>
        ∃ relief, result = outcome.withRolls test none relief := by
      refine unharmed.bind fun harm isNone => ?_
      rw [isNone]
      exact ends none
    have whatever : (more >>= otherAfter).Ensures fun result =>
        ∃ harm relief, result = other.withRolls better harm relief := by
      refine ensures_bind fun harm tray result done => ?_
      exact ⟨harm, otherEnds harm tray result done⟩
    refine beside_of_ensures without whatever ?_
    rintro _ _ ⟨relief, rfl⟩ ⟨harm, otherRelief, rfl⟩
    exact Outcome.atMost_withRolls blank otherBlank saves tests (harmAtMost_none harm) relief
      otherRelief

/-! ## Checks, attacks and spells -/

section Actions

variable {character : Character} {scores : Scores} {modest generous : Int}
  (better : character.scores.AtMost scores) (le : modest ≤ generous)
include better le

theorem CheckRequest.beside_resolve (request : CheckRequest) :
    Beside (request.resolve character modest)
      (request.resolve { character with scores := scores } generous) Outcome.AtMost := by
  have bonuses := request.bonus_le better le
  have blank := request.blank_announced
  rw [resolve_eq, resolve_eq]
  refine (Test.inStep_roll bonuses request.difficulty).bind_beside fun test improved atMost => ?_
  refine (inStep_pure ?_).beside
  exact Outcome.atMost_withRolls blank blank Option.Rel.none (Option.Rel.some atMost)
    (harmAtMost_none none) none none

theorem AttackRequest.beside_resolve
    (request : AttackRequest) (compendium : Compendium) (texts : List (Option String)) :
    Beside (request.resolve compendium texts character modest)
      (request.resolve compendium texts { character with scores := scores } generous)
      Outcome.AtMost := by
  rw [resolve_eq, resolve_eq]
  generalize weaponIn compendium texts = chosen
  obtain ⟨weapon, fallbackNotes⟩ := chosen
  have modifiers := scoreModifier_le (better.abilityFor weapon)
  have bonuses :
      scoreModifier (character.scores.get (weapon.abilityFor character.scores)) +
          (if request.proficient then modest else 0) ≤
        scoreModifier (scores.get (weapon.abilityFor scores)) +
          (if request.proficient then generous else 0) :=
    Int.add_le_add modifiers (counted_le le)
  rw [resolveWith, resolveWith]
  refine (Test.inStep_roll bonuses request.target).bind_beside fun test improved atMost => ?_
  have kept := atMost.harmsKept (request.inStep_rollFor weapon modifiers test.isCritical)
  rw [atMost.isCritical_eq]
  exact kept.beside (request.blank_announced weapon _ fallbackNotes)
    (request.blank_announced weapon _ fallbackNotes) Option.Rel.none (Option.Rel.some atMost)
    (fun harm => ensures_pure ⟨none, rfl⟩) (fun harm => ensures_pure ⟨none, rfl⟩)

theorem beside_resolveSpellAttack (suggestion : Suggestion) (target : Option Int) :
    Beside (resolveSpellAttack suggestion character modest target)
      (resolveSpellAttack suggestion { character with scores := scores } generous target)
      Outcome.AtMost := by
  have bonuses :
      spellAttackBonus (character.scores.get character.scores.bestSpellAbility) modest ≤
        spellAttackBonus (scores.get scores.bestSpellAbility) generous :=
    Int.add_le_add (scoreModifier_le better.bestSpellAbility) le
  rw [resolveSpellAttack_eq, resolveSpellAttack_eq]
  refine (Test.inStep_roll bonuses target).bind_beside fun test improved atMost => ?_
  have kept : HarmsKept (suggestion.rollHarm test) (suggestion.rollHarm improved) := by
    rw [Suggestion.rollHarm, Suggestion.rollHarm, atMost.isCritical_eq]
    split
    · refine atMost.harmsKept ((inStep_self _).bind ?_)
      rintro dice _ rfl
      exact inStep_rollDamage [dice] test.isCritical (Int.le_refl 0)
    · exact harmsKept_none _
  exact kept.beside (suggestion.blank_announced _) (suggestion.blank_announced _)
    Option.Rel.none (Option.Rel.some atMost)
    (fun harm => ensures_pure ⟨none, rfl⟩) (fun harm => ensures_pure ⟨none, rfl⟩)

end Actions

namespace CastRequest

variable (request : CastRequest) {score higher modest generous : Int}

theorem announced_saveDifficulty_le (scores : score ≤ higher) (le : modest ≤ generous) :
    Option.Rel (· ≤ ·) (request.announced score modest).saveDifficulty
      (request.announced higher generous).saveDifficulty := by
  rw [announced, announced]
  cases request.spell.savingThrow with
  | none => exact Option.Rel.none
  | some save =>
      have modifiers : scoreModifier score ≤ scoreModifier higher := scoreModifier_le scores
      refine Option.Rel.some ?_
      simp only [spellDifficulty]
      omega

theorem inStep_rollToHit (scores : score ≤ higher) (le : modest ≤ generous) :
    InStep (request.rollToHit score modest) (request.rollToHit higher generous)
      (Option.Rel Test.AtMost) := by
  have bonuses : spellAttackBonus score modest ≤ spellAttackBonus higher generous :=
    Int.add_le_add (scoreModifier_le scores) le
  rw [rollToHit, rollToHit]
  split
  · exact (Test.inStep_roll bonuses request.target).map fun test improved atMost =>
      Option.Rel.some atMost
  · exact inStep_pure Option.Rel.none

theorem harmsKept_rollHarm
    {test improved : Option Test} (tests : Option.Rel Test.AtMost test improved)
    {modifier more : Int} (le : modifier ≤ more) (level : Int) :
    HarmsKept (request.rollHarm test modifier level) (request.rollHarm improved more level) := by
  rw [rollHarm, rollHarm]
  cases request.spell.damage with
  | none => exact harmsKept_none _
  | some damage =>
      have added : (if damage.addsModifier then modifier else 0) ≤
          if damage.addsModifier then more else 0 := counted_le le
      cases tests with
      | none =>
          refine Or.inl ((inStep_rollDamage _ false added).map ?_)
          rintro roll greater le _ ⟨⟩
          exact ⟨greater, rfl, le⟩
      | @some test improved atMost =>
          have kept := atMost.harmsKept (inStep_rollDamage
            (request.spell.poolAt damage.dice damage.scaling request.slotTaken level)
            test.isCritical added)
          simp only [Option.all_some, Option.any_some, atMost.isCritical_eq]
          exact kept

theorem beside_resolve
    {character : Character} {scores : Scores} (better : character.scores.AtMost scores)
    (le : modest ≤ generous) :
    Beside (request.resolve character modest)
      (request.resolve { character with scores := scores } generous) Outcome.AtMost := by
  have higher := better request.spell.ability.toAbility
  have saves := request.announced_saveDifficulty_le higher le
  rw [resolve_eq, resolve_eq]
  refine (request.inStep_rollToHit higher le).bind_beside fun test improved tests => ?_
  have kept := request.harmsKept_rollHarm tests (scoreModifier_le higher) character.level.value
  exact kept.beside (request.blank_announced _ modest) (request.blank_announced _ generous) saves
    tests (fun harm => ensures_bind fun relief => ensures_pure ⟨relief, rfl⟩)
    (fun harm => ensures_bind fun relief => ensures_pure ⟨relief, rfl⟩)

end CastRequest

/-! ## Suggestions and described actions -/

namespace Referee

variable (referee : Referee) {character : Character} {scores : Scores}

theorem proficiency_le
    (character : Character) (scores : Scores) {modest generous : Option Int}
    (bonuses : Option.Rel (· ≤ ·) modest generous) :
    referee.proficiency character modest ≤
      referee.proficiency { character with scores := scores } generous := by
  cases bonuses with
  | none => exact Int.le_refl _
  | some le => exact le

theorem beside_resolve
    (better : character.scores.AtMost scores) {modest generous : Option Int}
    (bonuses : Option.Rel (· ≤ ·) modest generous) (suggestion : Suggestion) (options : Options) :
    Beside (referee.resolve suggestion character { options with proficiency := modest })
      (referee.resolve suggestion { character with scores := scores }
        { options with proficiency := generous }) Outcome.AtMost := by
  have le := referee.proficiency_le character scores bonuses
  rw [resolve, resolve]
  cases suggestion.kind with
  | attack =>
      by_cases casts : suggestion.mode = some "spell"
      · simp only [casts, if_true]
        exact beside_resolveSpellAttack better le suggestion _
      · simp only [casts, if_false]
        exact AttackRequest.beside_resolve better le _ _ _
  | skill => exact CheckRequest.beside_resolve better le _
  | save => exact CheckRequest.beside_resolve better le _

theorem beside_resolveNamed
    (better : character.scores.AtMost scores) {modest generous : Int} (le : modest ≤ generous)
    (text : String) (notes : List String) :
    Beside (resolveNamed text character modest notes)
      (resolveNamed text { character with scores := scores } generous notes) Outcome.AtMost := by
  rw [resolveNamed, resolveNamed]
  split
  · refine (inStep_pure ?_).beside
    refine ⟨rfl, rfl, Int.le_refl 0, Int.le_refl 0, Option.Rel.none, Option.Rel.none, ?_⟩
    intro damage absent
    cases absent
  · refine (inStep_self _).bind_beside ?_
    rintro difficulty _ rfl
    exact CheckRequest.beside_resolve better le _

theorem beside_resolveArmed
    (better : character.scores.AtMost scores) {modest generous : Int} (le : modest ≤ generous)
    (text : String) (notes : List String) :
    Beside (referee.resolveArmed text character modest notes)
      (referee.resolveArmed text { character with scores := scores } generous notes)
      Outcome.AtMost := by
  rw [resolveArmed, resolveArmed]
  split
  · refine (inStep_self _).bind_beside ?_
    rintro target _ rfl
    exact AttackRequest.beside_resolve better le _ _ _
  · exact beside_resolveNamed better le text notes

theorem beside_resolveFree
    (better : character.scores.AtMost scores) {modest generous : Option Int}
    (bonuses : Option.Rel (· ≤ ·) modest generous) (text : String) :
    Beside (referee.resolveFree text character modest)
      (referee.resolveFree text { character with scores := scores } generous)
      Outcome.AtMost := by
  have le := referee.proficiency_le character scores bonuses
  rw [resolveFree, resolveFree]
  split
  · cases referee.compendium.findSpell? text with
    | none => exact referee.beside_resolveArmed better le text _
    | some spell =>
        refine (inStep_self _).bind_beside ?_
        rintro slot _ rfl
        refine (inStep_self _).bind_beside ?_
        rintro target _ rfl
        exact CastRequest.beside_resolve _ better le
  · exact referee.beside_resolveArmed better le text _

end Referee

/-- A character with other scores. -/
def Character.withScores (character : Character) (scores : Scores) : Character :=
  { character with scores := scores }

/-- Whoever has scores that are no lower and a proficiency bonus that is no lower does no worse with
the same draws, be it that a suggestion is resolved or a described action. -/
theorem better_characters_do_no_worse
    (referee : Referee) (character : Character) (scores : Scores) (modest generous : Option Int)
    (tray : Tray) (outcome improved : Outcome)
    (better : character.scores.AtMost scores)
    (bonuses : Option.Rel (· ≤ ·) modest generous) :
    (∀ suggestion (options : Referee.Options),
      (referee.resolve suggestion character { options with proficiency := modest } tray).1 =
          .ok outcome →
        (referee.resolve suggestion (character.withScores scores)
            { options with proficiency := generous } tray).1 = .ok improved →
          outcome.AtMost improved) ∧
    ∀ text,
      (referee.resolveFree text character modest tray).1 = .ok outcome →
        (referee.resolveFree text (character.withScores scores) generous tray).1 =
            .ok improved →
          outcome.AtMost improved := by
  constructor
  · intro suggestion options done improvedDone
    exact referee.beside_resolve better bonuses suggestion options tray outcome improved done
      improvedDone
  · intro text done improvedDone
    exact referee.beside_resolveFree better bonuses text tray outcome improved done improvedDone

/-- A rapier in a clumsy hand and in a nimble one, which hits and does more damage. -/
theorem better_characters_do_no_worse_with_a_rapier :
    ∃ outcome improved,
      (Referee.resolveFree ⟨Compendium.standard, {}⟩ "I attack with my rapier vs AC 14" {} none
          ⟨Source.ofList [], 0⟩).1 = .ok outcome ∧
        (Referee.resolveFree ⟨Compendium.standard, {}⟩ "I attack with my rapier vs AC 14"
            (Character.withScores {} { dexterity := 16 }) none ⟨Source.ofList [], 0⟩).1 =
          .ok improved ∧
        outcome.AtMost improved := by
  have isSome :
      (Referee.resolveFree ⟨Compendium.standard, {}⟩ "I attack with my rapier vs AC 14" {} none
        ⟨Source.ofList [], 0⟩).1.toOption.isSome = true := by
    decide +kernel
  have improvedIsSome :
      (Referee.resolveFree ⟨Compendium.standard, {}⟩ "I attack with my rapier vs AC 14"
        (Character.withScores {} { dexterity := 16 }) none
        ⟨Source.ofList [], 0⟩).1.toOption.isSome = true := by
    decide +kernel
  obtain ⟨outcome, done⟩ := exists_of_isSome_toOption isSome
  obtain ⟨improved, improvedDone⟩ := exists_of_isSome_toOption improvedIsSome
  have better : Scores.AtMost {} { dexterity := 16 } := by
    intro ability
    cases ability <;> decide
  have improves := better_characters_do_no_worse ⟨Compendium.standard, {}⟩ {} { dexterity := 16 }
    none none ⟨Source.ofList [], 0⟩ outcome improved better Option.Rel.none
  exact ⟨outcome, improved, done, improvedDone, improves.2 _ done improvedDone⟩

end Tabletop
