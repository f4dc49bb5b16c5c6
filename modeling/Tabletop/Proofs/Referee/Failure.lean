import Tabletop.Compendium.Standard
import Tabletop.Proofs.Dice.Flaw
import Tabletop.Proofs.Outcome.Stages
import Tabletop.Proofs.Referee.Resolution

/-!
# Suggestions that cannot be resolved

A suggestion fails because its damage cannot be rolled, and damage is rolled only for an attack that
may hit. So the die of twenty sides is the one piece of luck on which a failure depends: whether
there is a fault, which one it is and how many draws were taken before it are settled otherwise.
-/

namespace Tabletop

open Rolling

/-! ## The die of twenty sides -/

/-- The next face of a die of twenty sides makes an attack that may hit: it is a twenty, or no armor
class is known that it does not reach. -/
def Tray.MayHit (tray : Tray) (bonus : Int) (armorClass : Option Int) : Prop :=
  ∃ face, (rollDie 20 tray).1 = .ok face ∧
    (face = 20 ∨ ∀ known, armorClass = some known → known ≤ face + bonus)

theorem Source.belowOne_singleton {draw : Draw} (below : draw.BelowOne) :
    (Source.ofList [draw]).BelowOne :=
  Source.belowOne_ofList (List.forall_mem_singleton.2 below)

theorem Tray.mayHit_of_none {tray : Tray} (below : tray.BelowOne) (bonus : Int) :
    tray.MayHit bonus none := by
  obtain ⟨face, after, ran, -⟩ := lasts_rollDie d20_rollable.fits tray below
  refine ⟨face, congrArg Prod.fst ran, Or.inr fun known isKnown => ?_⟩
  cases isKnown

theorem Test.mayHit_iff_reaches
    {test : Test} {threshold : Option Int} (adds : test.AddsUp threshold) :
    test.mayHit = true ↔
      test.face = 20 ∨ ∀ known, threshold = some known → known ≤ test.face + test.modifier := by
  rw [Test.mayHit_iff adds, adds.success, adds.total, or_comm]
  cases threshold with
  | none => simp
  | some known => simp

theorem Test.exists_roll
    {tray : Tray} (below : tray.BelowOne) (bonus : Int) (threshold : Option Int) :
    ∃ test after,
      Test.roll bonus threshold tray = (.ok test, after) ∧ after.BelowOne ∧
        after.taken = tray.taken + 1 ∧
        (test.mayHit = true ↔ tray.MayHit bonus threshold) := by
  obtain ⟨face, after, ran, afterBelow, taken⟩ := lasts_rollDie d20_rollable.fits tray below
  have isFace : (rollDie 20 tray).1 = .ok face := congrArg Prod.fst ran
  have faces : rollFaces d20.sides d20.count tray = (.ok [face], after) := by
    change (rollDie d20.sides >>= fun face => pure [face]) tray = _
    rw [bind_run, ran]
    rfl
  have rolled :
      rollD20 bonus tray = (.ok ⟨d20.spelled, [face], bonus, face + bonus⟩, after) := by
    rw [rollD20, bind_run, Dice.roll, bind_run, faces, d20_rollable.writable.written_eq]
    rfl
  let test : Test := {
    face := face
    modifier := bonus
    total := face + bonus
    critical := Critical.ofFace? face
    success := threshold.map fun threshold => decide (threshold ≤ face + bonus) }
  have adds : test.AddsUp threshold := ⟨rfl, rfl, rfl⟩
  refine ⟨test, after, ?_, afterBelow, taken, ?_⟩
  · rw [Test.roll, bind_run, rolled]
    rfl
  · rw [Test.mayHit_iff_reaches adds]
    constructor
    · intro reaches
      exact ⟨face, isFace, reaches⟩
    · rintro ⟨other, isOther, reaches⟩
      rw [isFace] at isOther
      obtain rfl := Except.ok.inj isOther
      exact reaches

/-! ## Attacks -/

/-- Work fails just on the draws with which an attack may hit and if something goes wrong then,
which shows after the die of twenty sides and some more draws. -/
def FailsOnHit (work : Rolling Outcome) (bonus : Int) (armorClass : Option Int)
    (flaw? : Option (Fault × Nat)) : Prop :=
  ∀ tray, tray.BelowOne →
    (∀ fault, (work tray).1 = .error fault ↔
      tray.MayHit bonus armorClass ∧ ∃ draws, flaw? = some (fault, draws)) ∧
    ∀ fault draws, flaw? = some (fault, draws) → (work tray).1 = .error fault →
      (work tray).2.taken = tray.taken + 1 + draws

theorem failsOnHit_of_failsOnly
    {work : Rolling Outcome} (never : work.FailsOnly fun _ => False) (bonus : Int)
    (armorClass : Option Int) :
    FailsOnHit work bonus armorClass none := by
  intro tray below
  obtain ⟨-, fails⟩ := never tray below
  constructor
  · intro fault
    constructor
    · intro failed
      exact (fails fault failed).elim
    · rintro ⟨-, draws, flawed⟩
      cases flawed
  · intro fault draws flawed
    cases flawed

theorem failsOnHit_attack
    {harm : Test → Rolling (Option Roll)} {flaw? : Option (Fault × Nat)}
    (skipped : ∀ test, ¬test.mayHit = true → harm test = pure none)
    (goesWrong : ∀ test, test.mayHit = true → (harm test).GoesWrongBy flaw?)
    (shown : Test → Option Roll → Outcome) (bonus : Int) (armorClass : Option Int) :
    FailsOnHit
      (do
        let test ← Test.roll bonus armorClass
        let rolled ← harm test
        pure (shown test rolled))
      bonus armorClass flaw? := by
  intro tray below
  obtain ⟨test, after, ran, afterBelow, taken, hits⟩ :=
    Test.exists_roll below bonus armorClass
  rw [bind_run, ran, ← hits]
  simp only
  by_cases mayHit : test.mayHit = true
  · have wrong := (goesWrong test mayHit).bind_pure (shown test)
    constructor
    · intro fault
      rw [wrong.error_iff afterBelow fault, and_iff_right mayHit]
    · intro fault draws flawed _
      subst flawed
      rw [wrong.taken afterBelow, taken]
  · -- what is skipped cannot fail
    rw [skipped test mayHit]
    constructor
    · intro fault
      constructor
      · rintro ⟨⟩
      · rintro ⟨hit, -⟩
        exact absurd hit mayHit
    · rintro fault draws - ⟨⟩

theorem Test.rollHarm_skipped {test : Test} (missed : ¬test.mayHit = true) (work : Rolling Roll) :
    test.rollHarm work = pure none := by
  rw [Test.rollHarm, if_neg missed]

theorem Test.goesWrongBy_rollHarm
    {test : Test} {work : Rolling Roll} {flaw? : Option (Fault × Nat)}
    (mayHit : test.mayHit = true) (wrong : work.GoesWrongBy flaw?) :
    (test.rollHarm work).GoesWrongBy flaw? := by
  rw [Test.rollHarm, if_pos mayHit]
  exact wrong.map some

/-- What goes wrong with the damage of an attack: with the dice that a text notes, else with those
of the weapon, if there is one. -/
def damageFlaw? (damage : Option String) (weapon : Option Weapon) : Option (Fault × Nat) :=
  match Text.nonEmpty? damage with
  | some text => Dice.flawIn? text
  | none => weapon.bind fun weapon => weapon.damage.dice.flaw?

theorem AttackRequest.goesWrongBy_rollFor
    (request : AttackRequest) (weapon : Weapon) (modifier : Int) (critical : Bool) :
    (request.rollFor weapon modifier critical).GoesWrongBy
      (damageFlaw? request.damage (some weapon)) := by
  rw [rollFor, damageFlaw?]
  cases Text.nonEmpty? request.damage with
  | some text => exact goesWrongBy_parseAndRoll text critical
  | none => exact weapon.damage.dice.goesWrongBy_rollDamage modifier critical

theorem AttackRequest.failsOnHit_resolveWith
    (request : AttackRequest) (weapon : Weapon) (fallbackNotes : List String) (scores : Scores)
    (proficiency : Int) :
    FailsOnHit (request.resolveWith weapon fallbackNotes scores proficiency)
      (scoreModifier (scores.get (weapon.abilityFor scores)) +
        if request.proficient then proficiency else 0)
      request.target (damageFlaw? request.damage (some weapon)) := by
  rw [resolveWith]
  apply failsOnHit_attack
  · intro test missed
    exact Test.rollHarm_skipped missed _
  · intro test mayHit
    exact Test.goesWrongBy_rollHarm mayHit
      (request.goesWrongBy_rollFor weapon _ test.isCritical)

theorem Suggestion.failsOnHit_resolveSpellAttack
    (suggestion : Suggestion) (character : Character) (proficiency : Int)
    (armorClass : Option Int) :
    FailsOnHit (resolveSpellAttack suggestion character proficiency armorClass)
      (spellAttackBonus (character.scores.get character.scores.bestSpellAbility) proficiency)
      armorClass (damageFlaw? suggestion.damage none) := by
  rw [resolveSpellAttack_eq]
  apply failsOnHit_attack
  · intro test missed
    rw [rollHarm]
    cases Text.nonEmpty? suggestion.damage with
    | none => rfl
    | some text => exact Test.rollHarm_skipped missed _
  · intro test mayHit
    rw [rollHarm, damageFlaw?]
    cases Text.nonEmpty? suggestion.damage with
    | none => exact failsOnly_pure none
    | some text =>
        exact Test.goesWrongBy_rollHarm mayHit (goesWrongBy_parseAndRoll text test.isCritical)

/-! ## Suggestions -/

namespace Referee

variable (referee : Referee)

/-- What a character adds to the die of an attack that a suggestion calls for. -/
def attackBonus (suggestion : Suggestion) (character : Character) (options : Options) : Int :=
  let proficiency := referee.proficiency character options.proficiency
  if suggestion.mode = some "spell" then
    spellAttackBonus (character.scores.get character.scores.bestSpellAbility) proficiency
  else
    let weapon := (AttackRequest.weaponIn referee.compendium [character.equippedWeapon]).1
    scoreModifier (character.scores.get (weapon.abilityFor character.scores)) +
      if options.proficient != some false then proficiency else 0

/-- What goes wrong with a suggestion: nothing, unless it is an attack. -/
def flaw? (suggestion : Suggestion) (character : Character) : Option (Fault × Nat) :=
  match suggestion.kind with
  | .attack =>
      damageFlaw? suggestion.damage
        (if suggestion.mode = some "spell" then none
        else some (AttackRequest.weaponIn referee.compendium [character.equippedWeapon]).1)
  | .skill | .save => none

theorem failsOnHit_resolve
    (suggestion : Suggestion) (character : Character) (options : Options) :
    FailsOnHit (referee.resolve suggestion character options)
      (referee.attackBonus suggestion character options)
      (options.armorClass.or suggestion.armorClass) (referee.flaw? suggestion character) := by
  rw [resolve, flaw?, attackBonus]
  cases suggestion.kind with
  | attack =>
      by_cases casts : suggestion.mode = some "spell"
      · simp only [casts, if_true]
        exact suggestion.failsOnHit_resolveSpellAttack character _ _
      · simp only [casts, if_false]
        rw [AttackRequest.resolve_eq]
        exact AttackRequest.failsOnHit_resolveWith _ _ _ _ _
  | skill => exact failsOnHit_of_failsOnly (CheckRequest.failsOnly_resolve _ character _) _ _
  | save => exact failsOnHit_of_failsOnly (CheckRequest.failsOnly_resolve _ character _) _ _

end Referee

/-- A suggestion fails on draws below one just if something is wrong with its damage and its attack
may hit, with the same fault after the same number of draws whatever they are. So it fails on both
of two supplies of draws or on neither if its attack may hit with both or with neither, and also if
no armor class is known. -/
theorem failure_depends_on_the_hit_alone
    (referee : Referee) (suggestion : Suggestion) (character : Character)
    (options : Referee.Options) (tray other : Tray)
    (below : tray.BelowOne) (otherBelow : other.BelowOne) :
    let resolved := referee.resolve suggestion character options
    let armorClass := options.armorClass.or suggestion.armorClass
    let bonus := referee.attackBonus suggestion character options
    (∀ fault, (resolved tray).1 = .error fault ↔
      tray.MayHit bonus armorClass ∧
        ∃ draws, referee.flaw? suggestion character = some (fault, draws)) ∧
    (∀ fault draws, referee.flaw? suggestion character = some (fault, draws) →
      (resolved tray).1 = .error fault → (resolved tray).2.taken = tray.taken + 1 + draws) ∧
    (armorClass = none ∨ (tray.MayHit bonus armorClass ↔ other.MayHit bonus armorClass) →
      ∀ fault, (resolved tray).1 = .error fault ↔ (resolved other).1 = .error fault) := by
  intro resolved armorClass bonus
  obtain ⟨fails, taken⟩ := referee.failsOnHit_resolve suggestion character options tray below
  obtain ⟨otherFails, -⟩ :=
    referee.failsOnHit_resolve suggestion character options other otherBelow
  refine ⟨fails, taken, fun alike fault => ?_⟩
  have sameHit : tray.MayHit bonus armorClass ↔ other.MayHit bonus armorClass := by
    rcases alike with unknown | alike
    · rw [unknown]
      exact iff_of_true (Tray.mayHit_of_none below bonus) (Tray.mayHit_of_none otherBelow bonus)
    · exact alike
  rw [fails fault, otherFails fault]
  exact and_congr_left' sameHit

/-- Damage that is no notation of dice goes unnoticed with a one and fails with a twenty, when one
draw has been taken. -/
theorem luck_decides_whether_bad_notation_fails :
    let suggestion : Suggestion := {
      kind := .attack, armorClass := some 15, damage := some "two dice", span := ⟨0, 0⟩ }
    let resolved := Referee.resolve ⟨Compendium.standard, {}⟩ suggestion {} {}
    let low : Tray := ⟨Source.ofList [.finite false 1 (-5)], 0⟩
    let high : Tray := ⟨Source.ofList [.finite false 31 (-5)], 0⟩
    low.BelowOne ∧ high.BelowOne ∧
      (resolved low).1.toOption.isSome = true ∧
      (resolved high).1 = .error (.malformedDice "'two dice'") ∧
      (resolved high).2.taken = 1 := by
  intro suggestion resolved low high
  have lowBelow : low.BelowOne :=
    Source.belowOne_singleton ⟨false, 1, -5, rfl, by decide⟩
  have highBelow : high.BelowOne :=
    Source.belowOne_singleton ⟨false, 31, -5, rfl, by decide⟩
  refine ⟨lowBelow, highBelow, ?_, ?_, ?_⟩ <;> decide +kernel

theorem failure_depends_on_the_hit_alone_for_bad_notation :
    let suggestion : Suggestion := {
      kind := .attack, armorClass := some 15, damage := some "two dice", span := ⟨0, 0⟩ }
    let referee : Referee := ⟨Compendium.standard, {}⟩
    let high : Tray := ⟨Source.ofList [.finite false 31 (-5)], 0⟩
    let higher : Tray := ⟨Source.ofList [.finite false 63 (-6)], 0⟩
    (referee.resolve suggestion {} {} high).1 = .error (.malformedDice "'two dice'") ∧
      (referee.resolve suggestion {} {} high).2.taken = high.taken + 1 + 0 ∧
      (referee.resolve suggestion {} {} higher).1 = .error (.malformedDice "'two dice'") := by
  intro suggestion referee high higher
  have highBelow : high.BelowOne :=
    Source.belowOne_singleton ⟨false, 31, -5, rfl, by decide⟩
  have higherBelow : higher.BelowOne :=
    Source.belowOne_singleton ⟨false, 63, -6, rfl, by decide⟩
  have twenty : (rollDie 20 high).1 = .ok 20 := by decide
  have twentyAgain : (rollDie 20 higher).1 = .ok 20 := by decide
  have hits (bonus : Int) : high.MayHit bonus (some 15) := ⟨20, twenty, Or.inl rfl⟩
  have hitsToo (bonus : Int) : higher.MayHit bonus (some 15) := ⟨20, twentyAgain, Or.inl rfl⟩
  have flawed :
      referee.flaw? suggestion {} = some (.malformedDice "'two dice'", 0) := by
    decide
  obtain ⟨fails, taken, alike⟩ :=
    failure_depends_on_the_hit_alone referee suggestion {} {} high higher highBelow higherBelow
  have failed := (fails _).2 ⟨hits _, 0, flawed⟩
  have sameFault := alike (Or.inr (iff_of_true (hits _) (hitsToo _)))
  exact ⟨failed, taken _ 0 flawed failed, (sameFault _).1 failed⟩

end Tabletop
