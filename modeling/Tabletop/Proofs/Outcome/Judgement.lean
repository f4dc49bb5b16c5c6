import Tabletop.Proofs.Outcome.Stages

/-!
# How attacks and spells are judged

An attack is a success if its total reaches the armor class, if one is known. The same goes for a
spell that has to hit; any other spell is neither a success nor a failure.
-/

namespace Tabletop

/-- What an attack with a weapon shows, and how it is judged. -/
theorem AttackRequest.ensures_judged
    (request : AttackRequest) (compendium : Compendium) (texts : List (Option String))
    (character : Character) (proficiency : Int) :
    (request.resolve compendium texts character proficiency).Ensures fun outcome =>
      outcome.kind = request.kind ∧
        outcome.weapon = some (weaponIn compendium texts).1.name ∧
        outcome.notes = request.notes ++ (weaponIn compendium texts).2 ∧
        outcome.success = request.target.map fun target => decide (target ≤ outcome.total) := by
  rw [resolve_eq]
  generalize weaponIn compendium texts = chosen
  obtain ⟨weapon, fallbackNotes⟩ := chosen
  rw [resolveWith]
  refine (Test.ensures_roll _ _).bind fun test adds => ?_
  refine Rolling.ensures_bind fun harm => Rolling.ensures_pure ?_
  rw [(request.blank_announced _ _ _).withRolls_eq]
  exact ⟨rfl, rfl, rfl, adds.success⟩

namespace CastRequest

variable (request : CastRequest)

theorem announced_spell (score proficiency : Int) :
    (request.announced score proficiency).spell = some request.spell.name ∧
      (request.announced score proficiency).slot = some request.slotTaken := by
  rw [announced]
  cases request.spell.savingThrow <;> exact ⟨rfl, rfl⟩

/-- A test is rolled just if the spell has to hit. -/
theorem ensures_rollToHit_judged (score proficiency : Int) :
    (request.rollToHit score proficiency).Ensures fun test =>
      test.bind Test.success =
        if request.spell.needsAttackRoll then
          request.target.map fun target => decide (target ≤ (test.map Test.total).getD 0)
        else none := by
  rw [rollToHit]
  by_cases needed : request.spell.needsAttackRoll = true
  · simp only [if_pos needed]
    exact Rolling.Ensures.map fun tray test done => (Test.ensures_roll _ _ tray test done).success
  · simp only [if_neg needed]
    exact Rolling.ensures_pure rfl

/-- What a spell that is cast shows, and how it is judged. -/
theorem ensures_judged (character : Character) (proficiency : Int) :
    (request.resolve character proficiency).Ensures fun outcome =>
      outcome.kind = .spellCast ∧ outcome.spell = some request.spell.name ∧
        outcome.slot = some request.slotTaken ∧
        outcome.success =
          if request.spell.needsAttackRoll then
            request.target.map fun target => decide (target ≤ outcome.total)
          else none := by
  rw [resolve_eq]
  refine (request.ensures_rollToHit_judged _ _).bind fun test judged => ?_
  refine Rolling.ensures_bind fun harm => ?_
  refine Rolling.ensures_bind fun relief => Rolling.ensures_pure ?_
  generalize character.scores.get request.spell.ability.toAbility = score
  obtain ⟨kind, -, -⟩ := request.announced_shows score proficiency
  obtain ⟨spell, slot⟩ := request.announced_spell score proficiency
  rw [(request.blank_announced score proficiency).withRolls_eq]
  exact ⟨kind, spell, slot, judged⟩

end CastRequest

end Tabletop
