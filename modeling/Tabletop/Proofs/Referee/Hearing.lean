import Tabletop.Proofs.Pattern.Prospect
import Tabletop.Proofs.Prompt.Checks
import Tabletop.Proofs.Referee.Naming

/-!
# What is heard in a wording

In a text of which only the outline is known, the referee is sure to hear the name of an ability or
of a skill and the difficulty. A saving throw is heard as a throw.
-/

namespace Tabletop

open Numeral Pattern Prompt Text

namespace Wording

/-- In the texts of an outline a name is sure to be heard, with the first number as the difficulty,
and no spell, no attack and no saving throw. -/
def hearsCheck (outline : Outline) (name : String) : Bool :=
  ([spellWord, weaponVerb, saveWord].all fun pattern => pattern.prospect none outline = .nothing) &&
    named.prospect none outline = .hit [((), plain name)] &&
    difficulty.prospect none outline = .hit [((), [.numeral 0])]

theorem hearsCheck_abilityCheck :
    ∀ ability ∈ Ability.all, ∀ short : Bool,
      hearsCheck (CheckWording.abilityCheck short ability).outline (ability.word short) = true := by
  decide

theorem hearsCheck_skillCheck :
    ∀ skill ∈ Skill.all, hearsCheck (CheckWording.skillCheck skill).outline skill.name = true := by
  decide

theorem hearsCheck_abilitySkillCheck :
    ∀ ability ∈ Ability.all, ∀ short : Bool, ∀ skill ∈ Skill.all,
      hearsCheck (CheckWording.abilitySkillCheck short ability skill).outline
        (ability.word short) = true := by
  decide

/-- In a saving throw a throw is heard. -/
theorem prospect_save :
    ∀ ability ∈ Ability.all, ∀ short : Bool,
      spellWord.prospect none (CheckWording.save short ability).outline = .nothing ∧
        weaponVerb.prospect none (CheckWording.save short ability).outline = .hit [] ∧
        armorClass.prospect none (CheckWording.save short ability).outline = .nothing := by
  decide

/-- A text asks for a check by a name and of a difficulty, and for nothing else. -/
structure AsksFor (text : String) (name : Outline) (difficulty : Int)
    (numbers : Nat → List Char) : Prop where
  noSpell : spellWord.occursIn text.toList = false
  unarmed : weaponVerb.occursIn text.toList = false
  isCheck : Referee.checkKind text = .skillCheck
  isNamed : ∃ found, nameIn? text = some found ∧ name.WrittenAs numbers found.toList
  isHard : numberIn Wording.difficulty text.toList = .ok (some difficulty)

/-- A number in prospect is read from the texts of an outline. -/
theorem numberIn_of_prospect
    {outline : Outline} {numbers : Nat → List Char} {text : List Char} {pattern : Pattern Unit}
    {index : Nat} (isRun : ∀ index, IsRun (numbers index))
    (short : (numbers index).length ≤ digitLimit) (written : outline.WrittenAs numbers text)
    (ahead : pattern.prospect none outline = .hit [((), [.numeral index])]) :
    numberIn pattern text = .ok (some (value (numbers index))) := by
  have marked : [((), [Token.numeral index])].lookup () = some [.numeral index] := rfl
  obtain ⟨digits, areDigits, isNumeral⟩ := exists_mark?_of_prospect isRun written ahead marked
  have isRead : readNat digits.toList = .ok (value (numbers index)) := by
    rw [Outline.writtenAs_numeral_iff.1 isNumeral, readNat_eq_ok short]
  simp only [numberIn, areDigits, isRead]
  rfl

theorem asksFor_of_hearsCheck
    {outline : Outline} {name : String} {numbers : Nat → List Char} {text : String}
    (isRun : ∀ index, IsRun (numbers index)) (short : (numbers 0).length ≤ digitLimit)
    (written : outline.WrittenAs numbers text.toList) (hears : hearsCheck outline name = true) :
    AsksFor text (plain name) (value (numbers 0)) numbers := by
  simp only [hearsCheck, Bool.and_eq_true, List.all_eq_true, decide_eq_true_eq] at hears
  obtain ⟨⟨silent, hearsName⟩, hearsNumber⟩ := hears
  have noneOf (pattern : Pattern Unit) (listed : pattern ∈ [spellWord, weaponVerb, saveWord]) :
      pattern.occursIn text.toList = false :=
    occursIn_eq_false_of_prospect isRun written (silent pattern listed)
  have marksName : [((), plain name)].lookup () = some (plain name) := rfl
  obtain ⟨found, isNamed, isName⟩ :=
    exists_mark?_of_prospect isRun written hearsName marksName
  refine ⟨noneOf _ (by simp), noneOf _ (by simp), ?_, ⟨found, isNamed, isName⟩,
    numberIn_of_prospect isRun short written hearsNumber⟩
  rw [Referee.checkKind, noneOf saveWord (by simp), if_neg Bool.false_ne_true]

end Wording

end Tabletop
