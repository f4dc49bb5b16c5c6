import Tabletop.Compendium.Standard
import Tabletop.Proofs.Dice.Roll
import Tabletop.Referee

/-!
# The dice of spells

A spell adds to its base dice as many more as its slot and its caster allow, ten times the same dice
at most. So if all dice of a compendium are moderate, whatever a spell rolls can be rolled.
-/

namespace Tabletop

open Numeral

variable {Allowed : Fault → Prop}

/-! ## Moderate dice -/

/-- The digits of a moderate number, which leave room below the limit on digits. -/
def moderateDigits : Nat := 4000

/-- Dice whose sides make faces and whose other numbers are moderate. -/
structure Dice.Moderate (dice : Dice) : Prop where
  fits : FitsBinary dice.sides
  count : dice.count < 10 ^ moderateDigits
  modifier : dice.modifier.natAbs < 10 ^ moderateDigits

instance (dice : Dice) : Decidable dice.Moderate :=
  decidable_of_iff
    (FitsBinary dice.sides ∧ dice.count < 10 ^ moderateDigits ∧
      dice.modifier.natAbs < 10 ^ moderateDigits)
    ⟨fun ⟨fits, count, modifier⟩ => ⟨fits, count, modifier⟩,
      fun ⟨fits, count, modifier⟩ => ⟨fits, count, modifier⟩⟩

/-- The most times that the same dice are taken. -/
def mostTimes : Nat := 10

theorem isWritable_mul_of_moderate
    {n : Int} {times : Nat} (moderate : n.natAbs < 10 ^ moderateDigits)
    (few : times ≤ mostTimes) :
    isWritable (n * times) = true := by
  have grown : ∀ bound, n.natAbs < bound → n.natAbs * times < bound * 10 := by
    intro bound small
    have tenTimes : n.natAbs * times ≤ n.natAbs * 10 := Nat.mul_le_mul_left _ few
    omega
  have room : moderateDigits + 1 ≤ digitLimit := by decide
  rw [isWritable_iff, Int.natAbs_mul, Int.natAbs_natCast]
  calc
    n.natAbs * times < 10 ^ moderateDigits * 10 := grown (10 ^ moderateDigits) moderate
    _ = 10 ^ (moderateDigits + 1) := by rw [Nat.pow_succ]
    _ ≤ 10 ^ digitLimit := Nat.pow_le_pow_right (by decide) room

namespace Dice.Moderate

variable {dice : Dice}

theorem rollable_repeated
    {times : Nat} (moderate : dice.Moderate) (few : times ≤ mostTimes)
    (positive : 0 < times) :
    (dice.repeated times positive).Rollable := by
  have countWritable : isWritable (dice.count * times : Int) = true :=
    isWritable_mul_of_moderate moderate.count few
  have modifierWritable : isWritable (dice.modifier * times) = true :=
    isWritable_mul_of_moderate moderate.modifier few
  refine ⟨moderate.fits, ?_, modifierWritable⟩
  simpa [repeated] using countWritable

theorem rollable (moderate : dice.Moderate) : dice.Rollable := by
  have once : (dice.repeated 1 Nat.one_pos).Rollable :=
    moderate.rollable_repeated (by decide) Nat.one_pos
  have same : dice.repeated 1 Nat.one_pos = dice := by
    simp [repeated]
  rwa [same] at once

end Dice.Moderate

/-! ## Growing spells -/

/-- The dice that a spell may gain. -/
def Scaling.gains : Option Scaling → List Dice
  | none => []
  | some scaling => scaling.perSlot.toList ++ scaling.perStep.toList

namespace Spell

/-- All dice of a spell. -/
def dice (spell : Spell) : List Dice :=
  let harming :=
    match spell.damage with
    | some damage => damage.dice :: Scaling.gains damage.scaling
    | none => []
  let healing :=
    match spell.healing with
    | some healing => healing.dice :: Scaling.gains healing.scaling
    | none => []
  harming ++ healing

theorem slotFor_le_highestSlot (spell : Spell) (asked : Option Int) :
    spell.slotFor asked ≤ highestSlot := by
  have level := spell.level.le_nine
  cases asked with
  | none =>
      simp only [slotFor, highestSlot]
      omega
  | some slot => exact Int.min_le_right _ _

theorem cantripSteps_le (level : Int) : cantripSteps level ≤ mostTimes := by
  have steps : cantripSteps level ≤ cantripLevels.length := List.countP_le_length
  exact steps.trans (by decide)

theorem rollable_of_mem_extraDice
    {gained : Option Dice} {times : Int}
    (moderate : ∀ dice ∈ gained.toList, dice.Moderate) (few : times ≤ mostTimes) :
    ∀ dice ∈ extraDice gained times, dice.Rollable := by
  intro dice member
  cases gained with
  | none => cases member
  | some base =>
      rw [extraDice] at member
      by_cases positive : 0 < times
      · rw [dif_pos positive, List.mem_singleton] at member
        have fewTimes : times.toNat ≤ mostTimes := Int.toNat_le.2 few
        rw [member]
        exact (moderate base (by simp)).rollable_repeated fewTimes (Dice.toNat_pos positive)
      · rw [dif_neg positive] at member
        cases member

/-- Whatever a spell rolls in a slot can be rolled. -/
theorem rollable_of_mem_poolAt
    {base : Dice} {scaling : Option Scaling} (spell : Spell)
    (moderate : ∀ dice ∈ base :: Scaling.gains scaling, dice.Moderate)
    (asked : Option Int) (casterLevel : Int) :
    ∀ dice ∈ spell.poolAt base scaling (spell.slotFor asked) casterLevel, dice.Rollable := by
  have baseRollable : base.Rollable := (moderate base (by simp)).rollable
  cases scaling with
  | none => simpa [poolAt] using baseRollable
  | some scaling =>
      -- no slot is ten or more above the level of a spell, and there are three steps for cantrips
      have slotsAbove : spell.slotFor asked - spell.level.value ≤ mostTimes := by
        have highest := spell.slotFor_le_highestSlot asked
        simp only [highestSlot, mostTimes] at highest ⊢
        omega
      have slotModerate : ∀ dice ∈ scaling.perSlot.toList, dice.Moderate :=
        fun dice member => moderate dice (by simp_all [Scaling.gains])
      have stepModerate : ∀ dice ∈ scaling.perStep.toList, dice.Moderate :=
        fun dice member => moderate dice (by simp_all [Scaling.gains])
      have steps : (cantripSteps casterLevel : Int) ≤ mostTimes :=
        Int.ofNat_le.2 (cantripSteps_le casterLevel)
      intro dice member
      rw [poolAt, List.mem_cons, List.mem_append] at member
      rcases member with rfl | member | member
      · exact baseRollable
      · exact rollable_of_mem_extraDice slotModerate slotsAbove dice member
      · by_cases isCantrip : spell.isCantrip = true
        · rw [if_pos isCantrip] at member
          exact rollable_of_mem_extraDice stepModerate steps dice member
        · rw [if_neg isCantrip] at member
          cases member

end Spell

/-! ## Compendia -/

namespace Compendium

/-- All dice of a compendium. -/
def dice (compendium : Compendium) : List Dice :=
  compendium.weapons.map (·.2.damage.dice) ++ compendium.spells.flatMap (·.2.dice)

/-- A compendium all of whose dice are moderate. -/
def Moderate (compendium : Compendium) : Prop :=
  ∀ dice ∈ compendium.dice, dice.Moderate

theorem standard_moderate : Compendium.standard.Moderate := by
  have moderate : ∀ dice ∈ Compendium.standard.dice, dice.Moderate := by
    decide +kernel
  exact moderate

end Compendium

/-! ## Casting -/

theorem failsOnly_rollHealing
    {pool : List Dice} (rollable : ∀ dice ∈ pool, dice.Rollable) (bonus modifier : Int) :
    (rollHealing pool bonus modifier).FailsOnly Allowed :=
  (failsOnly_rollPool rollable false).map (Roll.withBonus · (bonus + modifier))

namespace CastRequest

variable (request : CastRequest)

theorem failsOnly_rollToHit (score proficiency : Int) :
    (request.rollToHit score proficiency).FailsOnly Allowed := by
  rw [rollToHit]
  split
  · exact (Test.failsOnly_roll _ _).map some
  · exact Rolling.failsOnly_pure none

theorem failsOnly_rollHarm
    (moderate : ∀ dice ∈ request.spell.dice, dice.Moderate)
    (test : Option Test) (modifier level : Int) :
    (request.rollHarm test modifier level).FailsOnly Allowed := by
  rw [rollHarm]
  cases does : request.spell.damage with
  | none => exact Rolling.failsOnly_pure none
  | some damage =>
      have harmModerate :
          ∀ dice ∈ damage.dice :: Scaling.gains damage.scaling, dice.Moderate := by
        intro dice member
        apply moderate
        rw [Spell.dice, does]
        exact List.mem_append_left _ member
      have poolRollable :=
        request.spell.rollable_of_mem_poolAt harmModerate request.slot level
      by_cases mayHit : test.all Test.mayHit = true
      · simp only [mayHit, if_true]
        exact (failsOnly_rollDamage poolRollable _ _).map some
      · simp only [mayHit]
        exact Rolling.failsOnly_pure none

theorem failsOnly_rollRelief
    (moderate : ∀ dice ∈ request.spell.dice, dice.Moderate) (modifier level : Int) :
    (request.rollRelief modifier level).FailsOnly Allowed := by
  rw [rollRelief]
  cases heals : request.spell.healing with
  | none => exact Rolling.failsOnly_pure none
  | some healing =>
      have reliefModerate :
          ∀ dice ∈ healing.dice :: Scaling.gains healing.scaling, dice.Moderate := by
        intro dice member
        apply moderate
        rw [Spell.dice, heals]
        exact List.mem_append_right _ member
      have poolRollable :=
        request.spell.rollable_of_mem_poolAt reliefModerate request.slot level
      exact (failsOnly_rollHealing poolRollable healing.bonus modifier).map some

theorem failsOnly_resolve
    (moderate : ∀ dice ∈ request.spell.dice, dice.Moderate)
    (character : Character) (proficiency : Int) :
    (request.resolve character proficiency).FailsOnly Allowed := by
  refine Rolling.failsOnly_bind (request.failsOnly_rollToHit _ _) fun test => ?_
  refine Rolling.failsOnly_bind (request.failsOnly_rollHarm moderate test _ _) fun harm => ?_
  refine Rolling.failsOnly_bind (request.failsOnly_rollRelief moderate _ _) fun relief => ?_
  exact Rolling.failsOnly_pure _

end CastRequest

end Tabletop
