import Tabletop.Combat
import Tabletop.Proofs.Dice.Notation
import Tabletop.Proofs.Results
import Tabletop.Proofs.Rolling

/-!
# Dice that can be rolled

Dice whose sides fit the binary format and whose numbers can be written are rolled without a fault,
alone and in pools.
-/

namespace Tabletop

open Numeral

variable {Allowed : Fault → Prop}

/-- Dice whose sides make faces and whose notation can be written. -/
structure Dice.Rollable (dice : Dice) : Prop where
  fits : FitsBinary dice.sides
  count : isWritable dice.count = true
  modifier : isWritable dice.modifier = true

instance (dice : Dice) : Decidable dice.Rollable :=
  decidable_of_iff
    (FitsBinary dice.sides ∧ isWritable dice.count = true ∧
      isWritable dice.modifier = true)
    ⟨fun ⟨fits, count, modifier⟩ => ⟨fits, count, modifier⟩,
      fun ⟨fits, count, modifier⟩ => ⟨fits, count, modifier⟩⟩

theorem Dice.Rollable.writable {dice : Dice} (rollable : dice.Rollable) : dice.Writable := by
  obtain ⟨negative, units, exponent, rounded⟩ := rollable.fits.exists_finite
  refine ⟨rollable.count, ?_, rollable.modifier⟩
  have bound : (dice.sides : Int).natAbs < 2 ^ digitLimit :=
    Binary.natAbs_lt_of_finite rounded (by decide)
  rw [isWritable_iff]
  exact Nat.lt_of_lt_of_le bound (Nat.pow_le_pow_left (by decide) digitLimit)

theorem d20_rollable : d20.Rollable := by
  decide +kernel

theorem failsOnly_rollDie {sides : Int} (fits : FitsBinary sides) :
    (rollDie sides).FailsOnly Allowed := by
  intro tray below
  obtain ⟨drawBelow, sourceBelow⟩ := Source.BelowOne.next below
  obtain ⟨face, isFace⟩ := Draw.exists_face drawBelow fits
  have ran : rollDie sides tray = (.ok face, ⟨tray.source.next.2, tray.taken + 1⟩) := by
    rw [rollDie, Rolling.bind_run]
    simp only [Rolling.draw, Rolling.lift, isFace]
  rw [ran]
  refine ⟨sourceBelow, fun fault failed => ?_⟩
  cases failed

theorem failsOnly_rollFaces {sides : Int} (fits : FitsBinary sides) (count : Nat) :
    (rollFaces sides count).FailsOnly Allowed := by
  induction count with
  | zero => exact Rolling.failsOnly_pure []
  | succ count inductionHypothesis =>
      refine Rolling.failsOnly_bind (failsOnly_rollDie fits) fun face => ?_
      exact Rolling.failsOnly_bind inductionHypothesis fun faces => Rolling.failsOnly_pure _

theorem Dice.Rollable.failsOnly_roll {dice : Dice} (rollable : dice.Rollable) :
    dice.roll.FailsOnly Allowed := by
  refine Rolling.failsOnly_bind (failsOnly_rollFaces rollable.fits dice.count) fun faces => ?_
  refine Rolling.failsOnly_bind (Rolling.failsOnly_lift fun fault failed => ?_) fun text =>
    Rolling.failsOnly_pure _
  rw [rollable.writable.written_eq] at failed
  cases failed

theorem failsOnly_rollD20 (modifier : Int) : (rollD20 modifier).FailsOnly Allowed :=
  Rolling.failsOnly_bind d20_rollable.failsOnly_roll fun _ => Rolling.failsOnly_pure _

theorem Test.failsOnly_roll (bonus : Int) (threshold : Option Int) :
    (Test.roll bonus threshold).FailsOnly Allowed :=
  Rolling.failsOnly_bind (failsOnly_rollD20 bonus) fun _ => Rolling.failsOnly_pure _

/-! ## Pools -/

theorem Dice.Rollable.failsOnly_rollFor {dice : Dice} (rollable : dice.Rollable) (twice : Bool) :
    (dice.rollFor twice).FailsOnly Allowed := by
  refine Rolling.failsOnly_bind rollable.failsOnly_roll fun first => ?_
  cases twice with
  | false => exact Rolling.failsOnly_pure first.faces
  | true =>
      exact Rolling.failsOnly_bind rollable.failsOnly_roll fun _ => Rolling.failsOnly_pure _

theorem failsOnly_poolFaces
    {pool : List Dice} (rollable : ∀ dice ∈ pool, dice.Rollable) (twice : Bool) :
    (poolFaces twice pool).FailsOnly Allowed := by
  induction pool with
  | nil => exact Rolling.failsOnly_pure []
  | cons dice rest inductionHypothesis =>
      have restRollable : ∀ other ∈ rest, other.Rollable :=
        fun other member => rollable other (List.mem_cons_of_mem dice member)
      refine Rolling.failsOnly_bind ((rollable dice (by simp)).failsOnly_rollFor twice)
        fun faces => ?_
      exact Rolling.failsOnly_bind (inductionHypothesis restRollable) fun _ =>
        Rolling.failsOnly_pure _

theorem failsOnly_rollPool
    {pool : List Dice} (rollable : ∀ dice ∈ pool, dice.Rollable) (twice : Bool) :
    (rollPool pool twice).FailsOnly Allowed := by
  refine Rolling.failsOnly_bind (failsOnly_poolFaces rollable twice) fun faces => ?_
  refine Rolling.failsOnly_bind (Rolling.failsOnly_lift fun fault failed => ?_) fun text =>
    Rolling.failsOnly_pure _
  obtain ⟨texts, written⟩ :=
    exists_mapM_eq_ok fun dice member => ⟨_, (rollable dice member).writable.written_eq⟩
  rw [poolText, written] at failed
  cases failed

theorem failsOnly_rollDamage
    {pool : List Dice} (rollable : ∀ dice ∈ pool, dice.Rollable) (bonus : Int) (critical : Bool) :
    (rollDamage pool bonus critical).FailsOnly Allowed :=
  (failsOnly_rollPool rollable critical).map (Roll.withBonus · bonus)

end Tabletop
