import Tabletop.Proofs.Dice.Roll
import Tabletop.Proofs.Rolling.Breaking

/-!
# Dice that cannot be rolled

What is wrong with dice shows in the same way on all draws below one. A die with too many sides
fails on the first draw; numbers that are too long to be written fail once the dice have been
rolled; and what is no notation of dice fails before any draw.
-/

namespace Tabletop

open Numeral Rolling

variable {sides : Int} {fault : Fault} {draws : Nat}

theorem lasts_rollDie (fits : FitsBinary sides) : (rollDie sides).Lasts 1 := by
  intro tray below
  obtain ⟨drawBelow, sourceBelow⟩ := Source.BelowOne.next below
  obtain ⟨face, isFace⟩ := Draw.exists_face drawBelow fits
  refine ⟨face, ⟨tray.source.next.2, tray.taken + 1⟩, ?_, sourceBelow, rfl⟩
  rw [rollDie, bind_run]
  simp only [draw, lift, isFace]

theorem breaks_rollDie (tooMany : ¬FitsBinary sides) :
    (rollDie sides).Breaks .tooManySides 1 := by
  intro tray _
  have ran :
      rollDie sides tray = (.error .tooManySides, ⟨tray.source.next.2, tray.taken + 1⟩) := by
    rw [rollDie, bind_run]
    simp only [draw, lift, Draw.face_of_not_fits tooMany]
  rw [ran]
  exact ⟨rfl, rfl⟩

theorem lasts_rollFaces (fits : FitsBinary sides) (count : Nat) :
    (rollFaces sides count).Lasts count := by
  induction count with
  | zero => exact lasts_pure []
  | succ count inductionHypothesis =>
      have rest (face : Int) :
          (rollFaces sides count >>= fun faces => pure (face :: faces)).Lasts count :=
        inductionHypothesis.bind fun faces => lasts_pure (face :: faces)
      have both := (lasts_rollDie fits).bind rest
      rw [Nat.add_comm] at both
      exact both

theorem breaks_rollFaces (tooMany : ¬FitsBinary sides) {count : Nat} (positive : 0 < count) :
    (rollFaces sides count).Breaks .tooManySides 1 := by
  cases count with
  | zero => exact absurd positive (Nat.lt_irrefl 0)
  | succ count => exact (breaks_rollDie tooMany).bind _

/-! ## Expressions -/

/-- What goes wrong when dice are rolled, and after how many draws. -/
def Dice.flaw? (dice : Dice) : Option (Fault × Nat) :=
  if FitsBinary dice.sides then
    if isWritable dice.count && isWritable dice.modifier then none
    else some (.tooLongToWrite, dice.count)
  else some (.tooManySides, 1)

/-- What goes wrong when dice are read from a text and rolled. -/
def Dice.flawIn? (text : String) : Option (Fault × Nat) :=
  match Dice.parse text with
  | .ok dice => dice.flaw?
  | .error fault => some (fault, 0)

theorem Dice.rollable_of_flaw?_eq_none {dice : Dice} (sound : dice.flaw? = none) :
    dice.Rollable := by
  rw [flaw?] at sound
  by_cases fits : FitsBinary dice.sides
  · rw [if_pos fits] at sound
    by_cases writes : (isWritable dice.count && isWritable dice.modifier) = true
    · obtain ⟨count, modifier⟩ := Bool.and_eq_true_iff.1 writes
      exact ⟨fits, count, modifier⟩
    · rw [if_neg writes] at sound
      cases sound
  · rw [if_neg fits] at sound
    cases sound

theorem Dice.breaks_roll {dice : Dice} (flawed : dice.flaw? = some (fault, draws)) :
    dice.roll.Breaks fault draws := by
  rw [flaw?] at flawed
  rw [roll]
  by_cases fits : FitsBinary dice.sides
  · rw [if_pos fits] at flawed
    by_cases writes : (isWritable dice.count && isWritable dice.modifier) = true
    · rw [if_pos writes] at flawed
      cases flawed
    · rw [if_neg writes] at flawed
      cases flawed
      have notWritten : dice.written = .error .tooLongToWrite := by
        rw [written, if_neg]
        intro writable
        simp only [Bool.and_eq_true] at writable writes
        exact writes ⟨writable.1.1, writable.2⟩
      have breaks (faces : List Int) :
          Breaks (lift dice.written >>= fun expression =>
            pure (⟨expression, faces, dice.modifier, sumInts faces + dice.modifier⟩ : Roll))
            .tooLongToWrite 0 :=
        (breaks_lift notWritten).bind _
      exact (lasts_rollFaces fits dice.count).bind_breaks breaks
  · rw [if_neg fits] at flawed
    cases flawed
    exact (breaks_rollFaces fits dice.count_pos).bind _

/-- Flawed dice break off the damage that they are rolled for, critical or not. -/
theorem Dice.breaks_rollDamage
    {dice : Dice} (flawed : dice.flaw? = some (fault, draws)) (bonus : Int) (critical : Bool) :
    (rollDamage [dice] bonus critical).Breaks fault draws := by
  have faces : (dice.rollFor critical).Breaks fault draws := (breaks_roll flawed).bind _
  have pool : (poolFaces critical [dice]).Breaks fault draws := faces.bind _
  have rolled : (rollPool [dice] critical).Breaks fault draws := pool.bind _
  exact rolled.map _

theorem Dice.goesWrongBy_rollDamage (dice : Dice) (bonus : Int) (critical : Bool) :
    (rollDamage [dice] bonus critical).GoesWrongBy dice.flaw? := by
  cases flawed : dice.flaw? with
  | none =>
      have rollable := rollable_of_flaw?_eq_none flawed
      exact failsOnly_rollDamage (List.forall_mem_singleton.2 rollable) bonus critical
  | some flaw => exact breaks_rollDamage flawed bonus critical

/-- Damage that is read from a text before it is rolled. -/
theorem goesWrongBy_parseAndRoll (text : String) (critical : Bool) :
    (lift (Dice.parse text) >>= fun dice => rollDamage [dice] 0 critical).GoesWrongBy
      (Dice.flawIn? text) := by
  rw [Dice.flawIn?]
  cases made : Dice.parse text with
  | ok dice => exact dice.goesWrongBy_rollDamage 0 critical
  | error fault => exact (breaks_lift rfl).bind _

end Tabletop
