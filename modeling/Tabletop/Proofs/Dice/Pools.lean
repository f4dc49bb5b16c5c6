import Tabletop.Proofs.Dice.Notation
import Tabletop.Proofs.Draw.Account
import Tabletop.Proofs.Results
import Tabletop.Proofs.Rolling.InStep

/-!
# Pools of dice

A pool of dice that can be written is rolled die by die, in its order. What its faces come to
follows from them and from the modifiers of the pool, so pools that are rolled together come to what
they come to one after the other, and dice taken a number of times to what as many copies come to.
-/

namespace Tabletop

open Numeral Rolling

/-! ## Sides of pools -/

@[simp]
theorem poolSides_cons (twice : Bool) (dice : Dice) (rest : List Dice) :
    poolSides twice (dice :: rest) = dice.sidesRolled twice ++ poolSides twice rest :=
  List.flatMap_cons

theorem poolSides_append (twice : Bool) (one other : List Dice) :
    poolSides twice (one ++ other) = poolSides twice one ++ poolSides twice other :=
  List.flatMap_append

/-- A sum over the sides of a pool: each expression counts with all its dice, twice if they are
rolled twice. -/
theorem sumInts_map_poolSides (measure : Int → Int) (twice : Bool) (pool : List Dice) :
    sumInts ((poolSides twice pool).map measure) =
      (if twice then 2 else 1) *
        sumInts (pool.map fun dice => dice.count * measure dice.sides) := by
  have alike (count : Nat) (value : Int) :
      sumInts (List.replicate count value) = count * value := by
    induction count with
    | zero => simp
    | succ count inductionHypothesis =>
        rw [List.replicate_succ, sumInts_cons, inductionHypothesis, Nat.cast_succ,
          Int.add_mul, Int.one_mul, Int.add_comm]
  induction pool with
  | nil => simp [poolSides]
  | cons dice rest inductionHypothesis =>
      rw [poolSides_cons, List.map_append, sumInts_append, inductionHypothesis, List.map_cons,
        sumInts_cons, Int.mul_add]
      congr 1
      cases twice with
      | false => simp [Dice.sidesRolled, alike]
      | true => simp [Dice.sidesRolled, alike, Int.two_mul, Int.add_mul]

theorem length_poolSides (twice : Bool) (pool : List Dice) :
    ((poolSides twice pool).length : Int) =
      (if twice then 2 else 1) * sumInts (pool.map fun dice => (dice.count : Int)) := by
  have ones (items : List Int) : sumInts (items.map fun _ => 1) = items.length := by
    induction items with
    | nil => rfl
    | cons item items inductionHypothesis =>
        rw [List.map_cons, sumInts_cons, inductionHypothesis, List.length_cons, Nat.cast_succ,
          Int.add_comm]
  rw [← ones, sumInts_map_poolSides]
  simp only [Int.mul_one]

/-! ## Dice one after another -/

/-- Rolls one die after another. -/
def rollEach (sides : List Int) : Rolling (List Int) :=
  sides.mapM rollDie

theorem rollEach_append (sides others : List Int) :
    rollEach (sides ++ others) = (do
      let faces ← rollEach sides
      let more ← rollEach others
      pure (faces ++ more)) :=
  List.mapM_append

theorem rollFaces_eq_rollEach (sides : Int) (count : Nat) :
    rollFaces sides count = rollEach (List.replicate count sides) := by
  induction count with
  | zero => rfl
  | succ count inductionHypothesis =>
      rw [rollFaces, inductionHypothesis, List.replicate_succ]
      exact List.mapM_cons.symm

/-- Dice with these sides show these faces if a tray is rolled from, and leave another tray. -/
def Tray.Shows (tray : Tray) (sides faces : List Int) (after : Tray) : Prop :=
  ∃ draws, tray.HandsOut draws after ∧ Faces draws sides faces

theorem Tray.Shows.rollEach_eq
    {tray after : Tray} {sides faces : List Int} (shows : tray.Shows sides faces after) :
    rollEach sides tray = (.ok faces, after) := by
  obtain ⟨draws, handsOut, makes⟩ := shows
  induction makes generalizing tray with
  | nothing =>
      cases handsOut
      rfl
  | next isFace _ inductionHypothesis =>
      cases handsOut with
      | next rest =>
          have first (die : Int) (face : Int) (made : tray.source.next.1.face die = .ok face) :
              rollDie die tray = (.ok face, ⟨tray.source.next.2, tray.taken + 1⟩) := by
            rw [rollDie, bind_run]
            simp only [draw, lift, made]
          rw [rollEach, List.mapM_cons, bind_run, first _ _ isFace]
          have later := inductionHypothesis rest
          rw [rollEach] at later
          simp only [bind_run, later]
          rfl

theorem accounts_rollEach (sides : List Int) :
    (rollEach sides).Accounts fun faces draws => Faces draws sides faces := by
  induction sides with
  | nil => exact accounts_pure Faces.nothing
  | cons die rest inductionHypothesis =>
      rw [rollEach, List.mapM_cons]
      refine (accounts_rollDie die).bind fun face draws isFirst => ?_
      refine inductionHypothesis.bind fun faces more areOthers => accounts_pure ?_
      rw [List.append_nil]
      exact isFirst.append areOthers

/-! ## Expressions -/

namespace Dice

variable {dice : Dice}

theorem writable_of_written {text : String} (written : dice.written = .ok text) :
    dice.Writable := by
  rw [Dice.written] at written
  split at written
  · rename_i writes
    simp only [Bool.and_eq_true] at writes
    exact ⟨writes.1.1, writes.1.2, writes.2⟩
  · cases written

theorem writable_of_roll
    {tray : Tray} {shown : Roll} (rolled : (dice.roll tray).1 = .ok shown) : dice.Writable := by
  rw [roll] at rolled
  obtain ⟨faces, -, ran⟩ := exists_middle_of_bind rolled
  rw [ran] at rolled
  obtain ⟨text, isText, -⟩ := exists_middle_of_bind rolled
  simp only [lift] at isText
  exact writable_of_written isText

/-- The faces of dice that can be written. -/
theorem Writable.faces_roll (writable : dice.Writable) :
    Roll.faces <$> dice.roll = rollFaces dice.sides dice.count := by
  rw [roll, writable.written_eq, map_eq_bind, bind_assoc]
  exact bind_pure _

theorem Writable.rollFor_eq (writable : dice.Writable) (twice : Bool) :
    dice.rollFor twice = rollEach (dice.sidesRolled twice) := by
  have once :
      Roll.faces <$> dice.roll = rollEach (List.replicate dice.count (dice.sides : Int)) := by
    rw [writable.faces_roll, rollFaces_eq_rollEach]
  cases twice with
  | false => exact once
  | true =>
      have both :
          dice.rollFor true = (do
            let first ← Roll.faces <$> dice.roll
            let second ← Roll.faces <$> dice.roll
            pure (first ++ second)) := by
        simp only [rollFor, if_true, bind_map_left]
      rw [both, once, ← rollEach_append]
      rfl

end Dice

/-! ## Faces of pools -/

theorem poolFaces_append (twice : Bool) (one other : List Dice) :
    poolFaces twice (one ++ other) = (do
      let faces ← poolFaces twice one
      let more ← poolFaces twice other
      pure (faces ++ more)) := by
  induction one with
  | nil =>
      rw [List.nil_append, poolFaces, pure_bind]
      exact (bind_pure _).symm
  | cons dice rest inductionHypothesis =>
      rw [List.cons_append, poolFaces, poolFaces, inductionHypothesis]
      simp only [bind_assoc, pure_bind, List.append_assoc]

theorem poolFaces_eq_rollEach
    {pool : List Dice} (writable : ∀ dice ∈ pool, dice.Writable) (twice : Bool) :
    poolFaces twice pool = rollEach (poolSides twice pool) := by
  induction pool with
  | nil => rfl
  | cons dice rest inductionHypothesis =>
      have first := (writable dice (by simp)).rollFor_eq twice
      have later := inductionHypothesis
        fun other member => writable other (List.mem_cons_of_mem dice member)
      rw [poolFaces, first, later, poolSides_cons, rollEach_append]

/-- Dice show their faces only if they can be written. -/
theorem writable_of_poolFaces
    {twice : Bool} {pool : List Dice} {tray : Tray} {faces : List Int}
    (done : (poolFaces twice pool tray).1 = .ok faces) :
    ∀ dice ∈ pool, dice.Writable := by
  induction pool generalizing tray faces with
  | nil => simp
  | cons dice rest inductionHypothesis =>
      rw [poolFaces] at done
      obtain ⟨shown, showsFirst, ran⟩ := exists_middle_of_bind done
      rw [ran] at done
      obtain ⟨more, showsRest, -⟩ := exists_middle_of_bind done
      obtain ⟨roll, rolled, -⟩ := exists_middle_of_bind showsFirst
      intro other member
      rcases List.mem_cons.1 member with rfl | member
      · exact Dice.writable_of_roll rolled
      · exact inductionHypothesis showsRest other member

/-! ## What faces come to -/

namespace Roll

/-- A roll without the notation of its dice. -/
def bare (roll : Roll) : Roll :=
  { roll with expression := "" }

/-- Two rolls taken together, without a notation. -/
def joined (one other : Roll) : Roll :=
  ⟨"", one.faces ++ other.faces, one.modifier + other.modifier, one.total + other.total⟩

/-- What the faces of a pool come to, without its notation. -/
def tally (pool : List Dice) (faces : List Int) : Roll :=
  ⟨"", faces, poolModifier pool, sumInts faces + poolModifier pool⟩

end Roll

theorem poolModifier_append (one other : List Dice) :
    poolModifier (one ++ other) = poolModifier one + poolModifier other := by
  rw [poolModifier, List.map_append, sumInts_append]
  rfl

theorem tally_append (one other : List Dice) (faces more : List Int) :
    Roll.tally (one ++ other) (faces ++ more) =
      (Roll.tally one faces).joined (Roll.tally other more) := by
  have total :
      sumInts faces + sumInts more + (poolModifier one + poolModifier other) =
        sumInts faces + poolModifier one + (sumInts more + poolModifier other) := by
    omega
  rw [Roll.tally, poolModifier_append, sumInts_append, total]
  rfl

theorem poolText_eq_ok {pool : List Dice} (writable : ∀ dice ∈ pool, dice.Writable) :
    ∃ text, poolText pool = .ok text := by
  obtain ⟨texts, written⟩ :=
    exists_mapM_eq_ok fun dice member => ⟨dice.spelled, (writable dice member).written_eq⟩
  exact ⟨_, map_eq_ok_iff.2 ⟨texts, written, rfl⟩⟩

/-- The notation apart, a roll is what the faces of its pool come to. -/
theorem bare_rollPool (pool : List Dice) (twice : Bool) :
    Roll.bare <$> rollPool pool twice = Roll.tally pool <$> poolFaces twice pool := by
  funext tray
  rw [map_run, map_run, rollPool, bind_run]
  cases ran : poolFaces twice pool tray with
  | mk result after =>
      cases result with
      | error fault => rfl
      | ok faces =>
          have writable := writable_of_poolFaces (congrArg Prod.fst ran)
          obtain ⟨text, isText⟩ := poolText_eq_ok writable
          simp only [bind_run, lift, isText]
          rfl

/-- Pools that are rolled together come to what they come to one after the other. -/
theorem bare_rollPool_append (one other : List Dice) :
    Roll.bare <$> rollPool (one ++ other) = (do
      let first ← rollPool one
      let second ← rollPool other
      pure (first.joined second)) := by
  have apart :
      (do
        let first ← rollPool one
        let second ← rollPool other
        pure (first.joined second)) = (do
      let first ← Roll.bare <$> rollPool one
      let second ← Roll.bare <$> rollPool other
      pure (first.joined second)) := by
    simp only [bind_map_left]
    rfl
  rw [apart, bare_rollPool, bare_rollPool, bare_rollPool, poolFaces_append]
  simp only [map_bind, bind_map_left, map_pure, tally_append]

/-! ## Dice taken a number of times -/

section Copies

variable {dice : Dice} {times : Nat}

theorem Dice.Writable.of_repeated
    {positive : 0 < times} (writable : (dice.repeated times positive).Writable) :
    dice.Writable := by
  have smaller {n : Int} (short : isWritable (n * times) = true) : isWritable n = true := by
    rw [isWritable_iff] at short ⊢
    rw [Int.natAbs_mul, Int.natAbs_natCast] at short
    exact (Nat.le_mul_of_pos_right n.natAbs positive).trans_lt short
  have count : isWritable (dice.count * times : Int) = true := by
    have cast : ((dice.count * times : Nat) : Int) = dice.count * times := Nat.cast_mul _ _
    rw [← cast]
    exact writable.count
  exact ⟨smaller count, writable.sides, smaller writable.modifier⟩

/-- So many copies of dice have the sides of the dice taken that many times: all are alike. -/
theorem poolSides_replicate (twice : Bool) (dice : Dice) (positive : 0 < times) :
    poolSides twice (List.replicate times dice) =
      poolSides twice [dice.repeated times positive] := by
  have copies (more : Nat) :
      poolSides twice (List.replicate more dice) =
        List.replicate ((if twice then 2 else 1) * dice.count * more) (dice.sides : Int) := by
    induction more with
    | zero => simp [poolSides]
    | succ more inductionHypothesis =>
        rw [List.replicate_succ', poolSides_append, inductionHypothesis]
        cases twice <;>
          simp [poolSides, Dice.sidesRolled, List.replicate_append_replicate, Nat.mul_succ]
        omega
  rw [copies]
  cases twice <;>
    simp [poolSides, Dice.sidesRolled, Dice.repeated, List.replicate_append_replicate]
  ring

theorem poolModifier_replicate (dice : Dice) (positive : 0 < times) :
    poolModifier (List.replicate times dice) = poolModifier [dice.repeated times positive] := by
  have copies (more : Nat) : poolModifier (List.replicate more dice) = dice.modifier * more := by
    induction more with
    | zero => simp [poolModifier]
    | succ more inductionHypothesis =>
        rw [List.replicate_succ', poolModifier_append, inductionHypothesis, Nat.cast_succ,
          Int.mul_add, Int.mul_one]
        simp [poolModifier]
  rw [copies]
  simp [poolModifier, Dice.repeated]

theorem poolFaces_replicate
    {positive : 0 < times} (writable : (dice.repeated times positive).Writable) (twice : Bool) :
    poolFaces twice (List.replicate times dice) =
      poolFaces twice [dice.repeated times positive] := by
  have copies : ∀ copy ∈ List.replicate times dice, copy.Writable := by
    intro copy member
    rw [List.eq_of_mem_replicate member]
    exact writable.of_repeated
  have scaled : ∀ other ∈ [dice.repeated times positive], other.Writable := by
    intro other member
    rw [List.mem_singleton.1 member]
    exact writable
  rw [poolFaces_eq_rollEach copies, poolFaces_eq_rollEach scaled,
    poolSides_replicate twice dice positive]

end Copies

/-- Dice taken a number of times, if they can still be written, roll in a pool as that many copies
of them: the same draws are taken, with the same faces, the same modifier and the same total. Two
pools that are rolled together show the faces of the one, then those of the other, and their
modifiers and totals add up. -/
theorem scaled_dice_roll_like_copies :
    (∀ (dice : Dice) (times : Nat), 0 < times →
      ∃ scaled, dice.scaled times = .ok scaled ∧
        (scaled.Writable → ∀ (pool : List Dice) (twice : Bool),
          Roll.bare <$> rollPool (pool ++ [scaled]) twice =
            Roll.bare <$> rollPool (pool ++ List.replicate times dice) twice)) ∧
    ∀ one other : List Dice,
      Roll.bare <$> rollPool (one ++ other) = (do
        let first ← rollPool one
        let second ← rollPool other
        pure (first.joined second)) := by
  constructor
  · intro dice times positive
    refine ⟨dice.repeated times positive, dice.scaled_eq_repeated positive, ?_⟩
    intro writable pool twice
    have sameTally :
        Roll.tally (pool ++ [dice.repeated times positive]) =
          Roll.tally (pool ++ List.replicate times dice) := by
      funext faces
      rw [Roll.tally, Roll.tally, poolModifier_append, poolModifier_append,
        poolModifier_replicate dice positive]
    rw [bare_rollPool, bare_rollPool, poolFaces_append, poolFaces_append,
      poolFaces_replicate writable, sameTally]
  · exact bare_rollPool_append

/-- Three times two dice, rolled twice with one of four sides. -/
theorem scaled_dice_roll_like_copies_three_times :
    let dice := Dice.of 2 6 (-1)
    let pool := [Dice.of 1 4]
    let tray : Tray := ⟨Source.ofList [.finite false 1 (-1), .finite false 3 (-2),
      .finite false 1 (-2), .finite false 0 0], 0⟩
    ∃ scaled, 0 < 3 ∧ dice.scaled 3 = .ok scaled ∧ scaled.Writable ∧
      Roll.bare <$> rollPool (pool ++ [scaled]) true =
        Roll.bare <$> rollPool (pool ++ [dice, dice, dice]) true ∧
      (rollPool (pool ++ [scaled]) true tray).1 =
        .ok ⟨"1d4 + 6d6-3", [3, 4, 2, 1, 1, 1, 1, 1, 1, 1, 1, 1, 1, 1], -3, 17⟩ := by
  intro dice pool tray
  obtain ⟨scaled, isScaled, alike⟩ := scaled_dice_roll_like_copies.1 dice 3 (by decide)
  have known : dice.scaled 3 = .ok (Dice.of 6 6 (-3)) := by decide +kernel
  have same : scaled = Dice.of 6 6 (-3) := Except.ok.inj (isScaled.symm.trans known)
  subst same
  have writable : (Dice.of 6 6 (-3)).Writable :=
    ⟨by decide +kernel, by decide +kernel, by decide +kernel⟩
  exact ⟨_, by decide, known, writable, alike writable pool true, by decide +kernel⟩

end Tabletop
