import Tabletop.Casting
import Tabletop.Proofs.Rolling

/-!
# Draws that are accounted for

A tray hands out its draws one after another. Dice take one draw for each face that they show, in
the order of the faces, and nothing else takes any.
-/

namespace Tabletop

/-! ## Draws and faces -/

/-- A tray hands out some draws, one after another, and is left as another tray. -/
inductive Tray.HandsOut : Tray → List Draw → Tray → Prop
  | nothing (tray : Tray) : HandsOut tray [] tray
  | next {tray after : Tray} {draws : List Draw} :
      HandsOut ⟨tray.source.next.2, tray.taken + 1⟩ draws after →
      HandsOut tray (tray.source.next.1 :: draws) after

theorem Tray.HandsOut.append
    {tray middle after : Tray} {draws more : List Draw}
    (first : tray.HandsOut draws middle) (rest : middle.HandsOut more after) :
    tray.HandsOut (draws ++ more) after := by
  induction first with
  | nothing tray => exact rest
  | next _ inductionHypothesis => exact HandsOut.next (inductionHypothesis rest)

/-- Draws make faces on dice with these sides, one draw on each die. -/
inductive Faces : List Draw → List Int → List Int → Prop
  | nothing : Faces [] [] []
  | next {draw : Draw} {draws : List Draw} {sides face : Int} {others faces : List Int} :
      draw.face sides = .ok face → Faces draws others faces →
      Faces (draw :: draws) (sides :: others) (face :: faces)

theorem Faces.append
    {draws more : List Draw} {sides others faces furtherFaces : List Int}
    (first : Faces draws sides faces) (rest : Faces more others furtherFaces) :
    Faces (draws ++ more) (sides ++ others) (faces ++ furtherFaces) := by
  induction first with
  | nothing => exact rest
  | next isFace _ inductionHypothesis => exact Faces.next isFace inductionHypothesis

/-! ## Work with draws -/

namespace Rolling

variable {α β : Type}

/-- Whenever some work has a value, the draws that it took are accounted for. -/
def Accounts (work : Rolling α) (Account : α → List Draw → Prop) : Prop :=
  ∀ tray value, (work tray).1 = .ok value →
    ∃ draws, tray.HandsOut draws (work tray).2 ∧ Account value draws

theorem accounts_pure
    {given : α} {Account : α → List Draw → Prop} (holds : Account given []) :
    Accounts (pure given) Account := by
  intro tray value done
  cases done
  exact ⟨[], Tray.HandsOut.nothing tray, holds⟩

theorem accounts_lift
    {result : Except Fault α} {Account : α → List Draw → Prop}
    (holds : ∀ value, result = .ok value → Account value []) :
    Accounts (lift result) Account :=
  fun tray value done => ⟨[], Tray.HandsOut.nothing tray, holds value done⟩

theorem accounts_draw : Accounts draw fun value draws => draws = [value] := by
  intro tray value done
  cases done
  exact ⟨_, Tray.HandsOut.next (Tray.HandsOut.nothing _), rfl⟩

theorem Accounts.bind
    {work : Rolling α} {next : α → Rolling β}
    {Middle : α → List Draw → Prop} {Account : β → List Draw → Prop}
    (first : Accounts work Middle)
    (rest : ∀ value draws, Middle value draws →
      Accounts (next value) fun result more => Account result (draws ++ more)) :
    Accounts (work >>= next) Account := by
  intro tray value done
  rw [bind_run] at done ⊢
  cases ran : work tray with
  | mk result after =>
      rw [ran] at done
      cases result with
      | error fault => cases done
      | ok middle =>
          obtain ⟨draws, taken, holds⟩ := first tray middle (by rw [ran])
          obtain ⟨more, moreTaken, accounted⟩ := rest middle draws holds after value done
          rw [ran] at taken
          exact ⟨draws ++ more, taken.append moreTaken, accounted⟩

theorem Accounts.map
    {work : Rolling α} {f : α → β} {Account : β → List Draw → Prop}
    (holds : Accounts work fun value draws => Account (f value) draws) :
    Accounts (f <$> work) Account := by
  rw [map_eq_bind]
  refine holds.bind fun value draws accounted => accounts_pure ?_
  rwa [List.append_nil]

/-- Work that takes no draws may come first. -/
theorem accounts_bind_lift
    {result : Except Fault α} {next : α → Rolling β} {Account : β → List Draw → Prop}
    (rest : ∀ value, result = .ok value → Accounts (next value) Account) :
    Accounts (lift result >>= next) Account := by
  have first : Accounts (lift result) fun value draws => result = .ok value ∧ draws = [] :=
    accounts_lift fun value done => ⟨done, rfl⟩
  refine first.bind ?_
  rintro value _ ⟨done, rfl⟩
  exact rest value done

end Rolling

/-! ## Dice -/

/-- The sides of the dice of an expression, one after another, all of them a second time if `twice`
says so. -/
def Dice.sidesRolled (twice : Bool) (dice : Dice) : List Int :=
  let once := List.replicate dice.count (dice.sides : Int)
  if twice then once ++ once else once

/-- The sides of the dice of a pool, expression by expression. -/
def poolSides (twice : Bool) (pool : List Dice) : List Int :=
  pool.flatMap (Dice.sidesRolled twice)

theorem accounts_rollDie (sides : Int) :
    (rollDie sides).Accounts fun face draws => Faces draws [sides] [face] := by
  refine Rolling.accounts_draw.bind ?_
  rintro draw _ rfl
  exact Rolling.accounts_lift fun face isFace => Faces.next isFace Faces.nothing

theorem accounts_rollFaces (sides : Int) (count : Nat) :
    (rollFaces sides count).Accounts fun faces draws =>
      Faces draws (List.replicate count sides) faces := by
  induction count with
  | zero => exact Rolling.accounts_pure Faces.nothing
  | succ count inductionHypothesis =>
      refine (accounts_rollDie sides).bind fun face draws isFirst => ?_
      refine inductionHypothesis.bind fun faces more areOthers => Rolling.accounts_pure ?_
      rw [List.append_nil]
      exact isFirst.append areOthers

theorem Dice.accounts_roll (dice : Dice) :
    dice.roll.Accounts fun roll draws =>
      Faces draws (List.replicate dice.count (dice.sides : Int)) roll.faces := by
  refine (accounts_rollFaces dice.sides dice.count).bind fun faces draws rolled => ?_
  refine Rolling.accounts_bind_lift fun text written => Rolling.accounts_pure ?_
  rwa [List.append_nil]

theorem Dice.accounts_rollFor (twice : Bool) (dice : Dice) :
    (dice.rollFor twice).Accounts fun faces draws =>
      Faces draws (dice.sidesRolled twice) faces := by
  refine dice.accounts_roll.bind fun first draws rolled => ?_
  cases twice with
  | false =>
      refine Rolling.accounts_pure ?_
      rwa [List.append_nil]
  | true =>
      refine dice.accounts_roll.bind fun second more again => Rolling.accounts_pure ?_
      rw [List.append_nil]
      exact rolled.append again

theorem accounts_poolFaces (twice : Bool) (pool : List Dice) :
    (poolFaces twice pool).Accounts fun faces draws =>
      Faces draws (poolSides twice pool) faces := by
  induction pool with
  | nil => exact Rolling.accounts_pure Faces.nothing
  | cons dice rest inductionHypothesis =>
      refine (dice.accounts_rollFor twice).bind fun faces draws rolled => ?_
      refine inductionHypothesis.bind fun others more restRolled => Rolling.accounts_pure ?_
      rw [List.append_nil]
      exact rolled.append restRolled

theorem accounts_rollPool (pool : List Dice) (twice : Bool) :
    (rollPool pool twice).Accounts fun roll draws =>
      Faces draws (poolSides twice pool) roll.faces := by
  refine (accounts_poolFaces twice pool).bind fun faces draws rolled => ?_
  refine Rolling.accounts_bind_lift fun text written => Rolling.accounts_pure ?_
  rwa [List.append_nil]

theorem accounts_rollDamage (pool : List Dice) (bonus : Int) (critical : Bool) :
    (rollDamage pool bonus critical).Accounts fun roll draws =>
      Faces draws (poolSides critical pool) roll.faces :=
  (accounts_rollPool pool critical).map

theorem accounts_rollHealing (pool : List Dice) (bonus modifier : Int) :
    (rollHealing pool bonus modifier).Accounts fun roll draws =>
      Faces draws (poolSides false pool) roll.faces :=
  (accounts_rollPool pool false).map

/-- A test takes one draw, which makes a face of a die of twenty sides. -/
theorem Test.accounts_roll (bonus : Int) (threshold : Option Int) :
    (Test.roll bonus threshold).Accounts fun test draws => Faces draws [20] [test.face] := by
  have single :
      (rollD20 bonus).Accounts fun roll draws => Faces draws [20] [roll.faces.headD 0] := by
    refine d20.accounts_roll.bind fun roll draws rolled => Rolling.accounts_pure ?_
    rw [List.append_nil]
    -- One die shows one face.
    have sides : List.replicate d20.count (d20.sides : Int) = [20] := rfl
    rw [sides] at rolled
    generalize roll.faces = faces at rolled ⊢
    cases rolled with
    | next isFace others =>
        cases others
        exact Faces.next isFace Faces.nothing
  refine single.bind fun roll draws rolled => Rolling.accounts_pure ?_
  rwa [List.append_nil]

end Tabletop
