import Tabletop.Dice.Notation
import Tabletop.Draw
import Tabletop.Sum

/-!
Rolling dice. One draw makes one face; the dice of an expression are rolled one after another, and
the modifier is added once however often the dice are rolled.
-/

namespace Tabletop

/-- What a roll shows: the faces in the order in which they fell, and their sum with the modifier
unless a rule of the game sets the total. -/
structure Roll where
  expression : String
  faces : List Int := []
  modifier : Int := 0
  total : Int := 0
deriving DecidableEq, Repr

/-! ## Single dice -/

/-- The face that a draw gives on a die: the draw times the sides, both and the product rounded to
53 significant bits, without its fraction, plus one. -/
def Draw.face (draw : Draw) (sides : Int) : Except Fault Int :=
  match Binary.ofInt sides with
  | .finite negative units exponent =>
      match draw.mul (.finite negative units exponent) with
      | .infinite _ => .error .infiniteNumber
      | .undefined => .error .undefinedNumber
      | product => .ok (product.truncate?.getD 0 + 1)
  | _ => .error .tooManySides

/-- Rolls one die. -/
def rollDie (sides : Int) : Rolling Int := do
  let draw ← Rolling.draw
  Rolling.lift (draw.face sides)

/-- Rolls a number of dice of one kind. -/
def rollFaces (sides : Int) : Nat → Rolling (List Int)
  | 0 => pure []
  | count + 1 => do
      let face ← rollDie sides
      let faces ← rollFaces sides count
      pure (face :: faces)

/-! ## Expressions -/

/-- Rolls the dice of an expression. -/
def Dice.roll (dice : Dice) : Rolling Roll := do
  let faces ← rollFaces dice.sides dice.count
  let expression ← Rolling.lift dice.written
  pure ⟨expression, faces, dice.modifier, sumInts faces + dice.modifier⟩

/-- Rolls dice notation; the roll keeps the text as it was given. -/
def rollText (text : String) : Rolling Roll := do
  let dice ← Rolling.lift (Dice.parse text)
  let roll ← dice.roll
  pure { roll with expression := text }

/-- One die of twenty sides. -/
def d20 : Dice := Dice.of 1 20

/-- Rolls a die of twenty sides with a modifier. -/
def rollD20 (modifier : Int) : Rolling Roll := do
  let roll ← d20.roll
  pure { roll with modifier := modifier, total := roll.faces.headD 0 + modifier }

/-! ## Pools -/

/-- The faces of one expression of a pool, whose dice are rolled a second time if `twice` says
so. -/
def Dice.rollFor (twice : Bool) (dice : Dice) : Rolling (List Int) := do
  let first ← dice.roll
  if twice then
    let second ← dice.roll
    pure (first.faces ++ second.faces)
  else pure first.faces

/-- The faces of a pool in its order. -/
def poolFaces (twice : Bool) : List Dice → Rolling (List Int)
  | [] => pure []
  | dice :: rest => do
      let faces ← dice.rollFor twice
      let more ← poolFaces twice rest
      pure (faces ++ more)

/-- The modifier of a pool: each expression counts once. -/
def poolModifier (pool : List Dice) : Int :=
  sumInts (pool.map Dice.modifier)

/-- The notation of a pool. -/
def poolText (pool : List Dice) : Except Fault String :=
  (" + ".intercalate ·) <$> pool.mapM Dice.written

/-- Rolls a pool of expressions together. -/
def rollPool (pool : List Dice) (twice : Bool := false) : Rolling Roll := do
  let faces ← poolFaces twice pool
  let expression ← Rolling.lift (poolText pool)
  pure ⟨expression, faces, poolModifier pool, sumInts faces + poolModifier pool⟩

end Tabletop
