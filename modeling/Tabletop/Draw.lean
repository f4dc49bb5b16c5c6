import Tabletop.Draw.Twister
import Tabletop.Fault

/-!
Where dice take their luck from. A tray hands out draws one by one and counts them; rolling is
work that takes draws and may fail, and draws taken before a failure stay taken.
-/

namespace Tabletop

/-- A number that a die turns into a face; as a rule at least nought and below one. -/
abbrev Draw := Binary

/-- A supply of draws. -/
inductive Source where
  /-- A sequence, read from a position on. -/
  | sequence (draw : Nat → Draw) (position : Nat)
  | twister (state : Twister)

namespace Source

/-- The next draw and the supply after it. -/
def next : Source → Draw × Source
  | .sequence draw position => (draw position, .sequence draw (position + 1))
  | .twister state =>
      let (draw, state) := state.next
      (draw, .twister state)

/-- The draw one half. -/
def half : Draw := .finite false 1 (-1)

/-- The draws of a list, of which the last is repeated for ever; one half if there is none. -/
def ofList (draws : List Draw) : Source :=
  let table := draws.toArray
  .sequence (fun position => table.getD position (table.back?.getD half)) 0

/-- The draws that a seed gives. -/
def ofSeed (seed : Int) : Source :=
  .twister (Twister.ofSeed seed)

end Source

/-- A supply of draws and how many were taken from it. -/
structure Tray where
  source : Source
  taken : Nat := 0

/-- Work with draws. -/
abbrev Rolling := ExceptT Fault (StateM Tray)

namespace Rolling

/-- Takes one draw. -/
def draw : Rolling Draw := fun tray =>
  let (draw, source) := tray.source.next
  (.ok draw, ⟨source, tray.taken + 1⟩)

/-- Work without draws. -/
def lift {α : Type} (result : Except Fault α) : Rolling α := fun tray => (result, tray)

end Rolling

end Tabletop
