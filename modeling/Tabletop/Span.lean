import Tabletop.Datum.Checked
import Tabletop.Sorting

/-!
Stretches of a text, counted in characters, and the choice of stretches that do not overlap.
-/

namespace Tabletop

/-- A stretch of a text: where it starts and how long it is. -/
structure Span where
  start : Nat
  length : Nat
deriving DecidableEq, Repr

namespace Span

/-- The position after the last character. -/
def stop (span : Span) : Nat :=
  span.start + span.length

/-- Whether each of two stretches starts before the other ends. -/
def overlaps (one other : Span) : Bool :=
  one.start < other.stop && other.start < one.stop

/-- Reads a number that is not negative. -/
def readCount (source : Datum) : Checked Nat :=
  (source.toInt.ensure .atLeast fun value => 0 ≤ value).map Int.toNat

/-- Reads a stretch. -/
def ofDatum : Datum → Checked Span :=
  Datum.fields .record fun source =>
    Span.mk <$> source.field "start" readCount <*> source.field "length" readCount

/-- The stretch as a table. -/
def toDatum (span : Span) : Datum :=
  .table [("start", .whole span.start), ("length", .whole span.length)]

end Span

/-! ## Disjoint choices -/

variable {α : Type}

/-- Sorts items by where they start. -/
def sortByStart (spanOf : α → Span) (items : List α) : List α :=
  sortBy (fun one other => (spanOf one).start ≤ (spanOf other).start) items

/-- Goes on choosing after an item was kept: one that starts where the kept one ends or later is
kept too, and one that reaches beyond it and is longer takes its place. -/
def chooseAfter (spanOf : α → Span) : α → List α → List α
  | kept, [] => [kept]
  | kept, item :: rest =>
      if (spanOf kept).stop ≤ (spanOf item).start then kept :: chooseAfter spanOf item rest
      else if (spanOf kept).stop < (spanOf item).stop &&
          (spanOf kept).length < (spanOf item).length then
        chooseAfter spanOf item rest
      else chooseAfter spanOf kept rest

/-- Chooses items that do not overlap, longer ones before shorter ones, in the order of the
text. -/
def chooseDisjoint (spanOf : α → Span) (items : List α) : List α :=
  match sortByStart spanOf items with
  | [] => []
  | first :: rest => chooseAfter spanOf first rest

end Tabletop
