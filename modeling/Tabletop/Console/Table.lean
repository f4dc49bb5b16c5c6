import Tabletop.Console.Lines
import Tabletop.Console.Markup

/-!
Tables on the console. A column is as wide as its widest cell, with a space on both sides; if all
columns together are too wide, the widest ones are narrowed and their cells wrapped.
-/

namespace Tabletop.Console

open Tabletop.Text

/-- The cells in a line of the console. -/
def consoleWidth : Nat := 200

/-- A column of a table. -/
structure Column where
  header : String
  /-- Whether its cells end at the right edge. -/
  alignRight : Bool := false
deriving DecidableEq, Repr

/-- A table with a title over it, whose cells may hold markup. -/
structure Table where
  title : String
  /-- The character of the rule under the header. -/
  rule : Char
  columns : List Column
  rows : List (List String)
deriving DecidableEq, Repr

/-! ## Widths -/

/-- The greatest of some widths. -/
def greatest (widths : List Nat) : Nat :=
  widths.foldl max 0

/-- Whether a character ends a line when a text is measured. -/
def endsLine (c : Char) : Bool :=
  c = '\n' || (0x1c ≤ c.toNat && c.toNat ≤ 0x1e) || c = '\u0085' || c = '\u2028' || c = '\u2029'

/-- The cells of the widest line of a text, where tabs take none. -/
def measuredWidth (text : List Char) : Nat :=
  greatest ((text.splitOnP endsLine).map width)

/-- The width that a column with these cells asks for. -/
def wantedWidth (limit : Nat) (cells : List (List Char)) : Nat :=
  min limit (greatest (cells.map measuredWidth) + 2)

/-- Takes an excess away from the columns of a width, from each its share of what is left but no
more than a bound, given how many columns are still to come. -/
def shareExcess (chosen bound : Nat) : Nat → Nat → List Nat → List Nat
  | _, _, [] => []
  | excess, parts, width :: rest =>
      if width = chosen then
        let share := min bound (Binary.roundQuotient excess parts)
        (width - share) :: shareExcess chosen bound (excess - share) (parts - 1) rest
      else width :: shareExcess chosen bound excess parts rest

/-- Narrows the widest columns down to the next ones, again and again, until all columns fit. Each
round takes a cell away at least, so that so many rounds as there are cells will do. -/
def narrowWidest (limit : Nat) : Nat → List Nat → List Nat
  | 0, widths => widths
  | rounds + 1, widths =>
      if sumNats widths ≤ limit then widths
      else
        let widest := greatest widths
        let next := greatest (widths.filter (· != widest))
        let excess := sumNats widths - limit
        narrowWidest limit rounds
          (shareExcess widest (min excess (widest - next)) excess (widths.count widest) widths)

/-- Column widths that fit a limit. -/
def fitWidths (limit : Nat) (widths : List Nat) : List Nat :=
  narrowWidest limit (sumNats widths) widths

/-! ## Rows -/

/-- The lines of a cell in a column of a width, each of just that width. -/
def cellLines (column : Column) (columnWidth : Nat) (cell : List Char) : List (List Char) :=
  let inner := columnWidth - 2
  (wrapText .ellipsis inner cell).map fun line =>
    let aligned := if column.alignRight then padStart inner (trimEnd line) else padEnd inner line
    ' ' :: aligned ++ [' ']

/-- The line of a row at a height, from the lines of its cells. -/
def rowLine (widths : List Nat) (cells : List (List (List Char))) (height : Nat) : List Char :=
  let parts := List.zipWith (fun columnWidth lines =>
    (lines[height]?).getD (List.replicate columnWidth ' ')) widths cells
  ' ' :: [' '].intercalate parts

/-- The lines of a row. -/
def rowLines (columns : List Column) (widths : List Nat) (row : List (List Char)) :
    List (List Char) :=
  let cells := (columns.zip widths).zipWith (fun place cell =>
    cellLines place.1 place.2 cell) row
  (List.range (greatest (cells.map List.length))).map (rowLine widths cells)

/-! ## Tables -/

/-- A text in the middle of a width, the odd cell on its right. -/
def centered (limit : Nat) (text : List Char) : List Char :=
  List.replicate ((limit - width text) / 2) ' ' ++ text

/-- The lines of a table. -/
def Table.lines (table : Table) : Except Fault (List (List Char)) := do
  let header ← table.columns.mapM fun column => shownMarkup column.header
  let rows ← table.rows.mapM (·.mapM shownMarkup)
  let title ← shownMarkup table.title
  let limit := consoleWidth - (table.columns.length + 1)
  let columnOf (position : Nat) := (header :: rows).filterMap (·[position]?)
  let wanted := (List.range table.columns.length).map fun position =>
    wantedWidth limit (columnOf position)
  let widths := fitWidths limit wanted
  let total := sumNats widths + table.columns.length + 1
  pure ([centered total title, []] ++
    rowLines table.columns widths header ++
    [' ' :: List.replicate (total - 2) table.rule] ++
    rows.flatMap (rowLines table.columns widths) ++ [[]])

end Tabletop.Console
