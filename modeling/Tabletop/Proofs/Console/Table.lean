import Tabletop.Console.Table
import Tabletop.Proofs.Console.Lines
import Tabletop.Proofs.Console.Markup
import Tabletop.Proofs.Results

/-!
# Tables

A table is laid out from what the markup shows of its title, its headers and its cells. The last
column of a row stands behind the other columns and a space, and holds every line of its cell.
-/

namespace Tabletop.Console

open Text

variable {columns : List Column} {column : Column} {widths : List Nat} {lastWidth height : Nat}
variable {cells : List (List (List Char))} {lines : List (List Char)}

/-! ## Layout -/

/-- The widths of so many columns with these rows. -/
def columnWidths (count : Nat) (rows : List (List (List Char))) : List Nat :=
  let limit := consoleWidth - (count + 1)
  fitWidths limit ((List.range count).map fun position =>
    wantedWidth limit (rows.filterMap (·[position]?)))

/-- The lines over the rows of a table: its title, its headers and a rule. -/
def Table.head
    (table : Table) (title : List Char) (header : List (List Char)) (widths : List Nat) :
    List (List Char) :=
  let total := sumNats widths + table.columns.length + 1
  [centered total title, []] ++ rowLines table.columns widths header ++
    [' ' :: List.replicate (total - 2) table.rule]

/-- The lines of a table of which the markup shows these parts. -/
def Table.laidOut
    (table : Table) (title : List Char) (header : List (List Char))
    (rows : List (List (List Char))) : List (List Char) :=
  let widths := columnWidths table.columns.length (header :: rows)
  table.head title header widths ++ (rows.map (rowLines table.columns widths)).flatten ++ [[]]

theorem Table.lines_eq
    {table : Table} {title : List Char} {header : List (List Char)}
    (isHeader : (table.columns.mapM fun column => shownMarkup column.header) = .ok header)
    (isTitle : shownMarkup table.title = .ok title) :
    table.lines = table.laidOut title header <$> table.rows.mapM (·.mapM shownMarkup) := by
  rw [Table.lines, isHeader]
  cases table.rows.mapM (·.mapM shownMarkup) with
  | error fault => rfl
  | ok rows =>
      rw [isTitle, map_ok, Table.laidOut, Table.head, ← List.flatMap_def]
      rfl

theorem mapM_shownMarkup
    {α : Type} {items : List α} {text : α → String}
    (unopened : ∀ item ∈ items, '[' ∉ (text item).toList) :
    (items.mapM fun item => shownMarkup (text item)) =
      .ok (items.map fun item => visible (text item).toList) :=
  mapM_eq_ok_map fun item member =>
    shownMarkup_of_unmarked (unmarked_of_no_bracket (unopened item member))

/-! ## The last column -/

end Tabletop.Console
