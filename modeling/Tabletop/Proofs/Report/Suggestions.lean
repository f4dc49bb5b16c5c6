import Tabletop.Proofs.Console.Bracket
import Tabletop.Proofs.Console.Table
import Tabletop.Proofs.Prompt.Description
import Tabletop.Proofs.Report.Line

/-!
# The table of suggestions

A suggestion takes a row, with its description in the last column. The other cells hold no bracket,
so that the table is printed unless the markup of a description closes a tag that is not open.
-/

namespace Tabletop

namespace Report

open Console Numeral Text

variable {suggestion : Suggestion} {found : List Suggestion}

/-! ## Rows -/

/-- The number that the row of a suggestion gives as its threshold. -/
def thresholdText (suggestion : Suggestion) : String :=
  ((suggestion.difficulty.or suggestion.armorClass).map toString).getD "-"

/-- The cells of a suggestion in front of its description. -/
def frontCells (suggestion : Suggestion) : List String :=
  [toString suggestion.span.start, suggestion.kind.name, titled suggestion.ability,
    titled suggestion.skill, thresholdText suggestion]

theorem suggestionRow_eq (reportable : suggestion.Reportable) :
    suggestionRow suggestion = .ok (frontCells suggestion ++ [suggestion.description]) := by
  rw [suggestionRow, frontCells, thresholdText]
  cases given : suggestion.difficulty.or suggestion.armorClass with
  | none => rfl
  | some number =>
      have short : isWritable number = true := by
        rcases Option.or_eq_some_iff.1 given with isDifficulty | ⟨-, isArmorClass⟩
        · exact reportable.difficulty number isDifficulty
        · exact reportable.armorClass number isArmorClass
      have written : writeInt number = .ok (toString number) := if_pos short
      simp only [written]
      rfl

theorem unopened_titled {name : Option String} (unopened : ∀ text ∈ name, '[' ∉ text.toList) :
    '[' ∉ (titled name).toList := by
  apply unopened_title
  cases isName : nonEmpty? name with
  | none => decide
  | some text => exact unopened text (Option.filter_eq_some_iff.1 isName).1

theorem unopened_toString (n : Int) : '[' ∉ (toString n).toList := by
  intro member
  exact (plain_of_isNumeric (isNumeric_toString n '[' member)).1 rfl

theorem unopened_frontCells (reportable : suggestion.Reportable) :
    ∀ cell ∈ frontCells suggestion, '[' ∉ cell.toList := by
  have threshold : '[' ∉ (thresholdText suggestion).toList := by
    rw [thresholdText]
    cases suggestion.difficulty.or suggestion.armorClass with
    | none => decide
    | some number => exact unopened_toString number
  have kind : '[' ∉ suggestion.kind.name.toList := by
    cases suggestion.kind <;> decide
  simp only [frontCells, List.forall_mem_cons, List.not_mem_nil, false_implies, implies_true,
    and_true]
  exact ⟨unopened_toString suggestion.span.start, kind, unopened_titled reportable.ability,
    unopened_titled reportable.skill, threshold⟩

/-- What is shown in front of a description. -/
def shownFront (suggestion : Suggestion) : List (List Char) :=
  (frontCells suggestion).map fun cell => visible cell.toList

theorem shown_frontCells (reportable : suggestion.Reportable) :
    (frontCells suggestion).mapM shownMarkup = .ok (shownFront suggestion) :=
  mapM_shownMarkup (unopened_frontCells reportable)

/-- What is shown of the row of a suggestion. -/
def shownRow (suggestion : Suggestion) : Except Fault (List (List Char)) :=
  (shownFront suggestion ++ [·]) <$> shownMarkup suggestion.description

theorem shown_suggestionRow (reportable : suggestion.Reportable) :
    (frontCells suggestion ++ [suggestion.description]).mapM shownMarkup =
      shownRow suggestion := by
  rw [shownRow, List.mapM_append, shown_frontCells reportable, List.mapM_cons]
  cases shownMarkup suggestion.description with
  | error fault => rfl
  | ok shown => rfl

/-! ## The table -/

/-- The columns in front of the descriptions. -/
def frontColumns : List Column :=
  [{ header := "At", alignRight := true }, { header := "Kind" }, { header := "Ability" },
    { header := "Skill" }, { header := "DC/AC", alignRight := true }]

/-- The column of the descriptions. -/
def textColumn : Column where
  header := "Text"

/-- The lines of the table of suggestions of which the markup shows these rows. -/
def layout (rows : List (List (List Char))) : List (List Char) :=
  let columns := frontColumns ++ [textColumn]
  let table : Table := { title := "Suggested Rolls", rule := '━', columns := columns, rows := [] }
  table.laidOut "Suggested Rolls".toList (columns.map fun column => visible column.header.toList)
    rows

theorem suggestions_eq
    (some : found ≠ []) (reportable : ∀ suggestion ∈ found, suggestion.Reportable) :
    Report.suggestions found = layout <$> found.mapM shownRow := by
  let rowOf (suggestion : Suggestion) := frontCells suggestion ++ [suggestion.description]
  let columns := frontColumns ++ [textColumn]
  let table : Table :=
    { title := "Suggested Rolls", rule := '━', columns := columns, rows := found.map rowOf }
  have isTable : suggestionTable found = .ok table := by
    have isRows : found.mapM suggestionRow = .ok (found.map rowOf) :=
      mapM_eq_ok_map fun suggestion member => suggestionRow_eq (reportable suggestion member)
    rw [suggestionTable, isRows]
    rfl
  have headers : ∀ column ∈ frontColumns ++ [textColumn], '[' ∉ column.header.toList := by
    decide
  have isHeader : (columns.mapM fun column => shownMarkup column.header) =
      .ok (columns.map fun column => visible column.header.toList) :=
    mapM_shownMarkup headers
  have title : '[' ∉ "Suggested Rolls".toList := by decide
  have isTitle : shownMarkup "Suggested Rolls" = .ok "Suggested Rolls".toList :=
    shownMarkup_of_unmarked (unmarked_of_no_bracket title)
  have isRows : (found.map rowOf).mapM (·.mapM shownMarkup) = List.map id <$> found.mapM shownRow :=
    mapM_map_eq_map fun suggestion member =>
      (shown_suggestionRow (reportable suggestion member)).trans (id_map _).symm
  rw [List.map_id_fun, id_map] at isRows
  have notEmpty : ¬found.isEmpty = true := by
    rwa [List.isEmpty_iff]
  rw [Report.suggestions, if_neg notEmpty, isTable]
  change table.lines = _
  rw [Table.lines_eq isHeader isTitle]
  exact congrArg (layout <$> ·) isRows

/-! ## The column of the descriptions -/

end Report

end Tabletop
