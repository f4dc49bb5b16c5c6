import Tabletop.Binary.Shortest
import Tabletop.NameSet
import Tabletop.Numeral
import Tabletop.Text.Quoted

/-!
Values as files and callers hand them in, before a record is read from them.
-/

namespace Tabletop

/-- A value without a record type. A table keeps its entries in the order in which they were
written, no two under one key. -/
inductive Datum where
  | null
  | flag (value : Bool)
  | whole (value : Int)
  | real (value : Binary)
  | text (value : String)
  /-- A date or a time of day, of which only its being one matters. -/
  | moment
  | list (items : List Datum)
  | table (entries : List (String × Datum))

namespace Datum

/-- The entry of a table under a key. -/
def get? (key : String) : Datum → Option Datum
  | .table entries => entries.lookup key
  | _ => none

/-- A value that may be missing. -/
def ofOption {α : Type} (write : α → Datum) : Option α → Datum
  | some value => write value
  | none => .null

/-- The names of a set, in their order. -/
def ofNames (names : NameSet) : Datum :=
  .list (names.toList.map .text)

/-- Whether a value counts as empty: nothing, false, zero, or a text, list or table without
contents. -/
def isVoid : Datum → Bool
  | .null => true
  | .flag value => !value
  | .whole value => value == 0
  | .real value => value.isZero
  | .text value => value.isEmpty
  | .moment => false
  | .list items => items.isEmpty
  | .table entries => entries.isEmpty

/-- A text with quotes around it. -/
def quoteText (text : String) : String :=
  String.ofList (Text.quoted text.toList)

mutual

/-- A value as error messages show it, unless it holds an integer too long to be written. -/
def shown? : Datum → Option String
  | .null => some "None"
  | .flag true => some "True"
  | .flag false => some "False"
  | .whole value => if Numeral.isWritable value then some (toString value) else none
  | .real value => some value.shown
  | .text value => some (quoteText value)
  | .moment => some ""
  | .list items => (shownItems? items).map fun shown => "[" ++ ", ".intercalate shown ++ "]"
  | .table entries =>
      (shownEntries? entries).map fun shown => "\x7b" ++ ", ".intercalate shown ++ "\x7d"

/-- The items of a list as error messages show them. -/
def shownItems? : List Datum → Option (List String)
  | [] => some []
  | item :: rest => do
      let shown ← item.shown?
      let shownRest ← shownItems? rest
      some (shown :: shownRest)

/-- The entries of a table as error messages show them. -/
def shownEntries? : List (String × Datum) → Option (List String)
  | [] => some []
  | (key, value) :: rest => do
      let shown ← value.shown?
      let shownRest ← shownEntries? rest
      some ((quoteText key ++ ": " ++ shown) :: shownRest)

end

end Datum

end Tabletop
