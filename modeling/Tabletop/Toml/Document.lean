import Tabletop.Toml.Lexeme

/-!
The tables of a TOML document while it is read, and the record of what may no longer be changed: a
table that was opened may not be opened again, and a value written in one piece may not be added to.
-/

namespace Tabletop.Toml

/-- Keys of a table with their values. -/
abbrev Entries := List (String × Datum)

/-- Puts another value under a key that is there. -/
def replace (key : String) (value : Datum) (entries : Entries) : Entries :=
  entries.map fun entry => if entry.1 = key then (key, value) else entry

/-- Changes the table at a path, creating tables on the way. A list on the way stands for its last
item, where lists may be passed through. -/
def changeAt (throughLists : Bool) (change : Entries → Option Entries) :
    List String → Entries → Option Entries
  | [], entries => change entries
  | key :: path, entries =>
      match entries.lookup key with
      | none =>
          (changeAt throughLists change path []).map fun inner => entries ++ [(key, .table inner)]
      | some (.table inner) =>
          (changeAt throughLists change path inner).map fun inner =>
            replace key (.table inner) entries
      | some (.list items) =>
          match throughLists, items.getLast? with
          | true, some (.table inner) =>
              (changeAt throughLists change path inner).map fun inner =>
                replace key (.list (items.dropLast ++ [.table inner])) entries
          | _, _ => none
      | some _ => none

/-- Adds an entry to a table, unless its key is there. -/
def addEntry (key : String) (value : Datum) (entries : Entries) : Option Entries :=
  if (entries.lookup key).isSome then none else some (entries ++ [(key, value)])

/-- Adds an empty table to the list under a key. -/
def addItem (key : String) (entries : Entries) : Option Entries :=
  match entries.lookup key with
  | none => some (entries ++ [(key, .list [.table []])])
  | some (.list items) => some (replace key (.list (items ++ [.table []])) entries)
  | some _ => none

/-- A document while it is read. -/
structure Document where
  entries : Entries := []
  /-- The path of the table that entries go to. -/
  header : List String := []
  /-- Paths of values written in one piece. -/
  frozen : List (List String) := []
  /-- Paths that may not be opened as tables. -/
  opened : List (List String) := []
  /-- Paths that join those when the next table is opened. -/
  pending : List (List String) := []

namespace Document

/-- Whether a path leads into a value written in one piece. -/
def isFrozen (document : Document) (path : List String) : Bool :=
  document.frozen.any (·.isPrefixOf path)

/-- Whether a path may not be opened as a table. -/
def isOpened (document : Document) (path : List String) : Bool :=
  document.opened.contains path

/-- Lets the paths that are pending join those that may not be opened. -/
def settle (document : Document) : Document :=
  { document with opened := document.pending ++ document.opened, pending := [] }

/-- The document with other entries, if there are any. -/
def withEntries (document : Document) : Option Entries → Except Fault Document
  | some entries => .ok { document with entries := entries }
  | none => bad

/-- Opens a table. -/
def openTable (document : Document) (path : List String) : Except Fault Document :=
  if document.isOpened path || document.isFrozen path then bad
  else
    { document with header := path, opened := path :: document.opened }.withEntries
      (changeAt true some path document.entries)

/-- Opens a new item of a list of tables. What was said of the item before it no longer holds. -/
def openItem (document : Document) (path : List String) : Except Fault Document :=
  if document.isFrozen path then bad
  else
    let forgotten := fun other : List String => !path.isPrefixOf other
    { document with
      header := path
      frozen := document.frozen.filter forgotten
      opened := path :: document.opened.filter forgotten }.withEntries
      (changeAt true (addItem (path.getLastD "")) path.dropLast document.entries)

/-- Whether a value is written in one piece with parts of its own. -/
def isComposite : Datum → Bool
  | .list _ => true
  | .table _ => true
  | _ => false

/-- The tables that a key of several parts names on its way. -/
def tablesOnTheWay (header key : List String) : List (List String) :=
  (List.range (key.length - 1)).map fun count => header ++ key.take (count + 1)

/-- Writes an entry into the table that is open. -/
def write (document : Document) (key : List String) (value : Datum) : Except Fault Document :=
  let onTheWay := tablesOnTheWay document.header key
  let parent := document.header ++ key.dropLast
  if onTheWay.any document.isOpened || document.isFrozen parent then bad
  else
    { document with
      pending := onTheWay ++ document.pending
      frozen :=
        if isComposite value then (document.header ++ key) :: document.frozen
        else document.frozen }.withEntries
      (changeAt true (addEntry (key.getLastD "") value) parent document.entries)

end Document

end Tabletop.Toml
