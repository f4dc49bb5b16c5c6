import Tabletop.Toml.Document
import Tabletop.Toml.Number

/-!
TOML documents. A document is read statement by statement: an entry, the head of a table or the head
of an item in a list of tables, each on lines of its own.
-/

namespace Tabletop.Toml

/-! ## Values -/

/-- A value that has no parts. -/
def simpleValue (text : List Char) : Except Fault (Split Datum) :=
  match anyString? text with
  | some reading => reading.map fun (value, rest) => (.text value, rest)
  | none =>
      match text with
      | 't' :: 'r' :: 'u' :: 'e' :: rest => .ok (.flag true, rest)
      | 'f' :: 'a' :: 'l' :: 's' :: 'e' :: rest => .ok (.flag false, rest)
      | _ =>
          match date? text with
          | some reading => reading.map fun rest => (.moment, rest)
          | none =>
              match time? text, basedNumber? text, decimal? text, special? text with
              | some rest, _, _, _ => .ok (.moment, rest)
              | none, some (value, rest), _, _ => .ok (.whole value, rest)
              | none, none, some reading, _ => reading
              | none, none, none, some found => .ok found
              | none, none, none, none => bad

mutual

/-- A value. Each step takes a character at least, so that so many steps as there are characters
will do. -/
def value : Nat → List Char → Except Fault (Split Datum)
  | 0, _ => bad
  | steps + 1, '[' :: rest => do
      let rest ← skipBetween rest.length rest
      let (items, rest) ← listItems steps rest
      .ok (.list items, rest)
  | steps + 1, '\x7b' :: rest =>
      match skipInline rest with
      | '\x7d' :: rest => .ok (.table [], rest)
      | rest => do
          let (entries, rest) ← inlineEntries steps [] [] rest
          .ok (.table entries, rest)
  | _ + 1, text => simpleValue text

/-- The rest of a list, where an item or its end may come. -/
def listItems : Nat → List Char → Except Fault (Split (List Datum))
  | 0, _ => bad
  | _ + 1, ']' :: rest => .ok ([], rest)
  | steps + 1, text => do
      let (item, rest) ← value steps text
      match ← skipBetween rest.length rest with
      | ']' :: rest => .ok ([item], rest)
      | ',' :: rest => do
          let rest ← skipBetween rest.length rest
          let (items, rest) ← listItems steps rest
          .ok (item :: items, rest)
      | _ => bad

/-- The rest of a table in one line, where an entry must come, given the entries before it and the
paths of those that may not be added to. -/
def inlineEntries : Nat → Entries → List (List String) → List Char → Except Fault (Split Entries)
  | 0, _, _, _ => bad
  | steps + 1, entries, frozen, text => do
      let (path, rest) ← key text.length text
      let '=' :: rest := rest | bad
      let (found, rest) ← value steps (skipInline rest)
      if frozen.any (·.isPrefixOf path) then bad
      else match changeAt false (addEntry (path.getLastD "") found) path.dropLast entries with
        | none => bad
        | some entries =>
            match skipInline rest with
            | '\x7d' :: rest => .ok (entries, rest)
            | ',' :: rest =>
                inlineEntries steps entries
                  (if Document.isComposite found then path :: frozen else frozen)
                  (skipInline rest)
            | _ => bad

end

/-! ## Statements -/

/-- Whether a character may open a key. -/
def opensKey (c : Char) : Bool :=
  isBare c || c == '"' || c == '\''

/-- One statement, if the line holds one. -/
def statement (document : Document) : List Char → Except Fault (Document × List Char)
  | '[' :: '[' :: rest => do
      let (path, rest) ← key rest.length (skipInline rest)
      let document ← document.settle.openItem path
      match rest with
      | ']' :: ']' :: rest => .ok (document, skipInline rest)
      | _ => bad
  | '[' :: rest => do
      let (path, rest) ← key rest.length (skipInline rest)
      let document ← document.settle.openTable path
      match rest with
      | ']' :: rest => .ok (document, skipInline rest)
      | _ => bad
  | '#' :: rest => .ok (document, '#' :: rest)
  | c :: rest =>
      if opensKey c then do
        let (path, rest) ← key (rest.length + 1) (c :: rest)
        let '=' :: rest := rest | bad
        let (found, rest) ← value (rest.length + 1) (skipInline rest)
        let document ← document.write path found
        .ok (document, skipInline rest)
      else bad
  | [] => .ok (document, [])

/-- The statements of a text; each step takes a line, so that so many steps as there are characters
will do. -/
def statements : Nat → Document → List Char → Except Fault Document
  | 0, document, _ => .ok document
  | steps + 1, document, text => do
      match skipInline text with
      | [] => .ok document
      | '\n' :: rest => statements steps document rest
      | text => do
          let (document, rest) ← statement document text
          match ← skipComment rest with
          | [] => .ok document
          | '\n' :: rest => statements steps document rest
          | _ => bad

/-- Line breaks of two characters as one. -/
def joinLineBreaks : List Char → List Char
  | '\r' :: '\n' :: rest => '\n' :: joinLineBreaks rest
  | c :: rest => c :: joinLineBreaks rest
  | [] => []

/-- The table that a TOML document describes. -/
def parse (text : String) : Except Fault Datum :=
  let text := joinLineBreaks text.toList
  (statements (text.length + 1) {} text).map fun document => .table document.entries

end Tabletop.Toml
