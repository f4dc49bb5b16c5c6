import Tabletop.Compendium
import Tabletop.Toml

/-!
Compendia from files. A file of weapons or spells is a TOML document with a list of tables, one for
each; the first that breaks the rules of its record makes the file unusable.
-/

namespace Tabletop.Compendium

variable {α : Type}

/-- The values that a list stands for: its items, the characters of a text or the keys of a
table. -/
def itemsOf : Datum → Except Fault (List Datum)
  | .list items => .ok items
  | .text text => .ok (text.toList.map fun c => .text (String.singleton c))
  | .table entries => .ok (entries.map fun entry => .text entry.1)
  | _ => .error .unsuitable

/-- Reads the list under a key of a file; a missing file has no text. -/
def readFile (key : String) (read : Datum → Checked α) (name : α → String)
    (file : Option String) : Except Fault (Entries α) := do
  let some text := file | .error .missingFile
  let document ← Toml.parse text
  let items ← itemsOf ((document.get? key).getD (.list []))
  let values ← items.mapM fun item => (read item).toExcept
  pure (Entries.ofNamed name values)

/-- Reads a file of weapons. -/
def readWeapons : Option String → Except Fault (Entries Weapon) :=
  readFile "weapons" Weapon.ofDatum Weapon.name

/-- Reads a file of spells. -/
def readSpells : Option String → Except Fault (Entries Spell) :=
  readFile "spells" Spell.ofDatum Spell.name

/-- Reads a compendium from its two files, weapons first. -/
def ofFiles (weapons spells : Option String) : Except Fault Compendium := do
  let weapons ← readWeapons weapons
  let spells ← readSpells spells
  pure ⟨weapons, spells⟩

/-- Reads profiles that a caller hands in, in a list or under keys of their own. -/
def readProfiles (read : Datum → Checked α) (name : α → String) :
    Datum → Except Fault (Entries α)
  | .table entries => do
      let values ← entries.mapM fun (key, value) => do
        let profile ← (read value).toExcept
        pure (Text.lower key, profile)
      pure (Entries.ofList values)
  | value => do
      let items ← itemsOf value
      let values ← items.mapM fun item => (read item).toExcept
      pure (Entries.ofNamed name values)

end Tabletop.Compendium
