import Tabletop.Sorting
import Tabletop.Spell

/-!
A compendium: the weapons and spells of a game, each under its key, and the search for their names
in a text.
-/

namespace Tabletop

/-! ## Tables -/

/-- Entries under keys, no two under one key. -/
abbrev Entries (α : Type) := List (String × α)

namespace Entries

variable {α : Type}

/-- Puts a value under a key, in the place of one that is there already. -/
def put (key : String) (value : α) : Entries α → Entries α
  | [] => [(key, value)]
  | (other, old) :: rest =>
      if other = key then (key, value) :: rest else (other, old) :: put key value rest

/-- The table of a list of entries, of which later ones replace earlier ones. -/
def ofList (entries : List (String × α)) : Entries α :=
  entries.foldl (fun table entry => put entry.1 entry.2 table) []

/-- The table in which things go by their names in small letters. -/
def ofNamed (name : α → String) (values : List α) : Entries α :=
  ofList (values.map fun value => (Text.lower (name value), value))

/-- The values in the order of the table. -/
def values (table : Entries α) : List α :=
  table.map Prod.snd

/-- The keys in the order of the table. -/
def keys (table : Entries α) : List String :=
  table.map Prod.fst

/-! ## Search -/

/-- Whether a key begins somewhere in a text where no small letter precedes it. -/
def beginsIn (key : List Char) : Option Char → List Char → Bool
  | before, [] => key.isEmpty && !before.any Char.isLower
  | before, c :: rest =>
      (!before.any Char.isLower && key.isPrefixOf (c :: rest)) || beginsIn key (some c) rest

/-- The entry with the longest key that occurs in a text, whatever its case; of keys of one length
the first in the table. -/
def find? (table : Entries α) (text : String) : Option α :=
  let lowered := (Text.lower text).toList
  let ordered := sortBy (fun one other => other.1.length ≤ one.1.length) table
  (ordered.find? fun entry => beginsIn entry.1.toList none lowered).map Prod.snd

end Entries

/-! ## Compendia -/

/-- The weapons and spells of a game. -/
structure Compendium where
  weapons : Entries Weapon
  spells : Entries Spell

namespace Compendium

/-- The weapon that a text names. -/
def findWeapon? (compendium : Compendium) (text : String) : Option Weapon :=
  compendium.weapons.find? text

/-- The spell that a text names. -/
def findSpell? (compendium : Compendium) (text : String) : Option Spell :=
  compendium.spells.find? text

/-- The weapon that a text names and that it was found, or else the unarmed strike. -/
def weaponOrUnarmed (compendium : Compendium) (text : Option String) : Weapon × Bool :=
  match (Text.nonEmpty? text).bind compendium.findWeapon? with
  | some weapon => (weapon, true)
  | none => (Weapon.unarmedStrike, false)

end Compendium

end Tabletop
