import Tabletop.Datum.Checked
import Tabletop.Text.Blank

/-!
The settings of the rules, read from a table of tables in which anything may be left out.
-/

namespace Tabletop

/-- The settings of the rules. -/
structure Settings where
  /-- The proficiency bonus of a character that brings none. -/
  proficiencyBonus : Nat := 2
  /-- Whether that bonus goes by the character's level instead. -/
  byLevel : Bool := false
  /-- The directory of another compendium. -/
  compendiumPath : Option String := none
  logLevel : String := "WARNING"
deriving DecidableEq, Repr

namespace Settings

/-! ## Paths -/

/-- The parts of a path: what stands between slashes, without empty parts and single points. -/
def pathParts (path : List Char) : List (List Char) :=
  (path.splitOn '/').filter fun part => part != [] && part != ['.']

/-- A path in its plain form. It opens with a slash if it was written so, and with two if it was
written with exactly two; a path without parts is a point. -/
def plainPath (path : String) : String :=
  let slashes := (path.toList.takeWhile (· == '/')).length
  let root := if slashes = 2 then ['/', '/'] else if slashes = 0 then [] else ['/']
  let plain := root ++ ['/'].intercalate (pathParts path.toList)
  if plain.isEmpty then "." else String.ofList plain

/-! ## Reading -/

/-- A section of the settings, which may be left out but must be a table. -/
def section? (source : Datum) (name : String) : Except Fault Datum :=
  match source with
  | .table entries =>
      match entries.lookup name with
      | none => .ok (.table [])
      | some (.table inner) => .ok (.table inner)
      | some _ => .error .lacksPart
  | _ => .error .lacksPart

/-- The directory that the settings name; an empty value names none. -/
def readPath (content : Datum) : Except Fault (Option String) :=
  match content.get? "catalog_dir" with
  | none => .ok none
  | some value =>
      if value.isVoid then .ok none
      else match value with
        | .text path => .ok (some (plainPath path))
        | _ => .error .unsuitable

/-- Reads the settings. -/
def ofDatum (source : Datum) : Except Fault Settings := do
  let rules ← section? source "rules"
  let content ← section? source "content"
  let logging ← section? source "logging"
  let path ← readPath content
  let read (inner : Datum) (key field : String) {α : Type} (fallback : α)
      (reading : Datum → Checked α) : Checked α :=
    match inner.get? key with
    | some value => (reading value).within (.key field)
    | none => .sound fallback
  (Settings.mk
    <$> read rules "default_proficiency_bonus" "default_proficiency_bonus" 2 (fun value =>
      (value.toInt.ensure .atLeast fun bonus => 0 ≤ bonus).map Int.toNat)
    <*> read rules "proficiency_by_level" "proficiency_by_level" false Datum.toFlag
    <*> .sound path
    <*> read logging "level" "log_level" "WARNING" Datum.toText).toExcept

/-- The settings as a table. -/
def toDatum (settings : Settings) : Datum :=
  .table [
    ("default_proficiency_bonus", .whole settings.proficiencyBonus),
    ("proficiency_by_level", .flag settings.byLevel),
    ("catalog_dir", .ofOption .text settings.compendiumPath),
    ("log_level", .text settings.logLevel)]

end Settings

end Tabletop
