import Tabletop.Compendium
import Tabletop.Console
import Tabletop.Outcome
import Tabletop.Dice.Roll

/-!
Reports for the console: suggestions, terms of the rules and the compendium as tables, an outcome in
a panel, a roll and an error in a line.
-/

namespace Tabletop.Report

open Console

/-- Integers as text, with commas between them. -/
def writeInts (numbers : List Int) : Except Fault String :=
  (", ".intercalate ·) <$> numbers.mapM writeInt

/-! ## Lines -/

/-- The report of an error. -/
def error (message : String) : Except Fault (List (List Char)) :=
  printed ("[bold red]Error:[/bold red] " ++ message)

/-- The report of a roll and what it is for. -/
def roll (roll : Roll) (purpose : String := "") : Except Fault (List (List Char)) := do
  let faces ← writeInts roll.faces
  let modifier ← if roll.modifier = 0 then pure "" else (" " ++ ·) <$> writeSigned roll.modifier
  let total ← writeInt roll.total
  let label := if purpose.isEmpty then "" else " (" ++ purpose ++ ")"
  printed ("  Roll " ++ roll.expression ++ label ++ ": [" ++ faces ++ "]" ++ modifier ++
    " = [bold]" ++ total ++ "[/bold]")

/-! ## Findings -/

/-- A name with capitals; a dash if there is none. -/
def titled (name : Option String) : String :=
  Text.title ((Text.nonEmpty? name).getD "-")

/-- The row of a suggestion. -/
def suggestionRow (suggestion : Suggestion) : Except Fault (List String) := do
  let threshold ←
    match suggestion.difficulty.or suggestion.armorClass with
    | some number => writeInt number
    | none => pure "-"
  pure [
    toString suggestion.span.start, suggestion.kind.name, titled suggestion.ability,
    titled suggestion.skill, threshold, suggestion.description]

/-- The table of suggestions. -/
def suggestionTable (found : List Suggestion) : Except Fault Table := do
  let rows ← found.mapM suggestionRow
  pure {
    title := "Suggested Rolls"
    rule := '━'
    columns := [
      { header := "At", alignRight := true }, { header := "Kind" }, { header := "Ability" },
      { header := "Skill" }, { header := "DC/AC", alignRight := true }, { header := "Text" }]
    rows := rows }

/-- The report of suggestions. -/
def suggestions (found : List Suggestion) : Except Fault (List (List Char)) :=
  if found.isEmpty then printed "[dim]No checks suggested.[/dim]"
  else do (← suggestionTable found).lines

/-- The table of references to the rules. -/
def referenceTable (found : List RuleReference) : Table where
  title := "Rules Terms"
  rule := '─'
  columns := [
    { header := "At", alignRight := true }, { header := "Term" }, { header := "Rule" }]
  rows := found.map fun reference =>
    [toString reference.span.start, reference.term, reference.rule]

/-- The report of references to the rules. -/
def references (found : List RuleReference) : Except Fault (List (List Char)) :=
  if found.isEmpty then printed "[dim]No rules terms found.[/dim]"
  else (referenceTable found).lines

/-! ## Outcomes -/

/-- The line of the die of twenty sides. -/
def testLine (outcome : Outcome) : Except Fault (List String) :=
  match outcome.face with
  | none => pure []
  | some face => do
      let face ← writeInt face
      let modifier ← writeSigned outcome.modifier
      let total ← writeInt outcome.total
      let critical :=
        match outcome.critical with
        | some .success => "  CRITICAL!"
        | some .failure => "  FUMBLE"
        | none => ""
      let success :=
        match outcome.success with
        | some true => "  success"
        | some false => "  failure"
        | none => ""
      pure ["d20: " ++ face ++ " " ++ modifier ++ " = " ++ total ++ critical ++ success]

/-- The line of the ability and the skill. -/
def abilityLine (outcome : Outcome) : List String :=
  match Text.nonEmpty? outcome.ability with
  | none => []
  | some ability =>
      let skill :=
        match Text.nonEmpty? outcome.skill with
        | some skill => " (" ++ Text.title skill ++ ")"
        | none => ""
      ["Ability: " ++ Text.title ability ++ skill]

/-- The line of the weapon. -/
def weaponLine (outcome : Outcome) : List String :=
  ((Text.nonEmpty? outcome.weapon).map ("Weapon: " ++ ·)).toList

/-- What is shown for a part that is missing. -/
def missing : String := "None"

/-- The line of the spell and its slot. -/
def spellLine (outcome : Outcome) : Except Fault (List String) :=
  match Text.nonEmpty? outcome.spell with
  | none => pure []
  | some spell => do
      let slot ← (outcome.slot.map writeInt).getD (pure missing)
      pure ["Spell: " ++ spell ++ " (slot " ++ slot ++ ")"]

/-- The line of the saving throw. -/
def saveLine (outcome : Outcome) : Except Fault (List String) :=
  match outcome.saveDifficulty with
  | none => pure []
  | some difficulty => do
      let difficulty ← writeInt difficulty
      pure ["Save: DC " ++ difficulty ++ " " ++ Text.title (outcome.saveAbility.getD "") ++ " (" ++
        outcome.saveEffect.getD missing ++ ")"]

/-- The line of the damage. -/
def damageLine (outcome : Outcome) : Except Fault (List String) :=
  match outcome.damage with
  | none => pure []
  | some damage => do
      let faces ← writeInts outcome.damageFaces
      let bonus ← writeSigned outcome.damageBonus
      let damage ← writeInt damage
      pure ["Damage: [" ++ faces ++ "] " ++ bonus ++ " = " ++ damage ++ " " ++
        outcome.damageType.getD ""]

/-- The line of the healing. -/
def healingLine (outcome : Outcome) : Except Fault (List String) :=
  match outcome.healing with
  | none => pure []
  | some healing => do
      let faces ← writeInts outcome.healingFaces
      let healing ← writeInt healing
      pure ["Healing: [" ++ faces ++ "] = " ++ healing]

/-- The name of a kind of action as a title. -/
def kindTitle (kind : ActionKind) : String :=
  Text.title (String.ofList (kind.name.toList.map fun c => if c = '_' then ' ' else c))

/-- The panel of an outcome; each of its lines is ended. -/
def outcomePanel (width : Nat) (outcome : Outcome) : Except Fault Panel := do
  let test ← testLine outcome
  let spell ← spellLine outcome
  let save ← saveLine outcome
  let damage ← damageLine outcome
  let healing ← healingLine outcome
  let lines := [outcome.description] ++ test ++ abilityLine outcome ++ weaponLine outcome ++
    spell ++ save ++ damage ++ healing ++ outcome.notes.map ("Note: " ++ ·)
  pure {
    title := kindTitle outcome.kind
    text := String.join (lines.map (· ++ "\n"))
    width := width }

/-- The width of a panel. -/
def panelWidth : Nat := 80

/-- The report of an outcome. -/
def outcome (outcome : Outcome) (width : Nat := panelWidth) :
    Except Fault (List (List Char)) :=
  Panel.lines <$> outcomePanel width outcome

/-! ## Compendia -/

/-- The name of three letters in capitals. -/
def capitals (ability : Ability) : String :=
  ability.abbreviation.toUpper

/-- The row of a weapon. -/
def weaponRow (weapon : Weapon) : Except Fault (List String) := do
  let dice ← weapon.damage.dice.written
  let properties := weapon.properties.toList
  pure [
    weapon.name, weapon.category.name ++ " " ++ weapon.type.name,
    dice ++ " " ++ weapon.damage.type, capitals weapon.ability.toAbility,
    (Text.nonEmpty? (some (", ".intercalate properties))).getD "-"]

/-- The table of weapons by name. -/
def weaponTable (weapons : List Weapon) : Except Fault Table := do
  let rows ← (sortBy (fun one other => one.name ≤ other.name) weapons).mapM weaponRow
  pure {
    title := "Weapons"
    rule := '━'
    columns := [
      { header := "Name" }, { header := "Type" }, { header := "Damage" }, { header := "Stat" },
      { header := "Properties" }]
    rows := rows }

/-- What a spell does, in short. -/
def spellEffects (spell : Spell) : Except Fault (List String) := do
  let damage ← (spell.damage.map fun damage =>
    (· ++ " " ++ damage.type) <$> damage.dice.written).toList.mapM id
  let healing ← (spell.healing.map fun healing =>
    ("heals " ++ ·) <$> healing.dice.written).toList.mapM id
  let save := (spell.savingThrow.map fun save => capitals save.ability ++ " save").toList
  pure (damage ++ healing ++ save)

/-- The row of a spell. -/
def spellRow (spell : Spell) : Except Fault (List String) := do
  let effects ← spellEffects spell
  pure [
    spell.name, if spell.isCantrip then "cantrip" else toString spell.level.value,
    "; ".intercalate effects, capitals spell.ability.toAbility]

/-- Whether a spell may stand before another: by level, then by name. -/
def spellPrecedes (one other : Spell) : Bool :=
  one.level.value < other.level.value || (one.level = other.level && one.name ≤ other.name)

/-- The table of spells by level and name. -/
def spellTable (spells : List Spell) : Except Fault Table := do
  let rows ← (sortBy spellPrecedes spells).mapM spellRow
  pure {
    title := "Spells"
    rule := '━'
    columns := [
      { header := "Name" }, { header := "Level", alignRight := true }, { header := "Effect" },
      { header := "Stat" }]
    rows := rows }

/-- The report of a compendium: its weapons, then its spells. -/
def compendium (compendium : Compendium) : Except Fault (List (List Char)) := do
  let weapons ← (← weaponTable compendium.weapons.values).lines
  let spells ← (← spellTable compendium.spells.values).lines
  pure (weapons ++ spells)

end Tabletop.Report
