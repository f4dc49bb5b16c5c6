import Tabletop.Prompt.Form

/-!
Prompts in a text. Each form is looked for on its own; of the prompts found, those that name no
ability are left out, and where two overlap the longer one is kept.
-/

namespace Tabletop.Prompt

open Pattern

/-- What the parts of a prompt say. -/
structure Reading where
  name : Option String := none
  ability : Option String := none
  skill : Option String := none
  difficulty : Option Int := none
  armorClass : Option Int := none
  damage : Option String := none
  mode : Option String := none
deriving DecidableEq, Repr

/-! ## Reading a prompt -/

/-- The number that a part of a prompt gives. -/
def number? (part : Option String) : Except Fault (Option Int) :=
  match part with
  | some digits => (fun n : Nat => some (n : Int)) <$> readNat digits.toList
  | none => .ok none

/-- A text without white space, in small letters. -/
def compact (text : String) : String :=
  Text.lower (String.ofList (text.toList.filter fun c => !Text.isBlank c))

/-- The parts of a prompt as they are marked. A difficulty that leads goes before one that
trails. -/
def readMarked (hit : Hit Label) : Except Fault Reading := do
  let difficulty ←
    number? ((hit.mark? .difficulty).or (hit.mark? .trailingDifficulty))
  let armorClass ← number? (hit.mark? .armorClass)
  pure {
    name := hit.mark? .name
    ability := hit.mark? .ability
    skill := hit.mark? .skill
    difficulty := difficulty
    armorClass := armorClass
    damage := (hit.mark? .damage).map compact
    mode := (hit.mark? .mode).map Text.lower }

/-- What is added to a die of twenty sides. -/
def addedName : Pattern Label :=
  sequence [chars "d20", space, chars "+", space, .mark .name letters]

/-- An ability by its full name, as a word of its own. -/
def abilityWord : Pattern Label :=
  sequence [
    .wordEdge, .mark .name (oneOf (Ability.all.map fun ability => chars ability.name)), .wordEdge]

/-- The name that a roll in brackets goes by: what is added to the die, if it is an ability or a
skill; else the first ability that is named; else intelligence. -/
def bracketName (body : List Char) : String :=
  let added := (addedName.search? body).bind (·.mark? .name)
  match added.filter fun name => (Ability.governing? name).isSome with
  | some name => name
  | none => ((abilityWord.search? body).bind (·.mark? .name)).getD Ability.intelligence.name

/-- The parts of a roll in brackets. -/
def readBracket (hit : Hit Label) : Except Fault Reading := do
  let difficulty ← number? (hit.mark? .difficulty)
  pure {
    name := some (bracketName ((hit.mark? .body).getD "").toList)
    difficulty := difficulty }

/-- The parts of a prompt of a form. -/
def Form.read (form : Form) (hit : Hit Label) : Except Fault Reading :=
  if form.bracketed then readBracket hit else readMarked hit

/-! ## Suggestions -/

/-- The skill that a prompt names, in its one spelling: the part marked as a skill, or for a check
the name, if it is no ability but a skill. -/
def Reading.skillName? (reading : Reading) (kind : SuggestionKind) : Option String :=
  let marked := reading.skill.map Skill.normalForm
  match reading.name with
  | some name =>
      if (Ability.ofName? name).isNone && kind == .skill && (Skill.ofName? name).isSome then
        some (Skill.normalForm name)
      else marked
  | none => marked

/-- The ability that a prompt names: by name, else in its own part, else by its skill. -/
def Reading.ability? (reading : Reading) (kind : SuggestionKind) : Option Ability :=
  let named := reading.name.bind Ability.ofName?
  let marked := reading.ability.bind Ability.ofName?
  let governing := (reading.skillName? kind).bind fun skill =>
    (Skill.ofName? skill).map Skill.ability
  named.or (marked.or governing)

/-- The suggestion of a prompt; a check or saving throw without an ability suggests nothing. -/
def Form.suggestion? (form : Form) (hit : Hit Label) (reading : Reading) : Option Suggestion :=
  let base : Suggestion := {
    kind := form.kind
    difficulty := reading.difficulty
    armorClass := reading.armorClass
    damage := reading.damage
    mode := reading.mode
    span := hit.span
    description := String.ofList hit.text
    form := form.name }
  if form.kind = .attack then some base
  else (reading.ability? form.kind).map fun ability =>
    { base with
      ability := some ability.name
      skill := reading.skillName? form.kind }

/-- The suggestions of one form in a text. -/
def Form.suggestionsIn (form : Form) (text : List Char) : Except Fault (List Suggestion) := do
  let found ← (form.pattern.scan text).mapM fun hit => do
    let reading ← form.read hit
    pure (form.suggestion? hit reading)
  pure (found.filterMap id)

/-- The suggestions of all forms in a text, overlapping ones included. -/
def candidates (text : List Char) : Except Fault (List Suggestion) :=
  List.flatten <$> Form.all.mapM fun form => form.suggestionsIn text

end Prompt

/-- The rolls that a text asks for, in the order of the text. -/
def suggestions (text : String) : Except Fault (List Suggestion) :=
  chooseDisjoint Suggestion.span <$> Prompt.candidates text.toList

end Tabletop
