import Tabletop.Suggestion

/-!
Outcomes: what came of an action, with everything that was rolled for it.
-/

namespace Tabletop

/-- The kinds of action. -/
inductive ActionKind where
  | skillCheck
  | savingThrow
  | attackRoll
  | weaponAttack
  | spellCast
  | unresolved
deriving DecidableEq, Repr

namespace ActionKind

def name : ActionKind → String
  | .skillCheck => "skill_check"
  | .savingThrow => "saving_throw"
  | .attackRoll => "attack_roll"
  | .weaponAttack => "weapon_attack"
  | .spellCast => "spell_cast"
  | .unresolved => "unresolved"

/-- The kind with a name. -/
def ofName? (text : String) : Option ActionKind :=
  [skillCheck, savingThrow, attackRoll, weaponAttack, spellCast, unresolved].find? fun kind =>
    kind.name == text

end ActionKind

/-- What the die shows when it decides alone. -/
inductive Critical where
  | success
  | failure
deriving DecidableEq, Repr

namespace Critical

def name : Critical → String
  | .success => "success"
  | .failure => "failure"

/-- The decision with a name. -/
def ofName? (text : String) : Option Critical :=
  [success, failure].find? fun critical => critical.name == text

/-- A twenty on the die is a success and a one a failure, whatever is added. -/
def ofFace? (face : Int) : Option Critical :=
  if face = 20 then some .success else if face = 1 then some .failure else none

end Critical

/-- What came of an action. -/
structure Outcome where
  kind : ActionKind
  description : String := ""
  suggestion : Option Suggestion := none
  /-- The face of the die of twenty sides, if it was rolled. -/
  face : Option Int := none
  modifier : Int := 0
  total : Int := 0
  success : Option Bool := none
  critical : Option Critical := none
  ability : Option String := none
  skill : Option String := none
  weapon : Option String := none
  spell : Option String := none
  slot : Option Int := none
  damage : Option Int := none
  damageFaces : List Int := []
  damageBonus : Int := 0
  damageType : Option String := none
  healing : Option Int := none
  healingFaces : List Int := []
  saveDifficulty : Option Int := none
  saveAbility : Option String := none
  saveEffect : Option String := none
  notes : List String := []
deriving DecidableEq, Repr

namespace Outcome

/-- Whether a die of twenty sides was rolled. -/
def isRolled (outcome : Outcome) : Bool :=
  outcome.face.isSome

/-- Reads an outcome. -/
def ofDatum : Datum → Checked Outcome :=
  Datum.fields .record fun source =>
    let text (key : String) := source.fieldOr key none (Datum.toOption Datum.toText)
    let number (key : String) := source.fieldOr key none (Datum.toOption Datum.toInt)
    let faces (key : String) := source.fieldOr key [] (Datum.toList .sequence Datum.toInt)
    Outcome.mk
      <$> source.field "kind" (Datum.toChoice ActionKind.ofName?)
      <*> source.fieldOr "description" "" Datum.toText
      <*> source.fieldOr "suggestion" none (Datum.toOption Suggestion.ofDatum)
      <*> number "die_roll"
      <*> source.fieldOr "modifier" 0 Datum.toInt
      <*> source.fieldOr "total" 0 Datum.toInt
      <*> source.fieldOr "success" none (Datum.toOption Datum.toFlag)
      <*> source.fieldOr "critical" none (Datum.toOption (Datum.toChoice Critical.ofName?))
      <*> text "ability"
      <*> text "skill"
      <*> text "weapon_name"
      <*> text "spell_name"
      <*> number "spell_slot_level"
      <*> number "damage"
      <*> faces "damage_rolls"
      <*> source.fieldOr "damage_bonus" 0 Datum.toInt
      <*> text "damage_type"
      <*> number "healing"
      <*> faces "healing_rolls"
      <*> number "save_dc"
      <*> text "save_ability"
      <*> text "save_effect"
      <*> source.fieldOr "notes" [] (Datum.toList .sequence Datum.toText)

/-- The outcome as a table. -/
def toDatum (outcome : Outcome) : Datum :=
  .table [
    ("kind", .text outcome.kind.name),
    ("description", .text outcome.description),
    ("suggestion", .ofOption Suggestion.toDatum outcome.suggestion),
    ("die_roll", .ofOption .whole outcome.face),
    ("modifier", .whole outcome.modifier),
    ("total", .whole outcome.total),
    ("success", .ofOption .flag outcome.success),
    ("critical", .ofOption (.text ∘ Critical.name) outcome.critical),
    ("ability", .ofOption .text outcome.ability),
    ("skill", .ofOption .text outcome.skill),
    ("weapon_name", .ofOption .text outcome.weapon),
    ("spell_name", .ofOption .text outcome.spell),
    ("spell_slot_level", .ofOption .whole outcome.slot),
    ("damage", .ofOption .whole outcome.damage),
    ("damage_rolls", .list (outcome.damageFaces.map .whole)),
    ("damage_bonus", .whole outcome.damageBonus),
    ("damage_type", .ofOption .text outcome.damageType),
    ("healing", .ofOption .whole outcome.healing),
    ("healing_rolls", .list (outcome.healingFaces.map .whole)),
    ("save_dc", .ofOption .whole outcome.saveDifficulty),
    ("save_ability", .ofOption .text outcome.saveAbility),
    ("save_effect", .ofOption .text outcome.saveEffect),
    ("notes", .list (outcome.notes.map .text))]

end Outcome

end Tabletop
