import Tabletop.Span

/-!
What a text suggests: rolls that it asks for and terms of the rules that it mentions, each with its
place in the text.
-/

namespace Tabletop

/-- The kinds of roll that a text asks for. -/
inductive SuggestionKind where
  | skill
  | save
  | attack
deriving DecidableEq, Repr

namespace SuggestionKind

def name : SuggestionKind → String
  | .skill => "skill"
  | .save => "save"
  | .attack => "attack"

/-- The kind with a name. -/
def ofName? (text : String) : Option SuggestionKind :=
  [skill, save, attack].find? fun kind => kind.name == text

end SuggestionKind

/-- A roll that a text asks for. -/
structure Suggestion where
  kind : SuggestionKind
  ability : Option String := none
  skill : Option String := none
  difficulty : Option Int := none
  armorClass : Option Int := none
  damage : Option String := none
  mode : Option String := none
  span : Span
  /-- The text of the prompt. -/
  description : String := ""
  /-- The form of the prompt. -/
  form : String := ""
deriving DecidableEq, Repr

namespace Suggestion

/-- Reads a suggestion. -/
def ofDatum : Datum → Checked Suggestion :=
  Datum.fields .record fun source =>
    let text (key : String) := source.fieldOr key none (Datum.toOption Datum.toText)
    let number (key : String) := source.fieldOr key none (Datum.toOption Datum.toInt)
    Suggestion.mk
      <$> source.field "kind" (Datum.toChoice SuggestionKind.ofName?)
      <*> text "related_ability"
      <*> text "skill"
      <*> number "difficulty_class"
      <*> number "target_armor_class"
      <*> text "damage_expression"
      <*> text "attack_mode"
      <*> source.field "source_span" Span.ofDatum
      <*> source.fieldOr "description" "" Datum.toText
      <*> source.fieldOr "recognizer" "" Datum.toText

/-- The suggestion as a table. -/
def toDatum (suggestion : Suggestion) : Datum :=
  .table [
    ("kind", .text suggestion.kind.name),
    ("related_ability", .ofOption .text suggestion.ability),
    ("skill", .ofOption .text suggestion.skill),
    ("difficulty_class", .ofOption .whole suggestion.difficulty),
    ("target_armor_class", .ofOption .whole suggestion.armorClass),
    ("damage_expression", .ofOption .text suggestion.damage),
    ("attack_mode", .ofOption .text suggestion.mode),
    ("source_span", suggestion.span.toDatum),
    ("description", .text suggestion.description),
    ("recognizer", .text suggestion.form)]

end Suggestion

/-- A term of the rules in a text. -/
structure RuleReference where
  /-- The rule that the term belongs to. -/
  rule : String
  term : String
  span : Span
deriving DecidableEq, Repr

/-- The reference as a table. -/
def RuleReference.toDatum (reference : RuleReference) : Datum :=
  .table [
    ("rule_type", .text reference.rule),
    ("term", .text reference.term),
    ("source_span", reference.span.toDatum)]

end Tabletop
