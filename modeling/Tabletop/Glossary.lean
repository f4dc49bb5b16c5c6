import Tabletop.Pattern.Names
import Tabletop.Pattern.Scan
import Tabletop.Suggestion

/-!
The glossary: terms of the rules that a text may mention, each with the rule it belongs to. Their
order is their priority.
-/

namespace Tabletop.Glossary

open Pattern

/-- A term of the rules. -/
structure Term where
  rule : String
  pattern : Pattern Empty

/-- A term that is a phrase of its own. -/
def wholePhrase (rule text : String) : Term :=
  ⟨rule, sequence [.wordEdge, phrase text, .wordEdge]⟩

/-- The conditions that a creature may be under. -/
def conditions : List String :=
  ["blinded", "charmed", "deafened", "frightened", "grappled", "incapacitated", "invisible",
    "paralyzed", "petrified", "poisoned", "prone", "restrained", "stunned", "unconscious"]

/-- A saving throw by either of its names. -/
def saveWord : Pattern Empty :=
  oneOf [chars "save", phrase "saving throw"]

/-- All terms, by priority. -/
def terms : List Term := [
  ⟨"ability-check", sequence [
    .wordEdge, ability, gap, optional (.andThen (chars "ability") gap), chars "check",
    .wordEdge]⟩,
  wholePhrase "ability-check" "ability check",
  ⟨"ability-check", sequence [.wordEdge, skill, gap, chars "check", .wordEdge]⟩,
  ⟨"saving-throw", sequence [.wordEdge, ability, gap, saveWord, .wordEdge]⟩,
  ⟨"death-saves", sequence [.wordEdge, chars "death", gap, saveWord, .wordEdge]⟩,
  wholePhrase "saving-throw" "saving throw",
  wholePhrase "saving-throw" "save",
  wholePhrase "attack-roll" "attack roll",
  wholePhrase "attack-roll" "hit",
  wholePhrase "initiative" "initiative",
  wholePhrase "initiative" "turn order",
  wholePhrase "combat-turn" "combat turn",
  wholePhrase "combat-turn" "your turn",
  wholePhrase "combat-turn" "bonus action",
  wholePhrase "combat-turn" "reaction",
  wholePhrase "combat-turn" "action",
  wholePhrase "damage" "damage roll",
  ⟨"damage", sequence [
    .wordEdge, chars "roll", gap, optional (.andThen (chars "for") gap), chars "damage",
    .wordEdge]⟩,
  wholePhrase "disadvantage" "disadvantage",
  wholePhrase "advantage" "advantage",
  wholePhrase "proficiency" "proficiency bonus",
  wholePhrase "proficiency" "proficient",
  wholePhrase "spell-casting" "spell save dc",
  wholePhrase "spell-casting" "spell slot",
  ⟨"spell-casting", sequence [
    .wordEdge, chars "spell", optional (chars "casting"), .wordEdge]⟩,
  wholePhrase "spell-casting" "cantrip",
  ⟨"conditions", sequence [.wordEdge, oneOf (conditions.map chars), .wordEdge]⟩,
  wholePhrase "movement" "difficult terrain",
  wholePhrase "movement" "movement",
  wholePhrase "exhaustion" "exhaustion"]

/-- The mentions of all terms in a text, overlapping ones included. -/
def mentions (text : List Char) : List RuleReference :=
  terms.flatMap fun term =>
    (term.pattern.scan text).map fun hit => ⟨term.rule, String.ofList hit.text, hit.span⟩

end Glossary

/-- The terms of the rules that a text mentions, in the order of the text. -/
def ruleReferences (text : String) : List RuleReference :=
  chooseDisjoint RuleReference.span (Glossary.mentions text.toList)

end Tabletop
