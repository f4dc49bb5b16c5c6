import Tabletop.Fault
import Tabletop.Pattern.Names
import Tabletop.Pattern.Scan

/-!
The words by which a described action is understood: what kind of action it is, and the numbers
that it names.
-/

namespace Tabletop.Wording

open Pattern

/-- A word with one of several endings. -/
def inflected (stem : String) (endings : List String) : Pattern Unit :=
  .andThen (chars stem) (oneOf (endings.map chars))

/-- Words that speak of an attack with a weapon. -/
def weaponVerb : Pattern Unit :=
  sequence [
    .wordEdge,
    oneOf [
      inflected "attack" ["s", "ed", "ing", ""],
      inflected "strik" ["e", "es", "ing"],
      inflected "slash" ["es", "ed", "ing", ""],
      inflected "stab" ["s", "bed", "bing", ""],
      inflected "shoot" ["s", "ing", ""],
      chars "shot",
      inflected "throw" ["s", "n", "ing", ""],
      chars "threw",
      inflected "swing" ["s", "ing", ""],
      chars "swung"],
    .wordEdge]

/-- Words that speak of a spell. -/
def spellWord : Pattern Unit :=
  sequence [
    .wordEdge,
    oneOf [
      inflected "cast" ["s", "ing", ""],
      inflected "spell" ["s", ""],
      inflected "incantation" ["s", ""]],
    .wordEdge]

/-- Words that speak of a saving throw. -/
def saveWord : Pattern Unit :=
  sequence [.wordEdge, oneOf [chars "save", chars "saves", phrase "saving throw"], .wordEdge]

/-- The level of a slot, before or after the word. -/
def slotLevel : Pattern Unit :=
  .either
    (sequence [.wordEdge, chars "level", gap, .mark () digits, .wordEdge])
    (sequence [
      .wordEdge, .mark () digits, oneOf [chars "st", chars "nd", chars "rd", chars "th"],
      .many .dash 1 .longest, chars "level", .wordEdge])

/-- The armor class of a target. -/
def armorClass : Pattern Unit :=
  sequence [
    .wordEdge, oneOf [chars "against", .andThen (chars "vs") (optional (chars "."))], gap,
    chars "ac", space, .mark () digits]

/-- The difficulty of a check. -/
def difficulty : Pattern Unit :=
  sequence [.wordEdge, chars "dc", space, .mark () digits]

/-- An ability or a skill as words of their own. -/
def named : Pattern Unit :=
  sequence [.wordEdge, .mark () abilityOrSkill, .wordEdge]

/-- The number in the first match of a pattern. -/
def numberIn (pattern : Pattern Unit) (text : List Char) : Except Fault (Option Int) :=
  match (pattern.search? text).bind (·.mark? ()) with
  | some digits => (fun n : Nat => some (n : Int)) <$> readNat digits.toList
  | none => .ok none

end Tabletop.Wording
