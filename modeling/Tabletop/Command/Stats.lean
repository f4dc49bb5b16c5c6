import Tabletop.Character

/-!
Ability scores on the command line: items such as `str=16`, of which a later one for the same
ability replaces an earlier one.
-/

namespace Tabletop.Command

/-- Scores of some abilities, in the order in which they were first given. -/
abbrev StatList := List (Ability × Int)

namespace StatList

/-- Gives an ability its score. -/
def put (ability : Ability) (score : Int) : StatList → StatList
  | [] => [(ability, score)]
  | (other, old) :: rest =>
      if other = ability then (ability, score) :: rest else (other, old) :: put ability score rest

/-- The scores of a character with these ones; the others are as usual. -/
def toScores (stats : StatList) : Scores :=
  let score (ability : Ability) := (stats.lookup ability).getD defaultScore
  ⟨score .strength, score .dexterity, score .constitution, score .intelligence, score .wisdom,
    score .charisma⟩

end StatList

/-- Splits a text at its first equals sign. -/
def splitEquals? (item : List Char) : Option (List Char × List Char) :=
  match item.dropWhile (· != '=') with
  | [] => none
  | _ :: value => some (item.takeWhile (· != '='), value)

/-- Whether a text looks like a score: figures, after any number of minus signs and with white
space around them. -/
def looksLikeScore (value : List Char) : Bool :=
  let figures := (Text.trim value).dropWhile (· == '-')
  !figures.isEmpty && figures.all Text.isFigure

/-- The ability and the text of the score that an item names. -/
def splitStat? (item : List Char) : Option (Ability × List Char) := do
  let (name, value) ← splitEquals? item
  let ability ← Ability.ofName? (String.ofList name)
  if looksLikeScore value then some (ability, value) else none

/-- Reads one item. -/
def readStat (item : String) : Except Fault (Ability × Int) :=
  match splitStat? item.toList with
  | none => .error (.notAScore (Datum.quoteText item))
  | some (ability, value) => (fun score => (ability, score)) <$> readInt value

/-- Reads items in turn, given the scores before them. -/
def readStatsFrom (stats : StatList) : List String → Except Fault StatList
  | [] => .ok stats
  | item :: rest => do
      let (ability, score) ← readStat item
      readStatsFrom (stats.put ability score) rest

/-- Reads items. -/
def readStats (items : List String) : Except Fault StatList :=
  readStatsFrom [] items

end Tabletop.Command
