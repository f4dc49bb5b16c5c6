import Tabletop.Character

/-!
Score sheets: ability scores as a player keeps them, either as a record that was read beforehand or
as a table of anything in which a score is read when it is looked up.
-/

namespace Tabletop

/-- Ability scores by name. -/
inductive ScoreSheet where
  | record (scores : Scores)
  | loose (table : Datum)

namespace ScoreSheet

/-- The whole number that a loose value stands for: fractions are dropped, flags count as one and
nought, and a text has to be an integer. -/
def wholeOf : Datum → Except Fault Int
  | .whole value => .ok value
  | .flag value => .ok (if value then 1 else 0)
  | .real value =>
      match value.truncate?, value with
      | some n, _ => .ok n
      | none, .infinite _ => .error .infiniteNumber
      | none, _ => .error .undefinedNumber
  | .text value => readInt value.toList
  | _ => .error .unsuitable

/-- The score under a name. The name is not brought to another spelling, and what the sheet does
not know or leaves open is ten. -/
def score (sheet : ScoreSheet) (name : String) : Except Fault Int :=
  match sheet with
  | .record scores => .ok (((Ability.ofFullName? name).map scores.get).getD defaultScore)
  | .loose table =>
      match table.get? name with
      | none => .ok defaultScore
      | some .null => .ok defaultScore
      | some value => wholeOf value

/-- The modifier for what a name stands for, be it an ability or a skill; nought if it is
neither. -/
def modifier (sheet : ScoreSheet) (name : String) : Except Fault Int :=
  match Ability.governing? name with
  | some ability => scoreModifier <$> sheet.score ability.name
  | none => .ok 0

end ScoreSheet

end Tabletop
