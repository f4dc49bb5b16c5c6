import Tabletop.Dice

/-!
Dice notation: a count, a `d`, the sides and, with a sign, a modifier. It is written in the
shortest way, without a modifier of nought, and read with digits of any script and white space
around it.
-/

namespace Tabletop.Dice

open Tabletop.Text

/-! ## Writing -/

/-- The notation of an expression. -/
def spelled (dice : Dice) : String :=
  toString dice.count ++ "d" ++ toString dice.sides ++
    (if dice.modifier = 0 then "" else Numeral.withSign dice.modifier)

/-- The notation of an expression whose numbers are short enough to be written. -/
def written (dice : Dice) : Except Fault String :=
  if Numeral.isWritable dice.count && Numeral.isWritable dice.sides &&
      Numeral.isWritable dice.modifier then
    .ok dice.spelled
  else .error .tooLongToWrite

/-! ## Reading -/

/-- The three parts of a notation: two runs of digits and, unless it is left out, a sign with a run
of digits. -/
structure Parts where
  count : List Char
  sides : List Char
  modifier : Option (Bool × List Char)

/-- A run of digits at the head of a text, which must not be empty, and the rest. -/
def digitRun? (text : List Char) : Option (List Char × List Char) :=
  if (text.takeWhile isDigit).isEmpty then none
  else some (text.takeWhile isDigit, text.dropWhile isDigit)

/-- The signed run of digits that makes up the whole of a text. -/
def modifierPart? : List Char → Option (Option (Bool × List Char))
  | [] => some none
  | sign :: rest =>
      if sign = '+' || sign = '-' then
        match digitRun? rest with
        | some (digits, []) => some (some (sign == '-', digits))
        | _ => none
      else none

/-- The parts of a text in dice notation. -/
def parts? (text : List Char) : Option Parts := do
  let (count, afterCount) ← digitRun? text
  let 'd' :: afterMark := afterCount | none
  let (sides, afterSides) ← digitRun? afterMark
  let modifier ← modifierPart? afterSides
  some ⟨count, sides, modifier⟩

/-- The dice whose parts are given. -/
def ofParts (parts : Parts) : Except Fault Dice := do
  let count ← readNat parts.count
  let sides ← readNat parts.sides
  let modifier : Int ←
    match parts.modifier with
    | none => pure 0
    | some (negative, digits) => Numeral.signed negative <$> readNat digits
  ofInts count sides modifier

/-- Reads dice notation. -/
def parse (text : String) : Except Fault Dice :=
  match parts? (trim text.toList) with
  | some parts => ofParts parts
  | none => .error (.malformedDice (Datum.quoteText text))

/-- Reads dice notation from any value; only a text can hold one. -/
def ofDatum : Datum → Except Fault Dice
  | .text text => parse text
  | value =>
      match value.shown? with
      | some shown => .error (.malformedDice shown)
      | none => .error .tooLongToWrite

end Tabletop.Dice
