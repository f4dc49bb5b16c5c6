import Tabletop.Datum
import Tabletop.Numeral

/-!
What can go wrong: the causes, with the texts under which they are reported, and the places in a
value where a record's rules are broken.
-/

namespace Tabletop

/-! ## Broken rules of records -/

/-- A step into a value. -/
inductive Step where
  | key (name : String)
  | index (position : Nat)
deriving DecidableEq, Repr

/-- A rule that a value can break. -/
inductive Rule where
  | present
  | wholeNumber
  | wholeNumberText
  | wholeNumberSize
  | wholeNumberFraction
  | finiteNumber
  | textValue
  | flagKind
  | flagValue
  | choice
  | atLeast
  | atMost
  | above
  | set
  | sequence
  | record
  | openRecord
  | dice
  /-- A rule of the record's own, with its text. -/
  | own (text : String)
deriving DecidableEq, Repr

/-- The name under which a broken rule is reported. -/
def Rule.name : Rule → String
  | .present => "missing"
  | .wholeNumber => "int_type"
  | .wholeNumberText => "int_parsing"
  | .wholeNumberSize => "int_parsing_size"
  | .wholeNumberFraction => "int_from_float"
  | .finiteNumber => "finite_number"
  | .textValue => "string_type"
  | .flagKind => "bool_type"
  | .flagValue => "bool_parsing"
  | .choice => "enum"
  | .atLeast => "greater_than_equal"
  | .atMost => "less_than_equal"
  | .above => "greater_than"
  | .set => "frozen_set_type"
  | .sequence => "tuple_type"
  | .record => "model_type"
  | .openRecord => "model_attributes_type"
  | .dice => "dataclass_type"
  | .own _ => "value_error"

/-- The text that goes with a broken rule of a record's own. -/
def Rule.text? : Rule → Option String
  | .own text => some ("Value error, " ++ text)
  | _ => none

/-- A broken rule and where it was broken. -/
structure Flaw where
  place : List Step
  rule : Rule
deriving DecidableEq, Repr

/-! ## Faults -/

/-- Why an operation gave no result. -/
inductive Fault where
  /-- A value, as shown, that is no dice notation. -/
  | malformedDice (shown : String)
  | nonPositiveDice (count sides : Int)
  /-- A text, as shown, that is no integer. -/
  | notAnInteger (shown : String)
  | tooManyDigits (digits : Nat)
  | tooLongToWrite
  | tooManySides
  | infiniteNumber
  | undefinedNumber
  /-- An item, as shown, that does not give an ability its score. -/
  | notAScore (shown : String)
  /-- A value that breaks the rules of its record. -/
  | flawed (flaws : List Flaw)
  /-- A value without the parts that were asked of it. -/
  | lacksPart
  /-- A value that an operation does not apply to. -/
  | unsuitable
  | missingFile
  | malformedToml
  | unmatchedTag
deriving DecidableEq, Repr

namespace Fault

/-- The text of a fault; some are reported by their cause alone. -/
def message? : Fault → Option String
  | .malformedDice shown => some ("Invalid dice expression: " ++ shown)
  | .nonPositiveDice count sides =>
      some ("Dice count and sides must be positive: " ++ toString count ++ "d" ++ toString sides)
  | .notAnInteger shown => some ("invalid literal for int() with base 10: " ++ shown)
  | .tooManyDigits digits =>
      some ("Exceeds the limit (" ++ toString Numeral.digitLimit ++
        " digits) for integer string conversion: value has " ++ toString digits ++
        " digits; use sys.set_int_max_str_digits() to increase the limit")
  | .tooLongToWrite =>
      some ("Exceeds the limit (" ++ toString Numeral.digitLimit ++
        " digits) for integer string conversion; " ++
        "use sys.set_int_max_str_digits() to increase the limit")
  | .tooManySides => some "int too large to convert to float"
  | .infiniteNumber => some "cannot convert float infinity to integer"
  | .undefinedNumber => some "cannot convert float NaN to integer"
  | .notAScore shown => some ("Expected ability=score, got " ++ shown)
  | _ => none

/-- The fault of a text that is no integer; the text is shown up to 200 characters. -/
def ofNumeral (text : List Char) : Numeral.Error → Fault
  | .tooManyDigits digits => .tooManyDigits digits
  | .malformed => .notAnInteger (String.ofList ((Text.quoted text).take 200))

end Fault

/-- An integer from a text. -/
def readInt (text : List Char) : Except Fault Int :=
  (Numeral.readInt text).mapError (Fault.ofNumeral text)

/-- A number from a run of digits. -/
def readNat (digits : List Char) : Except Fault Nat :=
  (Numeral.readDigits digits).mapError (Fault.ofNumeral digits)

/-- An integer as text. -/
def writeInt (n : Int) : Except Fault String :=
  if Numeral.isWritable n then .ok (toString n) else .error .tooLongToWrite

/-- An integer as text, with its sign also when it is not negative. -/
def writeSigned (n : Int) : Except Fault String :=
  if Numeral.isWritable n then .ok (Numeral.withSign n) else .error .tooLongToWrite

end Tabletop
