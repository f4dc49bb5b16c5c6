import Tabletop.Text.Blank
import Tabletop.Text.Digit

/-!
Integers in text. A numeral is a run of decimal digits of any script; no integer of more than 4300
digits is read or written.
-/

namespace Tabletop.Numeral

open Tabletop.Text

/-- The most digits that an integer may have in text. -/
def digitLimit : Nat := 4300

/-- Why a text is no integer. -/
inductive Error where
  /-- The text holds this many digits, more than the limit. -/
  | tooManyDigits (digits : Nat)
  /-- The text has another form. -/
  | malformed
deriving DecidableEq, Repr

/-! ## Reading -/

/-- The value of a run of digits; other characters count as zeros. -/
def value (digits : List Char) : Nat :=
  digits.foldl (fun sum c => 10 * sum + (digitValue? c).getD 0) 0

/-- Reads a run of digits. -/
def readDigits (digits : List Char) : Except Error Nat :=
  if digits.length ≤ digitLimit then .ok (value digits) else .error (.tooManyDigits digits.length)

/-- The digits of a numeral with single underscores between them, and what follows them. The flag
says whether an underscore may come next. -/
def digitGroups : Bool → List Char → Option (List Char × List Char)
  | afterDigit, [] => if afterDigit then some ([], []) else none
  | afterDigit, c :: rest =>
      if isDigit c then
        (digitGroups true rest).map fun (digits, tail) => (c :: digits, tail)
      else if c = '_' then
        if afterDigit then digitGroups false rest else none
      else if afterDigit then some ([], c :: rest) else none

/-- Splits off a leading sign; the flag says whether it is a minus. -/
def splitSign : List Char → Bool × List Char
  | '-' :: rest => (true, rest)
  | '+' :: rest => (false, rest)
  | text => (false, text)

/-- A number with a sign. -/
def signed (negative : Bool) (magnitude : Nat) : Int :=
  if negative then -(magnitude : Int) else magnitude

/-- Reads an integer: white space around it, a sign and single underscores between its digits are
fine. The digits are counted before what follows them is looked at. -/
def readInt (text : List Char) : Except Error Int :=
  let (negative, body) := splitSign (trimBy isSpace text)
  match digitGroups false body with
  | none => .error .malformed
  | some (digits, tail) => do
      let magnitude ← readDigits digits
      if tail.isEmpty then .ok (signed negative magnitude) else .error .malformed

/-! ## Writing -/

/-- Whether an integer is short enough to be written. -/
def isWritable (n : Int) : Bool :=
  n.natAbs < Nat.pow 10 digitLimit

/-- An integer with its sign, also when it is not negative. -/
def withSign (n : Int) : String :=
  if n < 0 then toString n else "+" ++ toString n

end Tabletop.Numeral
