import Tabletop.Toml.Lexeme

/-!
Numbers and points in time in TOML. Each function tells whether the text opens with one, and if so
reads the longest.
-/

namespace Tabletop.Toml

/-! ## Digits -/

/-- Digits with single underscores between them: the digits and the rest. A digit must come
first. -/
def digitRun? (isDigit : Char → Bool) : List Char → Option (List Char × List Char)
  | [] => none
  | c :: rest => if isDigit c then some (more c rest) else none
where
  /-- Goes on after a digit. -/
  more (digit : Char) : List Char → List Char × List Char
    | [] => ([digit], [])
    | '_' :: c :: rest =>
        if isDigit c then
          let (digits, rest) := more c rest
          (digit :: digits, rest)
        else ([digit], '_' :: c :: rest)
    | c :: rest =>
        if isDigit c then
          let (digits, rest) := more c rest
          (digit :: digits, rest)
        else ([digit], c :: rest)

/-- The value of digits in a base. -/
def valueIn (base : Nat) (digits : List Char) : Nat :=
  digits.foldl (fun sum c => base * sum + (hexValue? c).getD 0) 0

/-- Whether a character is a digit in a base. -/
def isDigitIn (base : Nat) (c : Char) : Bool :=
  (hexValue? c).any (· < base)

/-! ## Numbers -/

/-- A whole number in base sixteen, two or eight, marked by a letter. -/
def basedNumber? : List Char → Option (Nat × List Char)
  | '0' :: 'x' :: rest => based 16 rest
  | '0' :: 'b' :: rest => based 2 rest
  | '0' :: 'o' :: rest => based 8 rest
  | _ => none
where
  /-- The digits in a base. -/
  based (base : Nat) (text : List Char) : Option (Nat × List Char) :=
    (digitRun? (isDigitIn base) text).map fun (digits, rest) => (valueIn base digits, rest)

/-- The digits before the point of a decimal number: a nought alone, or digits that do not open
with one. -/
def wholePart? : List Char → Option (List Char × List Char)
  | '0' :: rest => some (['0'], rest)
  | text => digitRun? Char.isDigit text

/-- The digits after a point, if there are any. -/
def fractionPart (text : List Char) : List Char × List Char :=
  match text with
  | '.' :: rest => (digitRun? Char.isDigit rest).getD ([], text)
  | _ => ([], text)

/-- The exponent after a letter `e`, if there is one. -/
def exponentPart (text : List Char) : Option Int × List Char :=
  let read (negative : Bool) (rest : List Char) :=
    match digitRun? Char.isDigit rest with
    | some (digits, rest) => (some (Numeral.signed negative (valueIn 10 digits)), rest)
    | none => (none, text)
  match text with
  | c :: rest =>
      if c = 'e' || c = 'E' then
        match rest with
        | '-' :: rest => read true rest
        | '+' :: rest => read false rest
        | rest => read false rest
      else (none, text)
  | [] => (none, text)

/-- A decimal number, with a fraction or an exponent or without. -/
def decimal? (text : List Char) : Option (Except Fault (Split Datum)) :=
  let (negative, body) := Numeral.splitSign text
  (wholePart? body).map fun (whole, rest) =>
    let (fraction, rest) := fractionPart rest
    let (exponent, rest) := exponentPart rest
    if fraction.isEmpty && exponent.isNone then do
      let value ← readNat whole
      .ok (.whole (Numeral.signed negative value), rest)
    else
      let place := exponent.getD 0 - fraction.length
      .ok (.real (Binary.ofDecimal negative (valueIn 10 (whole ++ fraction)) place), rest)

/-- A number beyond all numbers, or none. -/
def special? (text : List Char) : Option (Datum × List Char) :=
  let (negative, body) := Numeral.splitSign text
  match body with
  | 'i' :: 'n' :: 'f' :: rest => some (.real (.infinite negative), rest)
  | 'n' :: 'a' :: 'n' :: rest => some (.real .undefined, rest)
  | _ => none

/-! ## Points in time -/

/-- A number of exactly so many digits. -/
def fixed? (size : Nat) (text : List Char) : Option (Nat × List Char) :=
  let digits := text.take size
  if digits.length = size && digits.all Char.isDigit then
    some (valueIn 10 digits, text.drop size)
  else none

/-- Drops a character that has to come next. -/
def expect? (c : Char) : List Char → Option (List Char)
  | head :: rest => if head = c then some rest else none
  | [] => none

/-- Hours and minutes. -/
def clock? (text : List Char) : Option (List Char) := do
  let (hour, rest) ← fixed? 2 text
  let rest ← expect? ':' rest
  let (minute, rest) ← fixed? 2 rest
  if hour < 24 && minute < 60 then some rest else none

/-- A time of day, with parts of a second or without. -/
def time? (text : List Char) : Option (List Char) := do
  let rest ← clock? text
  let rest ← expect? ':' rest
  let (second, rest) ← fixed? 2 rest
  if second < 60 then
    match rest with
    | '.' :: c :: more => if c.isDigit then some (more.dropWhile Char.isDigit) else some rest
    | _ => some rest
  else none

/-- Skips the distance from universal time, if there is one. -/
def skipZone (text : List Char) : List Char :=
  match text with
  | c :: rest =>
      if c = 'Z' || c = 'z' then rest
      else if c = '+' || c = '-' then (clock? rest).getD text
      else text
  | [] => []

/-- The days of a month. -/
def daysIn (year month : Nat) : Nat :=
  if month = 2 then
    if year % 4 = 0 && (year % 100 != 0 || year % 400 = 0) then 29 else 28
  else if [4, 6, 9, 11].contains month then 30
  else 31

/-- A date, with a time of day or without; one that is in no calendar makes the text no TOML. -/
def date? (text : List Char) : Option (Except Fault (List Char)) := do
  let (year, rest) ← fixed? 4 text
  let rest ← expect? '-' rest
  let (month, rest) ← fixed? 2 rest
  let rest ← expect? '-' rest
  let (day, rest) ← fixed? 2 rest
  if 1 ≤ month && month ≤ 12 && 1 ≤ day && day ≤ 31 then
    let afterTime :=
      match rest with
      | c :: more =>
          if c = 'T' || c = 't' || c = ' ' then ((time? more).map skipZone).getD rest else rest
      | [] => rest
    some (if 1 ≤ year && day ≤ daysIn year month then .ok afterTime else bad)
  else none

end Tabletop.Toml
