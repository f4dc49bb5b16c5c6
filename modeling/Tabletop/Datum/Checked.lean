import Tabletop.Fault

/-!
Reading records from values. All broken rules of a value are reported, in the order in which its
parts are read; a part of the wrong kind altogether stops the reading at once.
-/

namespace Tabletop

/-- The outcome of reading a value. -/
inductive Checked (α : Type) where
  | sound (value : α)
  | flawed (flaws : List Flaw)
  | stopped (fault : Fault)

namespace Checked

variable {α β : Type}

def map (f : α → β) : Checked α → Checked β
  | .sound value => .sound (f value)
  | .flawed flaws => .flawed flaws
  | .stopped fault => .stopped fault

/-- Applies one reading to another: their flaws are collected. -/
def ap : Checked (α → β) → Checked α → Checked β
  | .stopped fault, _ => .stopped fault
  | _, .stopped fault => .stopped fault
  | .flawed flaws, .flawed more => .flawed (flaws ++ more)
  | .flawed flaws, .sound _ => .flawed flaws
  | .sound _, .flawed flaws => .flawed flaws
  | .sound f, .sound value => .sound (f value)

instance : Functor Checked where
  map := Checked.map

instance : Applicative Checked where
  pure := .sound
  seq f x := f.ap (x ())

/-- Goes on with a sound value; nothing is collected beyond it. -/
def andThen (reading : Checked α) (next : α → Checked β) : Checked β :=
  match reading with
  | .sound value => next value
  | .flawed flaws => .flawed flaws
  | .stopped fault => .stopped fault

/-- A single broken rule at the value itself. -/
def broken (rule : Rule) : Checked α :=
  .flawed [⟨[], rule⟩]

/-- Reports the flaws of a part under the step that leads to it. -/
def within (step : Step) : Checked α → Checked α
  | .flawed flaws => .flawed (flaws.map fun flaw => { flaw with place := step :: flaw.place })
  | reading => reading

/-- Holds a sound value to a rule. -/
def ensure (reading : Checked α) (rule : Rule) (keeps : α → Bool) : Checked α :=
  reading.andThen fun value => if keeps value then .sound value else broken rule

/-- Takes a fault of an operation for a broken rule of the record's own. -/
def ofExcept : Except Fault α → Checked α
  | .ok value => .sound value
  | .error fault =>
      match fault.message? with
      | some text => broken (.own text)
      | none => .stopped fault

/-- The value, or the fault that reports its flaws. -/
def toExcept : Checked α → Except Fault α
  | .sound value => .ok value
  | .flawed flaws => .error (.flawed flaws)
  | .stopped fault => .error fault

end Checked

namespace Datum

variable {α : Type}

/-! ## Whole numbers -/

/-- Drops the zeros that open a numeral, together with the underscores among them; the last
character stays if nothing else does. A numeral opens with a digit, or with a minus and a digit. -/
def dropLeadingZeros : List Char → Option (List Char)
  | '-' :: rest => (fromDigit rest).map ('-' :: ·)
  | numeral => fromDigit numeral
where
  /-- Drops the zeros where a numeral has to open with a digit. -/
  fromDigit : List Char → Option (List Char)
    | '0' :: rest => after '0' rest
    | c :: rest => if c.isDigit then some (c :: rest) else none
    | [] => none
  /-- Goes on after a zero or an underscore. A minus may follow it, as a digit may. -/
  after (last : Char) : List Char → Option (List Char)
    | [] => some [last]
    | c :: rest =>
        if c = '0' || c = '_' then after c rest
        else if c = '-' || c.isDigit then some (c :: rest)
        else if c = '.' then some (last :: c :: rest)
        else none

/-- Drops a point that zeros follow and nothing else, with the zeros. -/
def dropZeroFraction (text : List Char) : List Char :=
  match text.dropWhile (· != '.') with
  | '.' :: '0' :: rest => if rest.all (· == '0') then text.takeWhile (· != '.') else text
  | _ => text

/-- Whether a text has an underscore at an end or two in a row. -/
def hasStrayUnderscore : List Char → Bool
  | [] => false
  | '_' :: _ => true
  | _ :: rest => inside rest
where
  /-- Goes on after a character that is no underscore. -/
  inside : List Char → Bool
    | [] => false
    | ['_'] => true
    | '_' :: '_' :: _ => true
    | _ :: rest => inside rest

/-- The plain form of a numeral written with space around it, a plus, opening zeros, underscores
between digits or a fraction of zeros. -/
def plainNumeral? (text : List Char) : Option (List Char) :=
  let trimmed := Text.trimBy Text.isSpace text
  let unsigned :=
    match trimmed with
    | '+' :: '-' :: _ => none
    | '+' :: rest => some rest
    | other => some other
  (unsigned.bind dropLeadingZeros).map fun body =>
    let body := dropZeroFraction body
    if hasStrayUnderscore body then body else body.filter (· != '_')

/-- Reads a plain numeral: digits without an opening zero, after at most a minus. The digits are
counted before what follows them is looked at. -/
def readPlain (text : List Char) : Except Rule Int :=
  let (negative, body) :=
    match text with
    | '-' :: rest => (true, rest)
    | other => (false, other)
  let digits := body.takeWhile Char.isDigit
  if digits.isEmpty || (digits.head? == some '0' && digits.length != 1) then
    .error .wholeNumberText
  else if Numeral.digitLimit < digits.length then .error .wholeNumberSize
  else if digits.length < body.length then .error .wholeNumberText
  else .ok (Numeral.signed negative (Numeral.value digits))

/-- Reads a whole number from a text. Only a text that opens as a plain numeral is ever too long:
one whose plain form cannot be read is no whole number. -/
def wholeOfText (text : List Char) : Except Rule Int :=
  match readPlain text with
  | .error .wholeNumberText =>
      match (plainNumeral? text).map readPlain with
      | some (.ok n) => .ok n
      | _ => .error .wholeNumberText
  | result => result

/-- The least magnitude beyond a signed word of 64 bits. -/
def wordLimit : Int := 9223372036854775808

/-- Whether a whole-valued real is small enough to be a whole number: strictly within a word. -/
def fitsWord (n : Int) : Bool :=
  -wordLimit < n && n < wordLimit

/-- Reads a whole number. A flag counts as one or nought, and a number or a text will do if it has
no fraction. -/
def toInt : Datum → Checked Int
  | .whole value => .sound value
  | .flag value => .sound (if value then 1 else 0)
  | .real value =>
      match value.truncate?, value.whole? with
      | none, _ => Checked.broken .finiteNumber
      | some _, none => Checked.broken .wholeNumberFraction
      | some _, some n =>
          if fitsWord n then .sound n else Checked.broken .wholeNumberSize
  | .text value =>
      match wholeOfText value.toList with
      | .ok n => .sound n
      | .error rule => Checked.broken rule
  | _ => Checked.broken .wholeNumber

/-! ## Flags, texts, choices -/

/-- The words that stand for false and for true, in small letters. -/
def flagWords : List (String × Bool) :=
  [("0", false), ("off", false), ("f", false), ("false", false), ("n", false), ("no", false),
    ("1", true), ("on", true), ("t", true), ("true", true), ("y", true), ("yes", true)]

/-- Reads a flag. -/
def toFlag : Datum → Checked Bool
  | .flag value => .sound value
  | .text value =>
      match flagWords.lookup (String.ofList (value.toList.map Char.toLower)) with
      | some meaning => .sound meaning
      | none => Checked.broken .flagValue
  | .whole value =>
      if value = 0 then .sound false
      else if value = 1 then .sound true
      else if -wordLimit ≤ value && value < wordLimit then Checked.broken .flagValue
      else Checked.broken .flagKind
  | .real value =>
      match value.whole? with
      | some 0 => .sound false
      | some 1 => .sound true
      | some n => if fitsWord n then Checked.broken .flagValue else Checked.broken .flagKind
      | none => Checked.broken .flagKind
  | _ => Checked.broken .flagKind

/-- Reads a text. -/
def toText : Datum → Checked String
  | .text value => .sound value
  | _ => Checked.broken .textValue

/-- Reads one of several named values. -/
def toChoice (named : String → Option α) : Datum → Checked α
  | .text value =>
      match named value with
      | some choice => .sound choice
      | none => Checked.broken .choice
  | _ => Checked.broken .choice

/-- Reads a value that may be nothing. -/
def toOption (read : Datum → Checked α) : Datum → Checked (Option α)
  | .null => .sound none
  | value => some <$> read value

/-! ## Lists -/

/-- Reads the items of a list from a position on. -/
def readItems (read : Datum → Checked α) : Nat → List Datum → Checked (List α)
  | _, [] => .sound []
  | position, item :: rest =>
      List.cons <$> (read item).within (.index position) <*> readItems read (position + 1) rest

/-- Reads a list, whose kind of list gives the rule for other values. -/
def toList (rule : Rule) (read : Datum → Checked α) : Datum → Checked (List α)
  | .list items => readItems read 0 items
  | _ => Checked.broken rule

/-! ## Fields -/

/-- Reads a field that must be there. -/
def field (source : Datum) (key : String) (read : Datum → Checked α) : Checked α :=
  match source.get? key with
  | some value => (read value).within (.key key)
  | none => (Checked.broken .present).within (.key key)

/-- Reads a field that may be left out. -/
def fieldOr (source : Datum) (key : String) (fallback : α) (read : Datum → Checked α) :
    Checked α :=
  match source.get? key with
  | some value => (read value).within (.key key)
  | none => .sound fallback

/-- Reads the fields of a table; any other value breaks the given rule. -/
def fields (rule : Rule) (read : Datum → Checked α) : Datum → Checked α
  | .table entries => read (.table entries)
  | _ => Checked.broken rule

end Datum

end Tabletop
