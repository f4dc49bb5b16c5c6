import Tabletop.Fault

/-!
The small parts of a TOML document: blanks, comments, strings and keys. Each function reads its part
off the head of the text and gives the rest.
-/

namespace Tabletop.Toml

/-- What is read off the head of a text, and the rest. -/
abbrev Split (α : Type) := α × List Char

/-- The text is no TOML. -/
def bad {α : Type} : Except Fault α :=
  .error .malformedToml

/-! ## Blanks and comments -/

/-- Blanks within a line. -/
def isInlineBlank (c : Char) : Bool :=
  c == ' ' || c == '\t'

/-- Blanks and line breaks. -/
def isAnyBlank (c : Char) : Bool :=
  isInlineBlank c || c == '\n'

/-- Control characters other than the tab, which stand in no comment and no one-line string. -/
def isControl (c : Char) : Bool :=
  (c.toNat < 32 && c != '\t') || c.toNat == 127

/-- Control characters that stand in no string of several lines. -/
def isControlBeyondLines (c : Char) : Bool :=
  isControl c && c != '\n'

/-- Skips the blanks within a line. -/
def skipInline (text : List Char) : List Char :=
  text.dropWhile isInlineBlank

/-- Skips a comment, up to the end of its line. -/
def skipComment : List Char → Except Fault (List Char)
  | '#' :: rest =>
      if (rest.takeWhile (· != '\n')).any isControl then bad
      else .ok (rest.dropWhile (· != '\n'))
  | text => .ok text

/-- Skips blanks, line breaks and comments; a line break ends each comment, so that so many steps
as there are characters will do. -/
def skipBetween : Nat → List Char → Except Fault (List Char)
  | 0, text => .ok text
  | steps + 1, text => do
      match text.dropWhile isAnyBlank with
      | '#' :: rest => skipBetween steps (← skipComment ('#' :: rest))
      | other => .ok other

/-! ## Strings -/

/-- The characters that stand for others after a backslash. -/
def escapes : List (Char × Char) :=
  [('b', '\x08'), ('t', '\t'), ('n', '\n'), ('f', '\x0c'), ('r', '\r'), ('"', '"'), ('\\', '\\')]

/-- The value of a hexadecimal digit. -/
def hexValue? (c : Char) : Option Nat :=
  if c.isDigit then some (c.toNat - 48)
  else if 'a' ≤ c && c ≤ 'f' then some (c.toNat - 87)
  else if 'A' ≤ c && c ≤ 'F' then some (c.toNat - 55)
  else none

/-- The character with a code of so many hexadecimal digits. -/
def hexChar (size : Nat) (text : List Char) : Except Fault (Split Char) :=
  match (text.take size).mapM hexValue? with
  | none => bad
  | some values =>
      let code := values.foldl (fun sum value => 16 * sum + value) 0
      if values.length = size && code.isValidChar then .ok (Char.ofNat code, text.drop size)
      else bad

/-- What a backslash stands for, given the text after it. In a string of several lines a backslash
at the end of a line takes the blanks that follow with it. -/
def escaped (lines : Bool) : List Char → Except Fault (Split (List Char))
  | 'u' :: rest => do
      let (c, rest) ← hexChar 4 rest
      .ok ([c], rest)
  | 'U' :: rest => do
      let (c, rest) ← hexChar 8 rest
      .ok ([c], rest)
  | c :: rest =>
      if lines && isAnyBlank c then
        match skipInline (c :: rest) with
        | [] => .ok ([], [])
        | '\n' :: rest => .ok ([], rest.dropWhile isAnyBlank)
        | _ => bad
      else match escapes.lookup c with
        | some meant => .ok ([meant], rest)
        | none => bad
  | [] => bad

/-- The rest of a string in double quotes; so many steps as there are characters will do. -/
def basicString (lines : Bool) : Nat → List Char → Except Fault (Split (List Char))
  | 0, _ => bad
  | _, [] => bad
  | steps + 1, '"' :: rest =>
      if !lines then .ok ([], rest)
      else match rest with
        | '"' :: '"' :: rest => .ok ([], rest)
        | _ => do
            let (text, rest) ← basicString lines steps rest
            .ok ('"' :: text, rest)
  | steps + 1, '\\' :: rest => do
      let (meant, rest) ← escaped lines rest
      let (text, rest) ← basicString lines steps rest
      .ok (meant ++ text, rest)
  | steps + 1, c :: rest =>
      if (if lines then isControlBeyondLines c else isControl c) then bad
      else do
        let (text, rest) ← basicString lines steps rest
        .ok (c :: text, rest)

/-- The rest of a one-line string in single quotes. -/
def literalString (text : List Char) : Except Fault (Split (List Char)) :=
  let body := text.takeWhile (· != '\'')
  match text.dropWhile (· != '\'') with
  | _ :: rest => if body.any isControl then bad else .ok (body, rest)
  | [] => bad

/-- The rest of a string of several lines in single quotes. -/
def literalLines : List Char → Except Fault (Split (List Char))
  | '\'' :: '\'' :: '\'' :: rest => .ok ([], rest)
  | c :: rest =>
      if isControlBeyondLines c then bad
      else do
        let (text, rest) ← literalLines rest
        .ok (c :: text, rest)
  | [] => bad

/-- Takes up to two quotes that directly follow the end of a string of several lines into the
string. -/
def closingQuotes (quote : Char) (text rest : List Char) : List Char × List Char :=
  let more := (rest.take 2).takeWhile (· == quote)
  (text ++ more, rest.drop more.length)

/-- Drops a line break at the head of a string of several lines. -/
def dropLineBreak : List Char → List Char
  | '\n' :: rest => rest
  | text => text

/-- A string in quotes of any kind, if the text opens with one. -/
def anyString? : List Char → Option (Except Fault (Split String))
  | '"' :: '"' :: '"' :: rest => some do
      let body := dropLineBreak rest
      let (text, rest) ← basicString true (body.length + 1) body
      let (text, rest) := closingQuotes '"' text rest
      .ok (String.ofList text, rest)
  | '"' :: rest => some do
      let (text, rest) ← basicString false (rest.length + 1) rest
      .ok (String.ofList text, rest)
  | '\'' :: '\'' :: '\'' :: rest => some do
      let (text, rest) ← literalLines (dropLineBreak rest)
      let (text, rest) := closingQuotes '\'' text rest
      .ok (String.ofList text, rest)
  | '\'' :: rest => some do
      let (text, rest) ← literalString rest
      .ok (String.ofList text, rest)
  | _ => none

/-! ## Keys -/

/-- The characters of a key without quotes. -/
def isBare (c : Char) : Bool :=
  c.isAlphanum || c == '-' || c == '_'

/-- One part of a key. -/
def keyPart (text : List Char) : Except Fault (Split String) :=
  match text with
  | '"' :: rest => do
      let (part, rest) ← basicString false (rest.length + 1) rest
      .ok (String.ofList part, rest)
  | '\'' :: rest => do
      let (part, rest) ← literalString rest
      .ok (String.ofList part, rest)
  | text =>
      let part := text.takeWhile isBare
      if part.isEmpty then bad else .ok (String.ofList part, text.dropWhile isBare)

/-- A key, its parts divided by points; so many steps as there are characters will do. -/
def key : Nat → List Char → Except Fault (Split (List String))
  | 0, _ => bad
  | steps + 1, text => do
      let (part, rest) ← keyPart text
      match skipInline rest with
      | '.' :: rest => do
          let (parts, rest) ← key steps (skipInline rest)
          .ok (part :: parts, rest)
      | rest => .ok ([part], rest)

end Tabletop.Toml
