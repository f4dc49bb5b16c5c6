import Tabletop.Text.Blank
import Tabletop.Text.Width

/-!
Lines of bounded width. A text is broken between its words; white space that a break leaves at the
end of a line is dropped as far as it does not fit.
-/

namespace Tabletop.Console

open Tabletop.Text

/-- What becomes of a word that is wider than a line. -/
inductive Overflow where
  /-- It goes on in the next line. -/
  | fold
  /-- It is cut off and ends in an ellipsis. -/
  | ellipsis
deriving DecidableEq, Repr

/-! ## Tabs -/

/-- The distance between tab stops. -/
def tabStop : Nat := 8

/-- A line with spaces up to the next tab stop in place of each tab, given the cells before it. -/
def expandTabs : Nat → List Char → List Char
  | _, [] => []
  | position, c :: rest =>
      if c = '\t' then
        let spaces := tabStop - position % tabStop
        List.replicate spaces ' ' ++ expandTabs (position + spaces) rest
      else c :: expandTabs (position + cellsOf c) rest

/-! ## Breaking -/

/-- Drops white space from the end. -/
def trimEnd (text : List Char) : List Char :=
  (text.reverse.dropWhile isBlank).reverse

/-- Splits a line into its words, given the letters of the word under way, last first, and whether
white space has followed them. A word keeps the white space after it, and the first one the white
space before it. -/
def spacedWordsFrom : List Char → Bool → List Char → List (List Char)
  | word, _, [] => if word.isEmpty then [] else [word.reverse]
  | word, spaced, c :: rest =>
      if isBlank c then
        spacedWordsFrom (c :: word) (spaced || word.head?.any (!isBlank ·)) rest
      else if spaced then word.reverse :: spacedWordsFrom [c] false rest
      else spacedWordsFrom (c :: word) false rest

/-- The words of a line with the white space between them. -/
def spacedWords (line : List Char) : List (List Char) :=
  spacedWordsFrom [] false line

/-- Cuts a text into stretches of so many cells at most, given the stretch under way, last character
first, and its cells. -/
def foldFrom (limit : Nat) : List Char → Nat → List Char → List (List Char)
  | piece, _, [] => [piece.reverse]
  | piece, cells, c :: rest =>
      if limit < cells + cellsOf c && !piece.isEmpty then
        piece.reverse :: foldFrom limit [c] (cellsOf c) rest
      else foldFrom limit (c :: piece) (cells + cellsOf c) rest

/-- The pieces into which a word too wide for a line is broken. -/
def wideWordPieces (overflow : Overflow) (limit : Nat) (word : List Char) : List (List Char) :=
  match overflow with
  | .fold => foldFrom limit [] 0 word
  | .ellipsis => [word]

/-- Adds a line to those that follow, unless it is empty. -/
def pushLine (line : List Char) (rest : List (List Char)) : List (List Char) :=
  if line.isEmpty then rest else line :: rest

/-- Fills lines with words, given the line under way: a word that does not fit opens a new line. -/
def fillLines (overflow : Overflow) (limit : Nat) : List Char → List (List Char) → List (List Char)
  | line, [] => [line]
  | line, word :: rest =>
      let needed := width (trimEnd word)
      if width line + needed ≤ limit then fillLines overflow limit (line ++ word) rest
      else if limit < needed then
        let pieces := wideWordPieces overflow limit word
        pushLine line
          (pieces.dropLast ++ fillLines overflow limit (pieces.getLastD []) rest)
      else pushLine line (fillLines overflow limit word rest)

/-! ## Cutting -/

/-- The longest beginning of a text in so many cells. -/
def takeCells : Nat → List Char → List Char
  | _, [] => []
  | limit, c :: rest =>
      if cellsOf c ≤ limit then c :: takeCells (limit - cellsOf c) rest else []

/-- A text with spaces after it up to so many cells. -/
def padEnd (limit : Nat) (text : List Char) : List Char :=
  text ++ List.replicate (limit - width text) ' '

/-- A text with spaces before it up to so many cells. -/
def padStart (limit : Nat) (text : List Char) : List Char :=
  List.replicate (limit - width text) ' ' ++ text

/-- Drops white space from the end of a line that has more characters than fit. -/
def trimExcess (limit : Nat) (line : List Char) : List Char :=
  let spaces := line.length - (trimEnd line).length
  line.take (line.length - min spaces (line.length - limit))

/-- Cuts a line to so many cells. -/
def cutLine (overflow : Overflow) (limit : Nat) (line : List Char) : List Char :=
  if width line ≤ limit then line
  else match overflow with
    | .fold => padEnd limit (takeCells limit line)
    | .ellipsis => padEnd (limit - 1) (takeCells (limit - 1) line) ++ ['…']

/-! ## Wrapping -/

/-- The lines of one paragraph. -/
def wrapParagraph (overflow : Overflow) (limit : Nat) (paragraph : List Char) : List (List Char) :=
  (fillLines overflow limit [] (spacedWords (expandTabs 0 paragraph))).map (trimExcess limit)

/-- The lines of a text, each of so many cells at most. -/
def wrapText (overflow : Overflow) (limit : Nat) (text : List Char) : List (List Char) :=
  ((text.splitOn '\n').flatMap (wrapParagraph overflow limit)).map (cutLine overflow limit)

end Tabletop.Console
