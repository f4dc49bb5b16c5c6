/-!
White space of every script: trimming it off the ends of a text and splitting a text into words
at it.
-/

namespace Tabletop.Text

/-- White space: the separators of every script, the line breaks and the four information
separators. -/
def isBlank (c : Char) : Bool :=
  let code := c.toNat
  (0x09 ≤ code && code ≤ 0x0d) || (0x1c ≤ code && code ≤ 0x20) || code == 0x85 || code == 0xa0 ||
    code == 0x1680 || (0x2000 ≤ code && code ≤ 0x200a) || code == 0x2028 || code == 0x2029 ||
    code == 0x202f || code == 0x205f || code == 0x3000

/-- White space as numbers are surrounded by it: all but the four information separators. -/
def isSpace (c : Char) : Bool :=
  isBlank c && !(0x1c ≤ c.toNat && c.toNat ≤ 0x1f)

/-- A text that may be missing, unless it is empty. -/
def nonEmpty? (text : Option String) : Option String :=
  text.filter fun text => !text.isEmpty

/-- Drops the characters of a class from both ends. -/
def trimBy (drops : Char → Bool) (text : List Char) : List Char :=
  ((text.dropWhile drops).reverse.dropWhile drops).reverse

/-- Drops white space from both ends. -/
def trim (text : List Char) : List Char :=
  trimBy isBlank text

/-- Splits off the words of a text, given the letters of the word under way, last first. -/
def wordsFrom : List Char → List Char → List (List Char)
  | [], [] => []
  | letters, [] => [letters.reverse]
  | letters, c :: rest =>
      if isBlank c then
        if letters.isEmpty then wordsFrom [] rest else letters.reverse :: wordsFrom [] rest
      else wordsFrom (c :: letters) rest

/-- The words of a text: its longest stretches without white space. -/
def words (text : List Char) : List (List Char) :=
  wordsFrom [] text

end Tabletop.Text
