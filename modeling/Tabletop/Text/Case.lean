import Tabletop.Text.Case.Context
import Tabletop.Text.Case.Lowered
import Tabletop.Text.Case.Titled

/-!
Case of texts. Lower-casing follows the full mapping: a dotted capital I becomes an i with a
combining dot, and a capital sigma at the end of a word becomes a final sigma. Folding is the
coarser comparison under which prompts are recognised: a character folds to the plain letter that
it matches when case is ignored.
-/

namespace Tabletop.Text

/-! ## Folding -/

/-- The plain letter that a character counts as when case is ignored. Beyond the capitals, the long
s, the Kelvin sign and the dotted capital and dotless small I count as plain letters. -/
def fold (c : Char) : Char :=
  if c.toNat < 128 then c.toLower
  else match c with
    | '\u017f' => 's'
    | '\u212a' => 'k'
    | '\u0130' => 'i'
    | '\u0131' => 'i'
    | other => other

/-! ## Lower case -/

/-- Whether a capital sigma ends a word, given what precedes it, nearest first, and what follows. -/
def endsWord (before after : List Char) : Bool :=
  ((before.dropWhile isPassedOver).head?.any isCased) &&
    !((after.dropWhile isPassedOver).head?.any isCased)

/-- The lower-case form of one character where no neighbour matters. -/
def lowerChar (c : Char) : List Char :=
  if c.toNat < 128 then [c.toLower]
  else if c = '\u0130' then ['i', '\u0307']
  else [shiftCase loweredTable c]

/-- The lower-case form of a character between its neighbours. -/
def lowerBetween (before : List Char) (c : Char) (after : List Char) : List Char :=
  if c = '\u03a3' then [if endsWord before after then '\u03c2' else '\u03c3'] else lowerChar c

/-- Lower-cases a text, given the characters that precede it, nearest first. -/
def lowerAfter : List Char → List Char → List Char
  | _, [] => []
  | before, c :: rest => lowerBetween before c rest ++ lowerAfter (c :: before) rest

/-- The lower-case form of a text. -/
def lower (text : String) : String :=
  String.ofList (lowerAfter [] text.toList)

/-! ## Title case -/

/-- The form of a character at the head of a capitalised word. -/
def titleChar (c : Char) : List Char :=
  if c.toNat < 128 then [c.toUpper]
  else match titledExpansions.lookup c.toNat with
    | some codes => codes.map Char.ofNat
    | none => [shiftCase titledTable c]

/-- Capitalises each word, given the characters before it, nearest first: a letter after a cased
character is lower case, any other has its title form. -/
def titleAfter : List Char → List Char → List Char
  | _, [] => []
  | before, c :: rest =>
      (if before.head?.any isCased then lowerBetween before c rest else titleChar c)
        ++ titleAfter (c :: before) rest

/-- A text with each of its words capitalised. -/
def title (text : String) : String :=
  String.ofList (titleAfter [] text.toList)

end Tabletop.Text
