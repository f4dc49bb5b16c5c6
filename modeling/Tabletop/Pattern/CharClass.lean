import Tabletop.Text.Blank
import Tabletop.Text.Case
import Tabletop.Text.Digit
import Tabletop.Text.Word

/-!
The sets of characters that a place of a pattern can ask for.
-/

namespace Tabletop

/-- A set of characters. Letters are taken without regard to case. -/
inductive CharClass where
  /-- One plain character, or a letter in any case. -/
  | like (c : Char)
  /-- The letters from `a` to `z`. -/
  | letter
  /-- The decimal digits of every script. -/
  | digit
  /-- White space. -/
  | blank
  /-- White space and the hyphen. -/
  | dash
  | oneOf (cs : List Char)
  | except (c : Char)
deriving DecidableEq, Repr

namespace CharClass

/-- Whether a set holds a character. -/
def holds : CharClass → Char → Bool
  | .like c, x => Text.fold x == c
  | .letter, x => (Text.fold x).isLower
  | .digit, x => Text.isDigit x
  | .blank, x => Text.isBlank x
  | .dash, x => Text.isBlank x || x == '-'
  | .oneOf cs, x => cs.contains x
  | .except c, x => x != c

end CharClass

end Tabletop
