import Tabletop.Console.Lines
import Tabletop.Proofs.Text.Blank

/-!
# What lines keep of a text

Breaking a text into lines takes nothing away but white space, unless a word is too wide for a line
and is cut. Where wide words go on in the next line no line is cut.
-/

namespace Tabletop.Console

open Tabletop.Text

variable {text line word rest opening closing : List Char} {words : List (List Char)}
  {lines : List (List Char)} {c : Char} {limit position : Nat} {overflow : Overflow}

/-! ## Solid characters -/

/-- A text without its white space. -/
def solid (text : List Char) : List Char :=
  text.filter (!isBlank ·)

/-- A line that takes so many cells at most without the white space at its end. -/
def Fits (limit : Nat) (line : List Char) : Prop :=
  width (trimEnd line) ≤ limit

end Tabletop.Console
