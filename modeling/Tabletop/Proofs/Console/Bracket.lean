import Tabletop.Proofs.Console

/-!
# Text in brackets

A text that ends in its only closing bracket holds at most one tag, from its last opening bracket
on. It is refused if this tag closes another one, and so closes nothing, unless a backslash makes it
plain.
-/

namespace Tabletop.Console

open Tabletop.Text

variable {text opening body rest : List Char} {before : Nat} {c : Char}

/-- How many backslashes stand at the end of a text. -/
def slashes (text : List Char) : Nat :=
  (text.reverse.takeWhile (· == '\\')).length

end Tabletop.Console
