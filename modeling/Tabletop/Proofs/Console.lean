import Tabletop.Console
import Tabletop.Proofs.Console.Lines
import Tabletop.Proofs.Console.Markup

/-!
# What is printed of marked text

Marked text is printed or refused. Where it is printed, the characters that leave a mark are all
there exactly if the markup finds nothing in the text.
-/

namespace Tabletop.Console

open Tabletop.Text

variable {text shown : List Char} {lines : List (List Char)} {openTags : List String}

end Tabletop.Console
