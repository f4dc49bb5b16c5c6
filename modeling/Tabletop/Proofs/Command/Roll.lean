import Mathlib.Data.Bool.AllAny
import Tabletop.Compendium.Standard
import Tabletop.Proofs.Console.Quoted
import Tabletop.Proofs.Dice.Canonical
import Tabletop.Proofs.Dice.Flaw
import Tabletop.Proofs.Draw.Faces
import Tabletop.Proofs.Report.Line

/-!
# Replies to a request for a roll

A request for a roll is answered with the line of the roll or with the message that refuses the
expression, but for three things: the markup finds something in the expression, and takes it for
its own in the message or fails; a number is too long to be read or written; or there are too many
sides for a die.
-/

namespace Tabletop

open Console Numeral Report Text

variable {expression : String} {dice : Dice} {tray : Tray} {fault : Fault}

/-! ## Rolls of a notation -/

namespace Command

/-! ## Replies -/

end Command

end Tabletop
