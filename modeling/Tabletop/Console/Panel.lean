import Tabletop.Console.Table

/-!
Panels on the console: a text without markup in a frame with a title.
-/

namespace Tabletop.Console

open Tabletop.Text

/-- A text in a frame. -/
structure Panel where
  title : String
  text : String
  /-- The cells from edge to edge. The frame is never narrower than its title. -/
  width : Nat
deriving DecidableEq, Repr

namespace Panel

/-- The title with a space on both sides. -/
def shownTitle (panel : Panel) : List Char :=
  ' ' :: panel.title.toList ++ [' ']

/-- The cells between the edges. -/
def innerWidth (panel : Panel) : Nat :=
  min (consoleWidth - 2) (max (min consoleWidth panel.width - 2) (Text.width panel.shownTitle + 2))

/-- The upper edge, with the title in its middle, the odd cell on its right. -/
def topEdge (panel : Panel) : List Char :=
  let spare := panel.innerWidth - 2 - Text.width panel.shownTitle
  let line (cells : Nat) := List.replicate cells '─'
  ['╭', '─'] ++ line (spare / 2) ++ panel.shownTitle ++ line (spare - spare / 2) ++ ['─', '╮']

/-- The lower edge. -/
def bottomEdge (panel : Panel) : List Char :=
  '╰' :: List.replicate panel.innerWidth '─' ++ ['╯']

/-- A line of the text between the edges. -/
def framed (panel : Panel) (line : List Char) : List Char :=
  ['│', ' '] ++ padEnd (panel.innerWidth - 2) line ++ [' ', '│']

/-- The lines of a panel. -/
def lines (panel : Panel) : List (List Char) :=
  let text := panel.text.toList.filter (!isSilent ·)
  [panel.topEdge] ++ (wrapText .fold (panel.innerWidth - 2) text).map panel.framed ++
    [panel.bottomEdge]

end Panel

end Tabletop.Console
