import Tabletop.Console.Panel

/-!
What is printed on the console. White space at the ends of lines and empty lines at the end do not
count.
-/

namespace Tabletop.Console

/-- The lines of a printed text, which may hold markup. -/
def printed (text : String) : Except Fault (List (List Char)) :=
  wrapText .fold consoleWidth <$> shownMarkup text

/-- Printed lines without white space at their ends and without empty lines after them. -/
def plainLines (lines : List (List Char)) : List String :=
  let trimmed := lines.map trimEnd
  ((trimmed.reverse.dropWhile List.isEmpty).reverse).map String.ofList

end Tabletop.Console
