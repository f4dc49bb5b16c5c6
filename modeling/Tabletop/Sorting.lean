/-!
Sorting that keeps the order of equal items.
-/

namespace Tabletop

variable {α : Type}

/-- Puts an item in front of the first one that it may precede. -/
def insertBy (precedes : α → α → Bool) (item : α) : List α → List α
  | [] => [item]
  | head :: rest =>
      if precedes item head then item :: head :: rest
      else head :: insertBy precedes item rest

/-- Sorts items; of two that may precede one another the one that came first stays first. -/
def sortBy (precedes : α → α → Bool) (items : List α) : List α :=
  items.foldr (insertBy precedes) []

/-- Puts longer texts first. -/
def longestFirst (texts : List String) : List String :=
  sortBy (fun one other => other.length ≤ one.length) texts

end Tabletop
