/-!
Sums of lists of integers and of natural numbers.
-/

namespace Tabletop

/-- The sum of some integers. -/
def sumInts (numbers : List Int) : Int :=
  numbers.foldr (fun number rest => number + rest) 0

/-- The sum of some natural numbers. -/
def sumNats (numbers : List Nat) : Nat :=
  numbers.foldr (fun number rest => number + rest) 0

@[simp]
theorem sumInts_nil : sumInts [] = 0 := rfl

@[simp]
theorem sumInts_cons (number : Int) (rest : List Int) :
    sumInts (number :: rest) = number + sumInts rest := rfl

theorem sumInts_append (one other : List Int) :
    sumInts (one ++ other) = sumInts one + sumInts other := by
  induction one with
  | nil => simp
  | cons number rest inductive_step =>
      rw [List.cons_append, sumInts_cons, sumInts_cons, inductive_step]
      omega

end Tabletop
