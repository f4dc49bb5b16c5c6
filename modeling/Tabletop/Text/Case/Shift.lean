/-!
Case mappings kept as runs of code points that move by one distance.
-/

namespace Tabletop.Text

/-- Every `stride`-th code point from `first` to `last` moves as `first` moves to `image`. -/
structure CaseShift where
  first : Nat
  last : Nat
  stride : Nat
  image : Nat

/-- The image of a code point under a run, if the run moves it. -/
def CaseShift.apply? (run : CaseShift) (code : Nat) : Option Nat :=
  if run.first ≤ code && code ≤ run.last && (code - run.first) % run.stride == 0 then
    some (run.image + (code - run.first))
  else none

/-- The image of a character under the first run that moves it. -/
def shiftCase (runs : List CaseShift) (c : Char) : Char :=
  ((runs.findSome? fun run => run.apply? c.toNat).map Char.ofNat).getD c

end Tabletop.Text
