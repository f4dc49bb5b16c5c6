import Tabletop.Binary

/-!
The shortest decimal text of a binary number: the fewest digits that read back as the number, and
of those the nearest to it; positional from `10 ^ (-4)` up to `10 ^ 16`, with an exponent of at
least two digits beyond.
-/

namespace Tabletop.Binary

/-- The power of ten just above a positive quotient: `10 ^ (k - 1) ≤ num / den < 10 ^ k`. -/
def decimalPoint (num den : Nat) : Int :=
  let guess : Int := (Nat.toDigits 10 num).length - (Nat.toDigits 10 den).length
  let reached :=
    if 0 ≤ guess then den * Nat.pow 10 guess.toNat ≤ num
    else den ≤ num * Nat.pow 10 (-guess).toNat
  if reached then guess + 1 else guess

/-- Whether `count * 10 ^ place` reads as the number `num / den`. -/
def readsBack (num den count : Nat) (place : Int) : Bool :=
  match ofDecimal false count place with
  | .finite _ units exponent =>
      let (readNum, readDen) := fraction units exponent
      readNum * den == num * readDen
  | _ => false

/-- The two neighbours of a quotient on the grid of the multiples of `10 ^ place`, the nearer
first. -/
def neighbours (num den : Nat) (place : Int) : List Nat :=
  let scaledNum := if 0 ≤ place then num else num * Nat.pow 10 (-place).toNat
  let scaledDen := if 0 ≤ place then den * Nat.pow 10 place.toNat else den
  let low := scaledNum / scaledDen
  let rest := scaledNum % scaledDen
  if 2 * rest < scaledDen || (2 * rest == scaledDen && low % 2 == 0) then [low, low + 1]
  else [low + 1, low]

/-- The shortest decimal that reads back, as a count of units `10 ^ place`; seventeen digits always
do. -/
def shortest (num den : Nat) : Nat × Int :=
  let point := decimalPoint num den
  let found := (List.range 17).findSome? fun fewer : Nat =>
    let place : Int := point - (fewer + 1 : Nat)
    ((neighbours num den place).find? fun count => readsBack num den count place).map (·, place)
  found.getD (0, 0)

/-- Digits with the decimal point after so many of them. -/
def positional (digits : List Char) (point : Int) : List Char :=
  if point ≤ 0 then '0' :: '.' :: (List.replicate (-point).toNat '0' ++ digits)
  else
    let whole := digits.take point.toNat
    let tail := digits.drop point.toNat
    whole ++ List.replicate (point.toNat - whole.length) '0' ++ '.' ::
      (if tail.isEmpty then ['0'] else tail)

/-- Digits with an exponent of ten. -/
def scientific (digits : List Char) (exponent : Int) : List Char :=
  let size := Nat.toDigits 10 exponent.natAbs
  digits.take 1 ++ (if digits.length ≤ 1 then [] else '.' :: digits.drop 1) ++
    'e' :: (if exponent < 0 then '-' else '+') :: (List.replicate (2 - size.length) '0' ++ size)

/-- The text of a number. -/
def shown : Binary → String
  | .finite negative units exponent =>
      let sign := if negative then ['-'] else []
      let body :=
        if units = 0 then ['0', '.', '0']
        else
          let (num, den) := fraction units exponent
          let (count, place) := shortest num den
          let written := Nat.toDigits 10 count
          let point : Int := written.length + place
          let digits := (written.reverse.dropWhile (· == '0')).reverse
          if -4 < point && point ≤ 16 then positional digits point
          else scientific digits (point - 1)
      String.ofList (sign ++ body)
  | .infinite negative => if negative then "-inf" else "inf"
  | .undefined => "nan"

end Tabletop.Binary
