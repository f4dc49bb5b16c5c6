/-!
Numbers of the binary format with 53 significant bits, held exactly. A finite one is a whole number
of units, a unit being a power of two; sums of this library are done in integers and rounded to the
nearest such number, a tie to the even one.
-/

namespace Tabletop

/-- A number of the format. -/
inductive Binary where
  /-- The number of units of size `2 ^ exponent`, with its sign. -/
  | finite (negative : Bool) (units : Nat) (exponent : Int)
  | infinite (negative : Bool)
  /-- The result of an undefined operation. -/
  | undefined
deriving DecidableEq, Repr

namespace Binary

/-! ## Rounding -/

/-- The whole number nearest to a quotient, a tie going to the even one. -/
def roundQuotient (num den : Nat) : Nat :=
  let whole := num / den
  let rest := num % den
  if 2 * rest < den || (2 * rest == den && whole % 2 == 0) then whole else whole + 1

/-- The quotient of two numbers in units of size `2 ^ exponent`, rounded. -/
def unitsOf (num den : Nat) (exponent : Int) : Nat :=
  if 0 ≤ exponent then roundQuotient num (den * Nat.pow 2 exponent.toNat)
  else roundQuotient (num * Nat.pow 2 (-exponent).toNat) den

/-- The exponent of the greatest power of two that is no greater than a quotient. -/
def leadingExponent (num den : Nat) : Int :=
  let guess := (num.log2 : Int) - den.log2
  let reached :=
    if 0 ≤ guess then den * Nat.pow 2 guess.toNat ≤ num
    else den ≤ num * Nat.pow 2 (-guess).toNat
  if reached then guess else guess - 1

/-- The number nearest to the quotient of two positive numbers: 53 significant bits, but no unit
below `2 ^ (-1074)`; what rounds to `2 ^ 1024` or more is infinite. -/
def nearest (negative : Bool) (num den : Nat) : Binary :=
  if num = 0 then .finite negative 0 0
  else
    let exponent := max (-1074) (leadingExponent num den - 52)
    let units := unitsOf num den exponent
    if 1024 ≤ exponent + units.log2 then .infinite negative
    else .finite negative units exponent

/-- The number nearest to a whole number. -/
def ofInt (n : Int) : Binary :=
  nearest (n < 0) n.natAbs 1

/-- The number nearest to a decimal fraction `digits * 10 ^ exponent`. -/
def ofDecimal (negative : Bool) (digits : Nat) (exponent : Int) : Binary :=
  if digits = 0 then .finite negative 0 0
  else if 400 < (Nat.toDigits 10 digits).length + exponent then .infinite negative
  else if (Nat.toDigits 10 digits).length + exponent < -400 then .finite negative 0 0
  else if 0 ≤ exponent then nearest negative (digits * Nat.pow 10 exponent.toNat) 1
  else nearest negative digits (Nat.pow 10 (-exponent).toNat)

/-! ## Arithmetic -/

/-- A quotient of whole numbers equal to so many units. -/
def fraction (units : Nat) (exponent : Int) : Nat × Nat :=
  if 0 ≤ exponent then (units * Nat.pow 2 exponent.toNat, 1)
  else (units, Nat.pow 2 (-exponent).toNat)

/-- The rounded product. -/
def mul : Binary → Binary → Binary
  | .finite s m e, .finite t n f =>
      let (num, den) := fraction (m * n) (e + f)
      nearest (s != t) num den
  | .finite s m _, .infinite t => if m = 0 then .undefined else .infinite (s != t)
  | .infinite s, .finite t n _ => if n = 0 then .undefined else .infinite (s != t)
  | .infinite s, .infinite t => .infinite (s != t)
  | .undefined, _ => .undefined
  | _, .undefined => .undefined

/-- The whole part of a finite number: its fraction is dropped. -/
def truncate? : Binary → Option Int
  | .finite negative units exponent =>
      let (num, den) := fraction units exponent
      some (if negative then -((num / den : Nat) : Int) else ((num / den : Nat) : Int))
  | _ => none

/-- The value of a finite number without a fraction. -/
def whole? : Binary → Option Int
  | .finite negative units exponent =>
      let (num, den) := fraction units exponent
      if num % den = 0 then
        some (if negative then -((num / den : Nat) : Int) else ((num / den : Nat) : Int))
      else none
  | _ => none

/-- Whether a number is zero, of either sign. -/
def isZero : Binary → Bool
  | .finite _ units _ => units == 0
  | _ => false

end Binary

end Tabletop
