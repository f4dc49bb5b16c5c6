import Tabletop.Proofs.Text.Digit

/-!
# Numbers in writing

A whole number is written in plain digits. They are a run of digits with the number as its value,
and the run is short enough to be read exactly if the number is short enough to be written.
-/

namespace Tabletop.Numeral

open Text

theorem digitValue?_of_plain {c : Char} (plain : c.isDigit = true) :
    digitValue? c = some (c.toNat - '0'.toNat) := by
  have bounds : 48 ≤ c.toNat ∧ c.toNat ≤ 57 := by
    simpa [Char.isDigit, UInt32.le_iff_toNat_le] using plain
  have small : c.toNat < 128 := by omega
  rw [digitValue?, if_pos small, if_pos plain]
  rfl

theorem isRun_toDigits (n : Nat) : IsRun (Nat.toDigits 10 n) := by
  constructor
  · exact Nat.toDigits_ne_nil
  · intro c member
    have plain : c.isDigit = true :=
      Nat.isDigit_of_mem_toDigits (by decide) (by decide) member
    rw [isDigit, digitValue?_of_plain plain]
    rfl

/-- Plain digits have the value that they have in the decimal system. -/
theorem foldl_value_of_plain
    {digits : List Char} (plain : ∀ c ∈ digits, c.isDigit = true) (sum : Nat) :
    digits.foldl (fun sum c => 10 * sum + (digitValue? c).getD 0) sum =
      Nat.ofDigitChars 10 digits sum := by
  induction digits generalizing sum with
  | nil => rfl
  | cons c digits inductionHypothesis =>
      have first : digitValue? c = some (c.toNat - '0'.toNat) :=
        digitValue?_of_plain (plain c (by simp))
      have rest : ∀ other ∈ digits, other.isDigit = true :=
        fun other member => plain other (List.mem_cons_of_mem c member)
      rw [List.foldl_cons, first, Nat.ofDigitChars_cons]
      exact inductionHypothesis rest _

theorem value_toDigits (n : Nat) : value (Nat.toDigits 10 n) = n := by
  have plain : ∀ c ∈ Nat.toDigits 10 n, c.isDigit = true :=
    fun c member => Nat.isDigit_of_mem_toDigits (by decide) (by decide) member
  rw [value, foldl_value_of_plain plain]
  exact Nat.ofDigitChars_toDigits (by decide) (by decide)

theorem length_toDigits_le_iff (n : Nat) :
    (Nat.toDigits 10 n).length ≤ digitLimit ↔ isWritable n = true := by
  rw [isWritable_iff, Int.natAbs_natCast]
  exact Nat.length_toDigits_le_iff (by decide) (by decide)

theorem isWritable_natAbs (n : Int) : isWritable n.natAbs = isWritable n := by
  rw [isWritable, isWritable, Int.natAbs_natCast]

/-! ## Texts -/

theorem toList_toString (n : Nat) : (toString n).toList = Nat.toDigits 10 n := by
  rw [Nat.toString_eq_repr, Nat.toList_repr]

/-- A number with its sign is the sign and the digits of its magnitude. -/
theorem toList_withSign (n : Int) :
    (withSign n).toList = (if n < 0 then '-' else '+') :: Nat.toDigits 10 n.natAbs := by
  cases n with
  | ofNat magnitude =>
      have nonnegative : ¬Int.ofNat magnitude < 0 := Int.not_lt.2 (Int.natCast_nonneg magnitude)
      have same : toString (Int.ofNat magnitude) = toString magnitude := rfl
      rw [withSign, if_neg nonnegative, if_neg nonnegative, same, String.toList_append,
        toList_toString]
      rfl
  | negSucc less =>
      have negative : Int.negSucc less < 0 := Int.negSucc_lt_zero less
      have same : toString (Int.negSucc less) = "-" ++ toString (less + 1) := rfl
      rw [withSign, if_pos negative, if_pos negative, same, String.toList_append,
        toList_toString]
      rfl

theorem signed_natAbs (n : Int) : signed (decide (n < 0)) n.natAbs = n := by
  by_cases negative : n < 0
  · rw [decide_eq_true negative, signed, if_pos rfl]
    omega
  · rw [decide_eq_false negative, signed, if_neg Bool.false_ne_true]
    omega

end Tabletop.Numeral
