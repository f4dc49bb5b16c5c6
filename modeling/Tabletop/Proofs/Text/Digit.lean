import Mathlib.Algebra.Group.Nat.Defs
import Tabletop.Fault

/-!
# Decimal digits

What all decimal digits have in common is read off the table of the decimal systems. A run of
digits is a numeral: its value has no more digits than the run, and a short one can be read.
-/

namespace Tabletop

namespace Text

/-- A digit is a figure of one of the decimal systems. -/
theorem exists_system_of_isDigit
    {c : Char} (digit : isDigit c = true) :
    ∃ first ∈ digitZeros, ∃ figure ∈ List.range 10,
      c.toNat = first + figure ∧ digitValue? c = some figure := by
  have ofSystem :
      ∀ first ∈ digitZeros, ∀ figure, figure < 10 → c.toNat = first + figure →
        digitValue? c = some figure →
        ∃ first ∈ digitZeros, ∃ figure ∈ List.range 10,
          c.toNat = first + figure ∧ digitValue? c = some figure :=
    fun first listed figure small code value =>
      ⟨first, listed, figure, List.mem_range.2 small, code, value⟩
  obtain ⟨value, isValue⟩ := Option.isSome_iff_exists.1 digit
  by_cases plain : c.toNat < 128
  · have known := isValue
    rw [digitValue?, if_pos plain] at known
    split at known
    · rename_i plainDigit
      have bounds : 48 ≤ c.toNat ∧ c.toNat ≤ 57 := by
        simpa [Char.isDigit, UInt32.le_iff_toNat_le] using plainDigit
      have figure : c.toNat - 48 = value := Option.some.inj known
      exact ofSystem 48 (by decide) value (by omega) (by omega) isValue
    · cases known
  · have known := isValue
    rw [digitValue?, if_neg plain, Option.map_eq_some_iff] at known
    obtain ⟨first, found, figure⟩ := known
    have inSystem := List.find?_some found
    simp only [Bool.and_eq_true, decide_eq_true_eq] at inSystem
    exact ofSystem first (List.mem_of_find?_eq_some found) value (by omega) (by omega) isValue

/-- What holds of the figures of all decimal systems holds of every digit. -/
theorem of_isDigit
    (holds : Char → Bool) {c : Char} (digit : isDigit c = true)
    (all : (digitZeros.all fun first =>
      (List.range 10).all fun figure => holds (Char.ofNat (first + figure))) = true) :
    holds c = true := by
  obtain ⟨first, firstListed, figure, figureListed, code, -⟩ := exists_system_of_isDigit digit
  rw [← Char.ofNat_toNat c, code]
  exact List.all_eq_true.1 (List.all_eq_true.1 all first firstListed) figure figureListed

theorem isBlank_of_isDigit {c : Char} (digit : isDigit c = true) : isBlank c = false := by
  have notBlank : (!isBlank c) = true :=
    of_isDigit (fun c => !isBlank c) digit (by decide)
  simpa using notBlank

theorem figure_lt_ten {c : Char} {figure : Nat} (value : digitValue? c = some figure) :
    figure < 10 := by
  have digit : isDigit c = true := by
    rw [isDigit, value]
    rfl
  obtain ⟨first, -, small, listed, -, same⟩ := exists_system_of_isDigit digit
  rw [value] at same
  cases same
  exact List.mem_range.1 listed

end Text

namespace Numeral

open Text

/-- A run of digits, which is not empty. -/
structure IsRun (digits : List Char) : Prop where
  nonempty : digits ≠ []
  all : ∀ c ∈ digits, isDigit c = true

theorem foldl_value_lt (digits : List Char) (sum : Nat) :
    digits.foldl (fun sum c => 10 * sum + (digitValue? c).getD 0) sum <
      (sum + 1) * 10 ^ digits.length := by
  induction digits generalizing sum with
  | nil => simp
  | cons c digits inductionHypothesis =>
      have small : (digitValue? c).getD 0 < 10 := by
        cases figure : digitValue? c with
        | none => decide
        | some value => exact figure_lt_ten figure
      have step : 10 * sum + (digitValue? c).getD 0 + 1 ≤ (sum + 1) * 10 := by omega
      calc
        _ < (10 * sum + (digitValue? c).getD 0 + 1) * 10 ^ digits.length :=
          inductionHypothesis _
        _ ≤ (sum + 1) * 10 * 10 ^ digits.length := Nat.mul_le_mul_right _ step
        _ = (sum + 1) * 10 ^ (c :: digits).length := by
          rw [List.length_cons, Nat.pow_succ', Nat.mul_assoc]

theorem value_lt (digits : List Char) : value digits < 10 ^ digits.length := by
  have bound := foldl_value_lt digits 0
  rwa [Nat.zero_add, Nat.one_mul] at bound

theorem isWritable_iff (n : Int) :
    isWritable n = true ↔ n.natAbs < 10 ^ digitLimit := by
  unfold isWritable
  rw [← Nat.pow_eq]
  generalize Nat.pow 10 digitLimit = bound
  exact decide_eq_true_iff

/-- The value of a run that is short enough can be written. -/
theorem isWritable_value
    {digits : List Char} (short : digits.length ≤ digitLimit) :
    isWritable (value digits) = true := by
  rw [isWritable_iff]
  exact Nat.lt_of_lt_of_le (value_lt digits) (Nat.pow_le_pow_right (by decide) short)

end Numeral

theorem readNat_eq_ok
    {digits : List Char} (short : digits.length ≤ Numeral.digitLimit) :
    readNat digits = .ok (Numeral.value digits) := by
  rw [readNat, Numeral.readDigits, if_pos short]
  rfl

end Tabletop
