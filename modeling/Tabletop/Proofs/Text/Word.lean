import Tabletop.Proofs.Text.Case
import Tabletop.Text.Word

/-!
# Digits as word characters

The decimal digits of every script are word characters. Each decimal system lies within one interval
of the table of word characters, and in an ascending table the search comes upon that interval.
-/

namespace Tabletop.Text

/-- Whether intervals are not empty, begin at some code point or later and follow one another. -/
def Intervals.ascendFrom : Nat → Intervals → Bool
  | _, [] => true
  | least, (low, high) :: rest =>
      Nat.ble least low && Nat.ble low high && ascendFrom (high + 1) rest

theorem Intervals.le_of_mem
    {least low high : Nat} {table : Intervals} (ascends : ascendFrom least table = true)
    (member : (low, high) ∈ table) :
    least ≤ low := by
  induction table generalizing least with
  | nil => cases member
  | cons interval rest inductionHypothesis =>
      obtain ⟨first, last⟩ := interval
      simp only [ascendFrom, Bool.and_eq_true, Nat.ble_eq] at ascends
      obtain ⟨⟨begins, proper⟩, ascendsRest⟩ := ascends
      rcases List.mem_cons.1 member with same | member
      · obtain ⟨rfl, rfl⟩ := Prod.mk.inj same
        exact begins
      · have later := inductionHypothesis ascendsRest member
        omega

/-- What lies in an interval of an ascending table is in the table. -/
theorem Intervals.holds_of_mem
    {least low high code : Nat} {table : Intervals} (ascends : ascendFrom least table = true)
    (member : (low, high) ∈ table) (lowest : low ≤ code) (highest : code ≤ high) :
    table.holds code = true := by
  induction table generalizing least with
  | nil => cases member
  | cons interval rest inductionHypothesis =>
      obtain ⟨first, last⟩ := interval
      have proper : first ≤ last := by
        simp only [ascendFrom, Bool.and_eq_true, Nat.ble_eq] at ascends
        exact ascends.1.2
      have ascendsRest : ascendFrom (last + 1) rest = true := by
        rw [ascendFrom, Bool.and_eq_true] at ascends
        exact ascends.2
      rcases List.mem_cons.1 member with same | member
      · obtain ⟨rfl, rfl⟩ := Prod.mk.inj same
        rw [holds, if_neg (Nat.not_lt.2 lowest), decide_eq_true highest, Bool.true_or]
      · have later := le_of_mem ascendsRest member
        have notBefore : ¬code < first := by omega
        rw [holds, if_neg notBefore, inductionHypothesis ascendsRest member, Bool.or_true]

theorem wordTable_ascends : wordTable.ascendFrom 128 = true := by
  decide +kernel

/-- Each decimal system is plain or lies within one interval of word characters. -/
theorem systems_within_wordTable :
    (digitZeros.all fun first =>
      Nat.blt (first + 9) 128 ||
        wordTable.any fun run => Nat.ble run.1 first && Nat.ble (first + 9) run.2) = true := by
  decide +kernel

theorem isWord_of_isDigit {c : Char} (digit : isDigit c = true) : isWord c = true := by
  by_cases plain : c.toNat < 128
  · have known : (!isDigit c || isWord c) = true :=
      of_plain (fun c => !isDigit c || isWord c) plain (by decide)
    rwa [digit] at known
  · obtain ⟨first, listed, figure, figureListed, code, -⟩ := exists_system_of_isDigit digit
    have small := List.mem_range.1 figureListed
    have within := List.all_eq_true.1 systems_within_wordTable first listed
    rw [isWord, if_neg plain]
    rcases Bool.or_eq_true_iff.1 within with isPlain | inTable
    · rw [Nat.blt_eq] at isPlain
      omega
    · obtain ⟨⟨low, high⟩, member, inside⟩ := List.any_eq_true.1 inTable
      rw [Bool.and_eq_true, Nat.ble_eq, Nat.ble_eq] at inside
      exact Intervals.holds_of_mem wordTable_ascends member (by omega) (by omega)

end Tabletop.Text
