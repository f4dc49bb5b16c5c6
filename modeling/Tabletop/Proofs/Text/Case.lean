import Tabletop.Proofs.Text.Digit
import Tabletop.Text.Case

/-!
# Small letters one by one

Plain characters and digits have one small form whatever their neighbours are, so a text of them is
lower-cased character by character.
-/

namespace Tabletop.Text

/-- Whether a character always has the plain small form. -/
def lowersAlone (c : Char) : Bool :=
  c != '\u03a3' && lowerChar c == [c.toLower]

/-- What holds of all plain characters one by one. -/
theorem of_plain
    (holds : Char → Bool) {c : Char} (plain : c.toNat < 128)
    (all : ((List.range 128).all fun code => holds (Char.ofNat code)) = true) :
    holds c = true := by
  have listed := List.all_eq_true.1 all c.toNat (List.mem_range.2 plain)
  rwa [Char.ofNat_toNat] at listed

theorem lowersAlone_of_plain {c : Char} (plain : c.toNat < 128) : lowersAlone c = true := by
  have notSigma : c ≠ '\u03a3' := by
    rintro rfl
    exact absurd plain (by decide)
  simp [lowersAlone, lowerChar, plain, notSigma]

theorem plain_of_isLower {c : Char} (small : c.isLower = true) : c.toNat < 128 := by
  have last : c.val ≤ 'z'.val := of_decide_eq_true (Bool.and_eq_true_iff.1 small).2
  exact Nat.lt_of_le_of_lt (UInt32.le_iff_toNat_le.1 last) (by decide)

/-- Only plain characters have a plain small letter as their small form. -/
theorem plain_of_isLower_toLower {c : Char} (small : c.toLower.isLower = true) :
    c.toNat < 128 := by
  by_cases capital : 'A'.val ≤ c.val ∧ c.val ≤ 'Z'.val
  · exact Nat.lt_of_le_of_lt (UInt32.le_iff_toNat_le.1 capital.2) (by decide)
  · have same : c.toLower = c := by
      unfold Char.toLower
      rw [dif_neg capital]
    rw [same] at small
    exact plain_of_isLower small

theorem toLower_of_isDigit {c : Char} (digit : isDigit c = true) : c.toLower = c := by
  have same : (c.toLower == c) = true :=
    of_isDigit (fun c => c.toLower == c) digit (by decide)
  exact beq_iff_eq.1 same

theorem shiftCase_eq_self
    {runs : List CaseShift} {c : Char}
    (outside : ∀ run ∈ runs, c.toNat < run.first ∨ run.last < c.toNat) :
    shiftCase runs c = c := by
  have unmoved : runs.findSome? (fun run => run.apply? c.toNat) = none := by
    rw [List.findSome?_eq_none_iff]
    intro run member
    have apart : ¬(run.first ≤ c.toNat ∧ c.toNat ≤ run.last) := by
      have := outside run member
      omega
    simp only [ CaseShift.apply?, Bool.and_eq_true, decide_eq_true_eq]
    rw [if_neg fun inside => apart inside.1]
  rw [shiftCase, unmoved]
  rfl

/-- The decimal systems lie outside of all runs of capitals. -/
theorem systems_outside_loweredTable :
    (digitZeros.all fun first =>
      loweredTable.all fun run =>
        Nat.blt (first + 9) run.first || Nat.blt run.last first) = true := by
  decide +kernel

theorem lowersAlone_of_isDigit {c : Char} (digit : isDigit c = true) : lowersAlone c = true := by
  by_cases plain : c.toNat < 128
  · exact lowersAlone_of_plain plain
  · have notSigma : c ≠ '\u03a3' := by
      rintro rfl
      exact absurd digit (by decide)
    have notDottedI : c ≠ '\u0130' := by
      rintro rfl
      exact absurd digit (by decide)
    have unmoved : shiftCase loweredTable c = c := by
      obtain ⟨first, firstListed, figure, figureListed, code, -⟩ := exists_system_of_isDigit digit
      refine shiftCase_eq_self fun run runListed => ?_
      have apart :=
        List.all_eq_true.1 (List.all_eq_true.1 systems_outside_loweredTable first firstListed)
          run runListed
      rw [Bool.or_eq_true, Nat.blt_eq, Nat.blt_eq] at apart
      have small := List.mem_range.1 figureListed
      omega
    simp [lowersAlone, lowerChar, plain, notSigma, notDottedI, unmoved, toLower_of_isDigit digit]

theorem lowerAfter_eq_map
    {text : List Char} (alone : ∀ c ∈ text, lowersAlone c = true) (before : List Char) :
    lowerAfter before text = text.map Char.toLower := by
  induction text generalizing before with
  | nil => rfl
  | cons c rest inductionHypothesis =>
      have single := alone c (by simp)
      simp only [lowersAlone, Bool.and_eq_true, bne_iff_ne, beq_iff_eq] at single
      have restAlone : ∀ c ∈ rest, lowersAlone c = true :=
        fun other member => alone other (List.mem_cons_of_mem c member)
      rw [lowerAfter, lowerBetween, if_neg single.1, single.2, inductionHypothesis restAlone]
      rfl

theorem lower_eq_map
    {text : List Char} (alone : ∀ c ∈ text, lowersAlone c = true) :
    lower (String.ofList text) = String.ofList (text.map Char.toLower) := by
  rw [lower, String.toList_ofList, lowerAfter_eq_map alone]

/-- Digits have no case. -/
theorem map_toLower_of_digits
    {digits : List Char} (all : ∀ c ∈ digits, isDigit c = true) :
    digits.map Char.toLower = digits := by
  rw [List.map_congr_left fun c member => toLower_of_isDigit (all c member), List.map_id']

/-- Apart from the letters that other characters count as too, only the two plain forms of a letter
fold to it. -/
theorem plain_of_fold
    {c letter : Char} (plain : letter.toNat < 128)
    (single : letter ≠ 's' ∧ letter ≠ 'k' ∧ letter ≠ 'i') (folded : fold c = letter) :
    c.toNat < 128 ∧ c.toLower = letter := by
  unfold fold at folded
  split at folded
  · rename_i isPlain
    exact ⟨isPlain, folded⟩
  · rename_i notPlain
    obtain ⟨notS, notK, notI⟩ := single
    split at folded
    · exact absurd folded.symm notS
    · exact absurd folded.symm notK
    · exact absurd folded.symm notI
    · exact absurd folded.symm notI
    · rw [folded] at notPlain
      exact absurd plain notPlain

/-- Nothing but an opening bracket folds to one. -/
theorem eq_bracket_of_fold {c : Char} (folded : fold c = '[') : c = '[' := by
  obtain ⟨plain, small⟩ := plain_of_fold (by decide) (by decide) folded
  have only : (c.toLower != '[' || c == '[') = true :=
    of_plain (fun c => c.toLower != '[' || c == '[') plain (by decide)
  simpa [small] using only

end Tabletop.Text
