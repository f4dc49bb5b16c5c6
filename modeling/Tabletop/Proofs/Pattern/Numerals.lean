import Tabletop.Proofs.Pattern.Reading
import Tabletop.Proofs.Text.Digit

/-!
# Numbers behind a letter

Where a pattern marks a number only behind a certain letter and white space, its matches do so too.
-/

namespace Tabletop.Pattern

open Numeral

variable {ι : Type}

/-- Whether each text that a pattern reads ends in a character that counts as a letter. -/
def endsWith (letter : Char) (pattern : Pattern ι) : Bool :=
  pattern.closers == [.like letter] && pattern.shortest != 0

theorem exists_last_of_endsWith
    {letter : Char} {pattern : Pattern ι} {text : List Char} {marks : Marks ι}
    (ends : pattern.endsWith letter = true) (reads : pattern.Reads text marks) :
    ∃ before c, text = before ++ [c] ∧ Text.fold c = letter := by
  rw [endsWith, Bool.and_eq_true, beq_iff_eq, bne_iff_ne] at ends
  rcases List.eq_nil_or_concat text with rfl | ⟨before, c, rfl⟩
  · exact absurd (Nat.le_zero.1 (shortest_le_length reads)) ends.2
  · rw [List.concat_eq_append] at reads ⊢
    obtain ⟨set, listed, held⟩ := closers_hold reads
    rw [ends.1, List.mem_singleton] at listed
    subst listed
    exact ⟨before, c, rfl, beq_iff_eq.1 held⟩

section Labels

variable [DecidableEq ι]

/-- Whether a pattern is white space with a marked number behind it. -/
def isNumeral (label : ι) : Pattern ι → Bool
  | .andThen (.many .blank _ _) (.mark marked (.many .digit least _)) =>
      marked == label && least != 0
  | _ => false

/-- Whether all parts that a pattern marks with a label are numbers behind a letter. -/
def marksNumerals (letter : Char) (label : ι) : Pattern ι → Bool
  | .nothing | .one _ | .wordEdge | .many _ _ _ => true
  | .andThen first second =>
      first.marksNumerals letter label &&
        (second.marksNumerals letter label || first.endsWith letter && second.isNumeral label)
  | .either first second =>
      first.marksNumerals letter label && second.marksNumerals letter label
  | .mark marked pattern => marked != label && pattern.marksNumerals letter label

/-- A number stands in a text behind a letter and white space. -/
def NumeralBehind (letter : Char) (text run : List Char) : Prop :=
  ∃ before c blanks after,
    text = before ++ c :: (blanks ++ (run ++ after)) ∧ Text.fold c = letter ∧
      (∀ blank ∈ blanks, Text.isBlank blank = true) ∧ IsRun run

theorem NumeralBehind.widen
    {letter : Char} {text whole run : List Char}
    (behind : NumeralBehind letter text run) (inside : text <:+: whole) :
    NumeralBehind letter whole run := by
  obtain ⟨before, c, blanks, after, rfl, isLetter, blank, isRun⟩ := behind
  obtain ⟨start, stop, rfl⟩ := inside
  exact ⟨start ++ before, c, blanks, after ++ stop, by simp, isLetter, blank, isRun⟩

/-- What a marked number reads. -/
theorem split_of_isNumeral
    {label : ι} {pattern : Pattern ι} {text part : List Char} {marks : Marks ι}
    (numeral : pattern.isNumeral label = true) (reads : pattern.Reads text marks)
    (member : (label, part) ∈ marks) :
    ∃ blanks, text = blanks ++ part ∧ (∀ blank ∈ blanks, Text.isBlank blank = true) ∧
      IsRun part := by
  unfold isNumeral at numeral
  split at numeral
  · rename_i leastBlanks preference marked least digitPreference
    obtain ⟨blanks, digits, _, _, ⟨blank, -, rfl⟩, ⟨_, reads, rfl⟩, rfl, rfl⟩ := reads
    obtain ⟨all, enough, rfl⟩ := reads
    rw [Bool.and_eq_true, bne_iff_ne] at numeral
    obtain ⟨-, rfl⟩ : label = marked ∧ part = digits := by simpa using member
    exact ⟨blanks, rfl, blank, List.ne_nil_of_length_pos (by omega), all⟩
  · cases numeral

theorem numeralBehind_of_mem_marks
    {letter : Char} {label : ι} {pattern : Pattern ι} {text part : List Char} {marks : Marks ι}
    (numerals : pattern.marksNumerals letter label = true)
    (reads : pattern.Reads text marks) (member : (label, part) ∈ marks) :
    NumeralBehind letter text part := by
  induction pattern generalizing text marks with
  | nothing | wordEdge =>
      obtain ⟨-, rfl⟩ := reads
      simp at member
  | one set =>
      obtain ⟨c, -, -, rfl⟩ := reads
      simp at member
  | many set least preference =>
      obtain ⟨-, -, rfl⟩ := reads
      simp at member
  | andThen first second firstStep secondStep =>
      obtain ⟨opening, closing, openingMarks, closingMarks, opens, closes, rfl, rfl⟩ := reads
      obtain ⟨firstNumerals, rest⟩ := Bool.and_eq_true_iff.1 numerals
      rcases List.mem_append.1 member with member | member
      · exact (firstStep firstNumerals opens member).widen
          (List.prefix_append opening closing).isInfix
      · rcases Bool.or_eq_true_iff.1 rest with secondNumerals | led
        · exact (secondStep secondNumerals closes member).widen
            (List.suffix_append opening closing).isInfix
        · obtain ⟨ends, numeral⟩ := Bool.and_eq_true_iff.1 led
          obtain ⟨before, c, rfl, isLetter⟩ := exists_last_of_endsWith ends opens
          obtain ⟨blanks, rfl, blank, isRun⟩ := split_of_isNumeral numeral closes member
          exact ⟨before, c, blanks, [], by simp, isLetter, blank, isRun⟩
  | either first second firstStep secondStep =>
      obtain ⟨firstNumerals, secondNumerals⟩ := Bool.and_eq_true_iff.1 numerals
      rcases reads with reads | reads
      · exact firstStep firstNumerals reads member
      · exact secondStep secondNumerals reads member
  | mark marked pattern inductionHypothesis =>
      obtain ⟨inner, reads, rfl⟩ := reads
      obtain ⟨other, patternNumerals⟩ := Bool.and_eq_true_iff.1 numerals
      rcases List.mem_cons.1 member with equal | member
      · rw [(Prod.mk.inj equal).1] at other
        simp at other
      · exact inductionHypothesis patternNumerals reads member

end Labels

end Tabletop.Pattern
