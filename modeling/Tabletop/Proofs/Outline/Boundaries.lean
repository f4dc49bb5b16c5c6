import Mathlib.Data.List.Infix
import Tabletop.Proofs.Pattern.Sketch
import Tabletop.Proofs.Prompt.Numbers

/-!
# Boundaries in written texts

All texts that write an outline have equally many characters that are not blank, unless the outline
leaves digits open. So a text falls in one way only into two parts that write outlines, if the first
part ends in a letter. Numbers that stand apart from each other are the only runs of digits.
-/

namespace Tabletop

open Numeral Text

section

variable {numbers : Nat → List Char}

/-! ## Characters that are not blank -/

/-- The number of characters of a text that are not blank, whatever their case. -/
def solidLength (text : List Char) : Nat :=
  (text.map Char.toLower).countP fun c => !isBlank c

theorem solidLength_append (one other : List Char) :
    solidLength (one ++ other) = solidLength one + solidLength other := by
  rw [solidLength, List.map_append, List.countP_append]
  rfl

theorem solidLength_of_blank {text : List Char} (blank : ∀ c ∈ text, isBlank c = true) :
    solidLength text = 0 := by
  apply List.countP_eq_zero.2
  intro c member
  obtain ⟨x, listed, rfl⟩ := List.mem_map.1 member
  rw [toLower_of_isBlank (blank x listed), blank x listed]
  decide

theorem solidLength_pos
    {text : List Char} {c : Char} (member : c ∈ text) (small : c.toLower.isLower = true) :
    0 < solidLength text := by
  apply List.countP_pos_iff.2
  exact ⟨c.toLower, List.mem_map_of_mem member, by rw [isBlank_of_isLower small, Bool.not_false]⟩

theorem Token.WrittenAs.solidLength_eq
    {token : Token} {text other : List Char} (closed : token ≠ .figures)
    (written : token.WrittenAs numbers text) (otherWritten : token.WrittenAs numbers other) :
    solidLength text = solidLength other := by
  cases token with
  | letter c =>
      have lowered : text.map Char.toLower = [c] := written
      have otherLowered : other.map Char.toLower = [c] := otherWritten
      rw [solidLength, solidLength, lowered, otherLowered]
  | sign c => rw [show text = [c] from written, show other = [c] from otherWritten]
  | gap => rw [solidLength_of_blank written.2, solidLength_of_blank otherWritten.2]
  | numeral index =>
      rw [show text = numbers index from written, show other = numbers index from otherWritten]
  | figures => exact absurd rfl closed

theorem Outline.WrittenAs.solidLength_eq
    {outline : Outline} {text other : List Char} (closed : .figures ∉ outline)
    (written : outline.WrittenAs numbers text) (otherWritten : outline.WrittenAs numbers other) :
    solidLength text = solidLength other := by
  induction outline generalizing text other with
  | nil => rw [writtenAs_nil_iff.1 written, writtenAs_nil_iff.1 otherWritten]
  | cons token rest inductionHypothesis =>
      rw [List.mem_cons, not_or] at closed
      obtain ⟨part, more, isToken, isRest, rfl⟩ := writtenAs_cons_iff.1 written
      obtain ⟨otherPart, otherMore, isOther, isOtherRest, rfl⟩ := writtenAs_cons_iff.1 otherWritten
      rw [solidLength_append, solidLength_append,
        isToken.solidLength_eq (Ne.symm closed.1) isOther,
        inductionHypothesis closed.2 isRest isOtherRest]

/-! ## Two parts -/

/-- What a text that ends in a letter can lose at its end is not all blank. -/
theorem eq_nil_of_solidLength_eq_zero
    {opening closing : List Char} {c : Char} (ends : (opening ++ closing).getLast? = some c)
    (small : c.toLower.isLower = true) (blank : solidLength closing = 0) :
    closing = [] := by
  by_contra nonempty
  rw [List.getLast?_append_of_ne_nil _ nonempty] at ends
  have positive := solidLength_pos (List.mem_of_getLast? ends) small
  omega

/-- A text falls in one way only into a part that ends in a letter and a part that writes an
outline. -/
theorem append_inj_of_written
    {outline : Outline} {one two more others : List Char} {c d : Char}
    (closed : .figures ∉ outline) (same : one ++ more = two ++ others)
    (written : outline.WrittenAs numbers more) (otherWritten : outline.WrittenAs numbers others)
    (ends : one.getLast? = some c) (small : c.toLower.isLower = true)
    (otherEnds : two.getLast? = some d) (otherSmall : d.toLower.isLower = true) :
    one = two ∧ more = others := by
  have equallySolid := written.solidLength_eq closed otherWritten
  rcases List.append_eq_append_iff.1 same with ⟨between, rfl, rfl⟩ | ⟨between, rfl, rfl⟩
  · rw [solidLength_append] at equallySolid
    obtain rfl := eq_nil_of_solidLength_eq_zero otherEnds otherSmall (by omega)
    exact ⟨(List.append_nil one).symm, rfl⟩
  · rw [solidLength_append] at equallySolid
    obtain rfl := eq_nil_of_solidLength_eq_zero ends small (by omega)
    exact ⟨List.append_nil two, rfl⟩

/-- The last character of what writes an outline that ends in a small letter. -/
theorem Outline.WrittenAs.exists_getLast?
    {outline : Outline} {text : List Char} {c : Char} (isRun : ∀ index, IsRun (numbers index))
    (written : outline.WrittenAs numbers text) (ends : outline.getLast? = some (.letter c)) :
    ∃ x, text.getLast? = some x ∧ x.toLower = c := by
  have related := written.rel_getLast? isRun
  rw [ends] at related
  generalize text.getLast? = last at related ⊢
  cases related with
  | some held => exact ⟨_, rfl, held⟩

/-! ## Runs of digits -/

/-- Numbers stand apart from each other and from other digits. -/
def numbersApart : Outline → Bool
  | [] => true
  | .numeral _ :: rest =>
      rest.head?.all (fun next => next.inSet? .digit == some false) && numbersApart rest
  | token :: rest => token.inSet? .digit == some false && numbersApart rest

/-- Plain words have no bearing on whether the numbers behind them stand apart. -/
theorem numbersApart_plain_append
    {text : String} {rest : Outline} (small : ∀ c ∈ text.toList, c = ' ' ∨ c.isLower = true) :
    numbersApart (plain text ++ rest) = numbersApart rest := by
  unfold plain
  generalize text.toList = letters at small ⊢
  induction letters with
  | nil => rfl
  | cons c letters inductionHypothesis =>
      have others := inductionHypothesis fun x member => small x (List.mem_cons_of_mem c member)
      rw [List.map_cons, List.cons_append]
      rcases small c List.mem_cons_self with rfl | isSmall
      · exact others
      · simp [numbersApart, others, Token.ofChar_of_isLower isSmall, Token.inSet?, isSmall,
          Token.letterInSet?]

theorem eq_nil_of_run
    {run text : List Char} (digits : ∀ c ∈ run, isDigit c = true) (inside : run ⊆ text)
    (noDigit : ∀ c ∈ text, isDigit c = false) :
    run = [] := by
  apply List.eq_nil_iff_forall_not_mem.2
  intro c member
  have digit := digits c member
  rw [noDigit c (inside member)] at digit
  cases digit

theorem Token.WrittenAs.noDigit
    {token : Token} {text : List Char} (isRun : ∀ index, IsRun (numbers index))
    (written : token.WrittenAs numbers text) (known : token.inSet? .digit = some false) :
    ∀ c ∈ text, isDigit c = false :=
  fun c member => Token.inSet?_sound known (written.holds isRun c member)

/-- No run of digits begins with a token that is none. -/
theorem eq_nil_of_run_prefix
    {outline : Outline} {run text : List Char} (isRun : ∀ index, IsRun (numbers index))
    (noDigit : (outline.head?.all fun next => next.inSet? .digit == some false) = true)
    (written : outline.WrittenAs numbers text) (digits : ∀ c ∈ run, isDigit c = true)
    (isFront : run <+: text) :
    run = [] := by
  cases outline with
  | nil =>
      rw [Outline.writtenAs_nil_iff.1 written] at isFront
      exact List.prefix_nil.1 isFront
  | cons token rest =>
      obtain ⟨part, more, isToken, -, rfl⟩ := Outline.writtenAs_cons_iff.1 written
      have known : token.inSet? .digit = some false := by simpa using noDigit
      cases run with
      | nil => rfl
      | cons digit run =>
          obtain ⟨x, others, rfl⟩ := List.exists_cons_of_ne_nil (isToken.nonempty isRun)
          obtain ⟨rfl, -⟩ := List.cons_prefix_cons.1 isFront
          have isDigit := digits digit (by simp)
          rw [isToken.noDigit isRun known digit (by simp)] at isDigit
          cases isDigit

/-- If no number is long and the numbers stand apart, no run of digits is long. -/
theorem length_le_of_run
    {outline : Outline} {limit : Nat} {run text : List Char}
    (isRun : ∀ index, IsRun (numbers index)) (short : ∀ index, (numbers index).length ≤ limit)
    (apart : numbersApart outline = true) (written : outline.WrittenAs numbers text)
    (inside : run <:+: text) (digits : ∀ c ∈ run, isDigit c = true) :
    run.length ≤ limit := by
  induction outline generalizing text run with
  | nil =>
      rw [Outline.writtenAs_nil_iff.1 written] at inside
      rw [List.infix_nil.1 inside]
      exact Nat.zero_le limit
  | cons token rest inductionHypothesis =>
      obtain ⟨part, more, isToken, isRest, rfl⟩ := Outline.writtenAs_cons_iff.1 written
      by_cases isNumeral : ∃ index, token = .numeral index
      · obtain ⟨index, rfl⟩ := isNumeral
        obtain rfl : part = numbers index := isToken
        rw [numbersApart, Bool.and_eq_true] at apart
        rcases List.infix_append_iff.1 inside with
          inPart | inMore | ⟨opening, closing, rfl, ends, front⟩
        · exact Nat.le_trans inPart.length_le (short index)
        · exact inductionHypothesis apart.2 isRest inMore digits
        · have noClosing := eq_nil_of_run_prefix isRun apart.1 isRest
            (fun c member => digits c (List.mem_append_right opening member)) front
          rw [noClosing, List.append_nil]
          exact Nat.le_trans ends.length_le (short index)
      · have known : token.inSet? .digit = some false ∧ numbersApart rest = true := by
          cases token with
          | numeral index => exact absurd ⟨index, rfl⟩ isNumeral
          | _ => simpa [numbersApart] using apart
        have noDigit := isToken.noDigit isRun known.1
        rcases List.infix_append_iff.1 inside with
          inPart | inMore | ⟨opening, closing, rfl, ends, front⟩
        · rw [eq_nil_of_run digits inPart.subset noDigit]
          exact Nat.zero_le limit
        · exact inductionHypothesis known.2 isRest inMore digits
        · have noOpening := eq_nil_of_run
            (fun c member => digits c (List.mem_append_left closing member)) ends.subset noDigit
          rw [noOpening, List.nil_append] at digits ⊢
          exact inductionHypothesis known.2 isRest front.isInfix digits

theorem Prompt.numbersFit_of_apart
    {outline : Outline} {text : List Char} (isRun : ∀ index, IsRun (numbers index))
    (short : ∀ index, (numbers index).length ≤ digitLimit)
    (apart : numbersApart outline = true) (written : outline.WrittenAs numbers text) :
    NumbersFit text :=
  numbersFit_of_short_runs fun _ inside digits =>
    length_le_of_run isRun short apart written inside digits

end

end Tabletop
