import Tabletop.Proofs.Results
import Tabletop.Proofs.Text.Blank

/-!
# Integers that are read

A text is read as an integer if it is a run of digits, after a minus sign or not, between the white
space that numbers may be surrounded by. A text without underscores and plus signs is malformed
unless it has this form.
-/

namespace Tabletop.Numeral

open Text

theorem isBlank_of_isSpace {c : Char} (space : isSpace c = true) : isBlank c = true :=
  (Bool.and_eq_true_iff.1 space).1

/-- The sign of a number; a positive one has none. -/
def signText (negative : Bool) : List Char :=
  if negative then ['-'] else []

variable {text digits : List Char} {negative : Bool}

theorem not_sign_of_isDigit {c : Char} (digit : isDigit c = true) : c ≠ '-' ∧ c ≠ '+' := by
  constructor <;>
    · rintro rfl
      exact absurd digit (by decide)

theorem splitSign_signText (isRun : IsRun digits) :
    splitSign (signText negative ++ digits) = (negative, digits) := by
  cases negative with
  | true => rfl
  | false =>
      obtain ⟨c, rest, rfl⟩ := List.exists_cons_of_ne_nil isRun.nonempty
      obtain ⟨notMinus, notPlus⟩ := not_sign_of_isDigit (isRun.all c List.mem_cons_self)
      simp only [signText, Bool.false_eq_true, if_false, List.nil_append]
      unfold splitSign
      split
      · rename_i isMinus
        exact absurd (List.cons.inj isMinus).1 notMinus
      · rename_i isPlus
        exact absurd (List.cons.inj isPlus).1 notPlus
      · rfl

/-! ## Groups of digits -/

theorem digitGroups_of_digits (all : ∀ c ∈ digits, isDigit c = true) :
    digitGroups true digits = some (digits, []) := by
  induction digits with
  | nil => rfl
  | cons c digits inductionHypothesis =>
      have others := inductionHypothesis fun x member => all x (List.mem_cons_of_mem c member)
      rw [digitGroups, if_pos (all c List.mem_cons_self), others]
      rfl

theorem digitGroups_of_isRun (isRun : IsRun digits) :
    digitGroups false digits = some (digits, []) := by
  obtain ⟨c, rest, rfl⟩ := List.exists_cons_of_ne_nil isRun.nonempty
  have others := digitGroups_of_digits fun x member => isRun.all x (List.mem_cons_of_mem c member)
  rw [digitGroups, if_pos (isRun.all c List.mem_cons_self), others]
  rfl

/-- Without underscores the digits that are read stand together at the head of the text. -/
theorem split_of_digitGroups
    {afterDigit : Bool} {tail : List Char} (joined : '_' ∉ text)
    (grouped : digitGroups afterDigit text = some (digits, tail)) :
    text = digits ++ tail ∧ (∀ c ∈ digits, isDigit c = true) ∧
      (afterDigit = false → digits ≠ []) := by
  induction text generalizing afterDigit digits with
  | nil =>
      cases afterDigit with
      | false => cases grouped
      | true =>
          cases grouped
          exact ⟨rfl, nofun, nofun⟩
  | cons c text inductionHypothesis =>
      rw [List.mem_cons, not_or] at joined
      rw [digitGroups] at grouped
      by_cases digit : isDigit c = true
      · rw [if_pos digit, Option.map_eq_some_iff] at grouped
        obtain ⟨⟨others, last⟩, groupedRest, same⟩ := grouped
        obtain ⟨rfl, rfl⟩ := Prod.mk.inj same
        obtain ⟨split, all, -⟩ := inductionHypothesis joined.2 groupedRest
        exact ⟨congrArg (c :: ·) split, List.forall_mem_cons.2 ⟨digit, all⟩,
          fun _ => List.cons_ne_nil c others⟩
      · have notUnderscore : ¬c = '_' := fun same => joined.1 same.symm
        rw [if_neg digit, if_neg notUnderscore] at grouped
        cases afterDigit with
        | false => cases grouped
        | true =>
            cases grouped
            exact ⟨rfl, nofun, nofun⟩

/-! ## Integers -/

theorem readInt_of_isRun
    {opening closing : List Char} (negative : Bool) (opens : ∀ c ∈ opening, isSpace c = true)
    (closes : ∀ c ∈ closing, isSpace c = true) (isRun : IsRun digits)
    (short : digits.length ≤ digitLimit) :
    readInt (opening ++ (signText negative ++ digits ++ closing)) =
      .ok (signed negative (value digits)) := by
  have notSpace {c : Char} (solid : isBlank c = false) : isSpace c = false := by
    rw [isSpace, solid, Bool.false_and]
  have solid : ∀ c ∈ signText negative ++ digits, isSpace c = false := by
    intro c member
    rcases List.mem_append.1 member with isSign | isDigit
    · have isMinus : c = '-' := by
        cases negative with
        | true => exact List.mem_singleton.1 isSign
        | false => cases isSign
      rw [isMinus]
      decide
    · exact notSpace (isBlank_of_isDigit (isRun.all c isDigit))
  have trimmed :
      trimBy isSpace (opening ++ (signText negative ++ digits ++ closing)) =
        signText negative ++ digits :=
    trimBy_append (fun c isHead => solid c (List.mem_of_mem_head? isHead))
      (fun c isLast => solid c (List.mem_of_mem_getLast? isLast)) opens closes
  rw [readInt, trimmed, splitSign_signText isRun]
  simp only [digitGroups_of_isRun isRun, readDigits, if_pos short]
  rfl

/-- A text without underscores and plus signs is read as an integer if it has the form of one, and
is malformed otherwise, unless it has too many digits. -/
theorem readInt_cases
    (joined : '_' ∉ text) (unsigned : '+' ∉ text)
    (short : ∀ run, run <:+: text → (∀ c ∈ run, isDigit c = true) → run.length ≤ digitLimit) :
    readInt text = .error .malformed ∨
      ∃ opening negative digits closing,
        text = opening ++ (signText negative ++ digits ++ closing) ∧
          (∀ c ∈ opening, isSpace c = true) ∧ (∀ c ∈ closing, isSpace c = true) ∧
          IsRun digits ∧ readInt text = .ok (signed negative (value digits)) := by
  obtain ⟨opening, closing, split, opens, closes⟩ := exists_trimBy isSpace text
  have inside : trimBy isSpace text <:+: text :=
    ⟨opening, closing, by rw [List.append_assoc, ← split]⟩
  generalize trimmed : trimBy isSpace text = body at split inside
  have isSigned :
      ∃ negative rest, splitSign body = (negative, rest) ∧ body = signText negative ++ rest := by
    unfold splitSign
    split
    · exact ⟨true, _, rfl, rfl⟩
    · exact absurd (inside.subset List.mem_cons_self) unsigned
    · exact ⟨false, body, rfl, rfl⟩
  obtain ⟨negative, rest, signSplit, rfl⟩ := isSigned
  have restInside : rest <:+: text := (List.suffix_append _ rest).isInfix.trans inside
  cases grouped : digitGroups false rest with
  | none =>
      left
      simp only [readInt, trimmed, signSplit, grouped]
  | some found =>
      obtain ⟨digits, tail⟩ := found
      obtain ⟨rfl, all, nonempty⟩ :=
        split_of_digitGroups (fun member => joined (restInside.subset member)) grouped
      have fits : digits.length ≤ digitLimit :=
        short digits ((List.prefix_append digits tail).isInfix.trans restInside) all
      cases tail with
      | nil =>
          rw [List.append_nil] at split
          right
          refine ⟨opening, negative, digits, closing, split, opens, closes, ⟨nonempty rfl, all⟩, ?_⟩
          rw [split]
          exact readInt_of_isRun negative opens closes ⟨nonempty rfl, all⟩ fits
      | cons c tail =>
          left
          simp only [readInt, trimmed, signSplit, grouped, readDigits, if_pos fits]
          rfl

end Tabletop.Numeral
