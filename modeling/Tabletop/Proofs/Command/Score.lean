import Tabletop.Command.Stats
import Tabletop.Proofs.Numeral

/-!
# Texts of scores

A text passes for a score if it holds figures behind any number of minus signs, with white space
around them. What it is made of can be told from the text. Only with one minus sign at most, decimal
digits and no information separators is it read as an integer, and otherwise it is malformed.
-/

namespace Tabletop.Command

open Numeral Text

/-! ## Texts of scores -/

/-- The parts of a text that passes for a score. -/
structure ScoreParts where
  opening : List Char
  minuses : List Char
  figures : List Char
  closing : List Char

namespace ScoreParts

/-- The text that the parts make. -/
def text (parts : ScoreParts) : List Char :=
  parts.opening ++ (parts.minuses ++ parts.figures ++ parts.closing)

/-- Figures behind any number of minus signs, between white space. -/
structure Proper (parts : ScoreParts) : Prop where
  opening : ∀ c ∈ parts.opening, isBlank c = true
  minuses : ∀ c ∈ parts.minuses, c = '-'
  nonempty : parts.figures ≠ []
  figures : ∀ c ∈ parts.figures, isFigure c = true
  closing : ∀ c ∈ parts.closing, isBlank c = true

/-- Decimal digits behind one minus sign at most. -/
structure Decimal (parts : ScoreParts) : Prop where
  single : parts.minuses.length ≤ 1
  digits : ∀ c ∈ parts.figures, isDigit c = true

/-- The white space is such as a number may be surrounded by. -/
structure Spaced (parts : ScoreParts) : Prop where
  opening : ∀ c ∈ parts.opening, isSpace c = true
  closing : ∀ c ∈ parts.closing, isSpace c = true

/-- The number that the parts stand for. -/
def score (parts : ScoreParts) : Int :=
  signed (!parts.minuses.isEmpty) (value parts.figures)

end ScoreParts

theorem figure_facts {c : Char} (figure : isFigure c = true) :
    isBlank c = false ∧ c ≠ '-' ∧ c ≠ '+' ∧ c ≠ '_' := by
  refine ⟨?_, ?_, ?_, ?_⟩
  · cases blank : isBlank c with
    | false => rfl
    | true =>
        have noFigure : (!isFigure c) = true :=
          of_isBlank (fun c => !isFigure c) blank (by decide)
        rw [figure] at noFigure
        cases noFigure
  all_goals
    rintro rfl
    exact absurd figure (by decide)

/-- A text falls in one way only into characters of a class and what does not begin with one. -/
theorem append_inj_of_heads
    {holds : Char → Bool} {one two more others : List Char} (same : one ++ more = two ++ others)
    (oneHolds : ∀ c ∈ one, holds c = true) (twoHolds : ∀ c ∈ two, holds c = true)
    (moreHead : ∀ c ∈ more.head?, holds c = false)
    (othersHead : ∀ c ∈ others.head?, holds c = false) :
    one = two ∧ more = others := by
  have drops {front back : List Char} (all : ∀ c ∈ front, holds c = true)
      (head : ∀ c ∈ back.head?, holds c = false) :
      (front ++ back).dropWhile holds = back := by
    rw [List.dropWhile_append_of_pos all, dropWhile_eq_self_of_head head]
  have rest : more = others := by
    rw [← drops oneHolds moreHead, same, drops twoHolds othersHead]
  subst rest
  exact ⟨List.append_cancel_right same, rfl⟩

namespace ScoreParts

variable {parts others : ScoreParts}

theorem head_figures (proper : parts.Proper) :
    ∀ c ∈ (parts.figures ++ parts.closing).head?, isFigure c = true := by
  intro c isHead
  obtain ⟨first, rest, isCons⟩ := List.exists_cons_of_ne_nil proper.nonempty
  rw [isCons] at isHead
  obtain rfl := Option.some.inj isHead
  exact proper.figures first (isCons ▸ List.mem_cons_self)

theorem solid_body (proper : parts.Proper) :
    ∀ c ∈ parts.minuses ++ parts.figures, isBlank c = false := by
  intro c member
  rcases List.mem_append.1 member with isMinus | isFigure
  · rw [proper.minuses c isMinus]
    decide
  · exact (figure_facts (proper.figures c isFigure)).1

theorem head_body (proper : parts.Proper) :
    ∀ c ∈ (parts.minuses ++ parts.figures ++ parts.closing).head?, isBlank c = false := by
  intro c isHead
  have nonempty : parts.minuses ++ parts.figures ≠ [] :=
    List.append_ne_nil_of_right_ne_nil _ proper.nonempty
  obtain ⟨first, rest, isCons⟩ := List.exists_cons_of_ne_nil nonempty
  rw [isCons] at isHead
  obtain rfl := Option.some.inj isHead
  exact solid_body proper first (isCons ▸ List.mem_cons_self)

/-- The parts of a text that passes for a score are known from the text. -/
theorem Proper.ext
    (proper : parts.Proper) (othersProper : others.Proper) (same : parts.text = others.text) :
    parts = others := by
  obtain ⟨sameOpening, rest⟩ :=
    append_inj_of_heads same proper.opening othersProper.opening (head_body proper)
      (head_body othersProper)
  have isMinus {parts : ScoreParts} (proper : parts.Proper) :
      ∀ c ∈ parts.minuses, (c == '-') = true :=
    fun c member => beq_iff_eq.2 (proper.minuses c member)
  have noMinus {parts : ScoreParts} (proper : parts.Proper) :
      ∀ c ∈ (parts.figures ++ parts.closing).head?, (c == '-') = false :=
    fun c isHead => beq_eq_false_iff_ne.2 (figure_facts (head_figures proper c isHead)).2.1
  rw [List.append_assoc, List.append_assoc] at rest
  obtain ⟨sameMinuses, rest⟩ :=
    append_inj_of_heads rest (isMinus proper) (isMinus othersProper) (noMinus proper)
      (noMinus othersProper)
  have noFigure {parts : ScoreParts} (proper : parts.Proper) :
      ∀ c ∈ parts.closing.head?, isFigure c = false := by
    intro c isHead
    have blank := proper.closing c (List.mem_of_mem_head? isHead)
    refine Bool.eq_false_iff.2 fun figure => ?_
    rw [(figure_facts figure).1] at blank
    cases blank
  obtain ⟨sameFigures, sameClosing⟩ :=
    append_inj_of_heads rest proper.figures othersProper.figures (noFigure proper)
      (noFigure othersProper)
  cases parts
  cases others
  congr

theorem looksLikeScore_iff {value : List Char} :
    looksLikeScore value = true ↔ ∃ parts : ScoreParts, parts.Proper ∧ value = parts.text := by
  constructor
  · intro passes
    simp only [looksLikeScore, Bool.and_eq_true, Bool.not_eq_true', List.isEmpty_eq_false_iff]
      at passes
    obtain ⟨opening, closing, split, opens, closes⟩ := exists_trim value
    refine ⟨⟨opening, (trim value).takeWhile (· == '-'), (trim value).dropWhile (· == '-'),
      closing⟩, ⟨opens, ?_, passes.1, List.all_eq_true.1 passes.2, closes⟩, ?_⟩
    · intro c member
      exact beq_iff_eq.1 (holds_of_mem_takeWhile c member)
    · rw [text, List.takeWhile_append_dropWhile]
      exact split
  · rintro ⟨parts, proper, rfl⟩
    have trimmed : trim parts.text = parts.minuses ++ parts.figures :=
      (trimmed_of_solid (solid_body proper)).trim_append proper.opening proper.closing
    have isMinus : ∀ c ∈ parts.minuses, (c == '-') = true :=
      fun c member => beq_iff_eq.2 (proper.minuses c member)
    have noMinus : ∀ c ∈ parts.figures.head?, (c == '-') = false := fun c isHead =>
      beq_eq_false_iff_ne.2 (figure_facts (proper.figures c (List.mem_of_mem_head? isHead))).2.1
    have figures : (trim parts.text).dropWhile (· == '-') = parts.figures := by
      rw [trimmed, List.dropWhile_append_of_pos isMinus, dropWhile_eq_self_of_head noMinus]
    simp only [looksLikeScore, figures, Bool.and_eq_true, Bool.not_eq_true',
      List.isEmpty_eq_false_iff]
    exact ⟨proper.nonempty, List.all_eq_true.2 proper.figures⟩

/-! ## Numbers of scores -/

theorem not_mem_text {c : Char} (proper : parts.Proper) (solid : isBlank c = false)
    (other : c ≠ '-') (noFigure : isFigure c = false) : c ∉ parts.text := by
  intro member
  simp only [text, List.mem_append] at member
  rcases member with opens | (isMinus | figure) | closes
  · rw [proper.opening c opens] at solid
    cases solid
  · exact other (proper.minuses c isMinus)
  · rw [proper.figures c figure] at noFigure
    cases noFigure
  · rw [proper.closing c closes] at solid
    cases solid

theorem minuses_eq_signText (proper : parts.Proper) (single : parts.minuses.length ≤ 1) :
    parts.minuses = signText (!parts.minuses.isEmpty) := by
  have minuses := proper.minuses
  generalize parts.minuses = given at minuses single ⊢
  match given, minuses with
  | [], _ => rfl
  | [c], minuses =>
      rw [minuses c List.mem_cons_self]
      rfl
  | _ :: _ :: _, _ =>
      rw [List.length_cons, List.length_cons] at single
      omega

section

variable (proper : parts.Proper)
  (short : ∀ run, run <:+: parts.text → (∀ c ∈ run, isDigit c = true) → run.length ≤ digitLimit)
include proper short

theorem readInt_of_decimal (decimal : parts.Decimal) (spaced : parts.Spaced) :
    readInt parts.text = .ok parts.score := by
  have inside : parts.figures <:+: parts.text :=
    ⟨parts.opening ++ parts.minuses, parts.closing, by simp [text]⟩
  have read :=
    readInt_of_isRun (!parts.minuses.isEmpty) spaced.opening spaced.closing
      ⟨proper.nonempty, decimal.digits⟩ (short parts.figures inside decimal.digits)
  rw [← minuses_eq_signText proper decimal.single] at read
  rw [Tabletop.readInt, text, read]
  rfl

/-- Of what passes for a score only a decimal number between spaces is read. -/
theorem readInt_of_stray (stray : ¬(parts.Decimal ∧ parts.Spaced)) :
    ∃ shown, Tabletop.readInt parts.text = .error (.notAnInteger shown) := by
  have joined := not_mem_text (c := '_') proper (by decide) (by decide) (by decide)
  have unsigned := not_mem_text (c := '+') proper (by decide) (by decide) (by decide)
  rcases readInt_cases joined unsigned short with malformed | read
  · rw [Tabletop.readInt, malformed]
    exact ⟨_, rfl⟩
  · obtain ⟨opening, negative, digits, closing, split, opens, closes, isRun, -⟩ := read
    -- the parts that were read are the parts of the text
    have read : ScoreParts.Proper ⟨opening, signText negative, digits, closing⟩ := by
      refine ⟨fun c member => isBlank_of_isSpace (opens c member), ?_, isRun.nonempty, ?_,
        fun c member => isBlank_of_isSpace (closes c member)⟩
      · intro c member
        cases negative with
        | true => exact List.mem_singleton.1 member
        | false => cases member
      · intro c member
        rw [isFigure, isRun.all c member, Bool.true_or]
    obtain rfl := proper.ext read split
    refine absurd ⟨⟨?_, isRun.all⟩, ⟨opens, closes⟩⟩ stray
    cases negative with
    | true => exact Nat.le_refl 1
    | false => exact Nat.zero_le 1

end

end ScoreParts

end Tabletop.Command
