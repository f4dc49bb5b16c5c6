import Mathlib.Data.List.Forall2
import Tabletop.Proofs.Text.Blank

/-!
# Outlines of texts

An outline leaves open what may vary from text to text: the case of the letters, the white space
between the words and the numbers.
-/

namespace Tabletop

open Numeral Text

/-- A part of an outline. -/
inductive Token where
  /-- A small letter or its capital. -/
  | letter (c : Char)
  /-- Just this character. -/
  | sign (c : Char)
  /-- Some white space. -/
  | gap
  /-- One of the given numbers. -/
  | numeral (index : Nat)
  /-- Some digits. -/
  | figures
deriving DecidableEq, Repr

abbrev Outline := List Token

namespace Token

/-- The token for a character of a plain text. -/
def ofChar (c : Char) : Token :=
  if c = ' ' then .gap else if c.isLower then .letter c else .sign c

theorem ofChar_of_isLower {c : Char} (small : c.isLower = true) : ofChar c = .letter c := by
  have notGap : c ≠ ' ' := by
    rintro rfl
    exact absurd small (by decide)
  rw [ofChar, if_neg notGap, if_pos small]

/-- A text writes a token, given the numbers. -/
def WrittenAs (numbers : Nat → List Char) : Token → List Char → Prop
  | .letter c, text => text.map Char.toLower = [c]
  | .sign c, text => text = [c]
  | .gap, text => text ≠ [] ∧ ∀ c ∈ text, isBlank c = true
  | .numeral index, text => text = numbers index
  | .figures, text => text ≠ [] ∧ ∀ c ∈ text, isDigit c = true

instance decidableWrittenAs
    (numbers : Nat → List Char) : ∀ token text, Decidable (WrittenAs numbers token text)
  | .letter c, text => inferInstanceAs (Decidable (text.map Char.toLower = [c]))
  | .sign c, text => inferInstanceAs (Decidable (text = [c]))
  | .gap, text =>
      decidable_of_iff (text ≠ [] ∧ text.all isBlank = true) (by rw [List.all_eq_true]; rfl)
  | .numeral index, text => inferInstanceAs (Decidable (text = numbers index))
  | .figures, text =>
      decidable_of_iff (text ≠ [] ∧ text.all isDigit = true) (by rw [List.all_eq_true]; rfl)

/-- A character may occur where a token is written. -/
def Holds : Token → Char → Prop
  | .letter c, x => x.toLower = c
  | .sign c, x => x = c
  | .gap, x => isBlank x = true
  | .numeral _, x | .figures, x => isDigit x = true

/-- What is left of a token behind its first characters. -/
def inner? : Token → Option Token
  | .letter _ | .sign _ => none
  | .gap => some .gap
  | .numeral _ | .figures => some .figures

end Token

/-- The outline of a plain text, which leaves open the case of its small letters and its white
space. -/
def plain (text : String) : Outline :=
  text.toList.map Token.ofChar

/-- A text writes an outline if it falls into parts that write the tokens. -/
def Outline.WrittenAs (numbers : Nat → List Char) (outline : Outline) (text : List Char) : Prop :=
  ∃ parts, List.Forall₂ (Token.WrittenAs numbers) outline parts ∧ text = parts.flatten

section

variable {numbers : Nat → List Char}

/-! ## Tokens -/

namespace Token

variable {token : Token} {text : List Char}

theorem WrittenAs.nonempty
    (isRun : ∀ index, IsRun (numbers index)) (written : token.WrittenAs numbers text) :
    text ≠ [] := by
  cases token with
  | letter c =>
      rintro rfl
      simp [WrittenAs] at written
  | sign c =>
      rw [show text = [c] from written]
      exact List.cons_ne_nil _ _
  | gap => exact written.1
  | numeral index =>
      rw [show text = numbers index from written]
      exact (isRun index).nonempty
  | figures => exact written.1

theorem WrittenAs.holds
    (isRun : ∀ index, IsRun (numbers index)) (written : token.WrittenAs numbers text) :
    ∀ x ∈ text, token.Holds x := by
  intro x member
  cases token with
  | letter c =>
      have lowered : x.toLower ∈ text.map Char.toLower := List.mem_map_of_mem member
      rw [show text.map Char.toLower = [c] from written] at lowered
      exact List.mem_singleton.1 lowered
  | sign c =>
      rw [show text = [c] from written] at member
      exact List.mem_singleton.1 member
  | gap => exact written.2 x member
  | numeral index =>
      rw [show text = numbers index from written] at member
      exact (isRun index).all x member
  | figures => exact written.2 x member

/-- Behind its first characters a token goes on as what is left of it. -/
theorem WrittenAs.exists_inner
    {opening closing : List Char} (isRun : ∀ index, IsRun (numbers index))
    (written : token.WrittenAs numbers (opening ++ closing))
    (opened : opening ≠ []) (closed : closing ≠ []) :
    ∃ inner, token.inner? = some inner ∧ inner.WrittenAs numbers closing := by
  have held : ∀ x ∈ closing, token.Holds x :=
    fun x member => written.holds isRun x (List.mem_append_right opening member)
  have long : 2 ≤ (opening ++ closing).length := by
    have openedLength := List.length_pos_iff.2 opened
    have closedLength := List.length_pos_iff.2 closed
    rw [List.length_append]
    omega
  cases token with
  | letter c =>
      have short := congrArg List.length written
      rw [List.length_map, List.length_singleton] at short
      omega
  | sign c =>
      have short := congrArg List.length written
      rw [List.length_singleton] at short
      omega
  | gap => exact ⟨.gap, rfl, closed, held⟩
  | numeral index => exact ⟨.figures, rfl, closed, held⟩
  | figures => exact ⟨.figures, rfl, closed, held⟩

/-- Without an inside, a token is one character. -/
theorem WrittenAs.tail_eq_nil
    {x : Char} {others : List Char} (isRun : ∀ index, IsRun (numbers index))
    (written : token.WrittenAs numbers (x :: others)) (isWhole : token.inner? = none) :
    others = [] := by
  by_contra nonempty
  have isSplit : token.WrittenAs numbers ([x] ++ others) := written
  obtain ⟨inner, isInner, -⟩ := isSplit.exists_inner isRun (List.cons_ne_nil x []) nonempty
  rw [isWhole] at isInner
  cases isInner

end Token

/-! ## Outlines -/

namespace Outline

theorem writtenAs_nil_iff {text : List Char} : WrittenAs numbers [] text ↔ text = [] := by
  simp [WrittenAs]

theorem writtenAs_cons_iff
    {token : Token} {rest : Outline} {text : List Char} :
    WrittenAs numbers (token :: rest) text ↔
      ∃ part more,
        token.WrittenAs numbers part ∧ WrittenAs numbers rest more ∧ text = part ++ more := by
  constructor
  · rintro ⟨parts, written, rfl⟩
    cases written with
    | cons first others => exact ⟨_, _, first, ⟨_, others, rfl⟩, List.flatten_cons⟩
  · rintro ⟨part, _, first, ⟨parts, others, rfl⟩, rfl⟩
    exact ⟨part :: parts, List.Forall₂.cons first others, List.flatten_cons.symm⟩

theorem writtenAs_append_iff
    {first second : Outline} {text : List Char} :
    WrittenAs numbers (first ++ second) text ↔
      ∃ part more,
        WrittenAs numbers first part ∧ WrittenAs numbers second more ∧ text = part ++ more := by
  induction first generalizing text with
  | nil => simp [writtenAs_nil_iff]
  | cons token rest inductionHypothesis =>
      rw [List.cons_append, writtenAs_cons_iff]
      constructor
      · rintro ⟨part, _, isToken, written, rfl⟩
        obtain ⟨others, more, isRest, isSecond, rfl⟩ := inductionHypothesis.1 written
        have isFirst := writtenAs_cons_iff.2 ⟨part, others, isToken, isRest, rfl⟩
        exact ⟨part ++ others, more, isFirst, isSecond, (List.append_assoc _ _ _).symm⟩
      · rintro ⟨_, more, isFirst, isSecond, rfl⟩
        obtain ⟨part, others, isToken, isRest, rfl⟩ := writtenAs_cons_iff.1 isFirst
        have written := inductionHypothesis.2 ⟨others, more, isRest, isSecond, rfl⟩
        exact ⟨part, others ++ more, isToken, written, List.append_assoc _ _ _⟩

theorem WrittenAs.append
    {first second : Outline} {part more : List Char} (isFirst : first.WrittenAs numbers part)
    (isSecond : second.WrittenAs numbers more) :
    WrittenAs numbers (first ++ second) (part ++ more) :=
  writtenAs_append_iff.2 ⟨part, more, isFirst, isSecond, rfl⟩

theorem writtenAs_numeral_iff {index : Nat} {text : List Char} :
    WrittenAs numbers [.numeral index] text ↔ text = numbers index := by
  rw [writtenAs_cons_iff]
  constructor
  · rintro ⟨part, more, isNumeral, nothing, rfl⟩
    rw [writtenAs_nil_iff.1 nothing, List.append_nil]
    exact isNumeral
  · rintro rfl
    exact ⟨numbers index, [], rfl, writtenAs_nil_iff.2 rfl, (List.append_nil _).symm⟩

theorem WrittenAs.ne_nil
    {outline : Outline} {text : List Char} (isRun : ∀ index, IsRun (numbers index))
    (written : outline.WrittenAs numbers text) (nonempty : outline ≠ []) :
    text ≠ [] := by
  obtain ⟨token, rest, rfl⟩ := List.exists_cons_of_ne_nil nonempty
  obtain ⟨part, more, isToken, -, rfl⟩ := writtenAs_cons_iff.1 written
  exact List.append_ne_nil_of_left_ne_nil (isToken.nonempty isRun) more

theorem WrittenAs.exists_holds
    {outline : Outline} {text : List Char} (isRun : ∀ index, IsRun (numbers index))
    (written : outline.WrittenAs numbers text) :
    ∀ x ∈ text, ∃ token ∈ outline, token.Holds x := by
  induction outline generalizing text with
  | nil => simp [writtenAs_nil_iff.1 written]
  | cons token rest inductionHypothesis =>
      obtain ⟨part, more, isToken, isRest, rfl⟩ := writtenAs_cons_iff.1 written
      intro x member
      rcases List.mem_append.1 member with inPart | inMore
      · exact ⟨token, by simp, isToken.holds isRun x inPart⟩
      · obtain ⟨other, listed, held⟩ := inductionHypothesis isRest x inMore
        exact ⟨other, List.mem_cons_of_mem token listed, held⟩

/-- The last character of a text is held by the last token of its outline. -/
theorem WrittenAs.rel_getLast?
    {outline : Outline} {text : List Char} (isRun : ∀ index, IsRun (numbers index))
    (written : outline.WrittenAs numbers text) :
    Option.Rel Token.Holds outline.getLast? text.getLast? := by
  rcases List.eq_nil_or_concat outline with rfl | ⟨opening, token, rfl⟩
  · rw [writtenAs_nil_iff.1 written]
    exact Option.Rel.none
  · rw [List.concat_eq_append] at written
    obtain ⟨first, _, -, closing, rfl⟩ := writtenAs_append_iff.1 written
    obtain ⟨part, _, isToken, nothing, rfl⟩ := writtenAs_cons_iff.1 closing
    rw [writtenAs_nil_iff.1 nothing, List.append_nil]
    have nonempty : part ≠ [] := isToken.nonempty isRun
    have held : token.Holds (part.getLast nonempty) :=
      isToken.holds isRun _ (List.getLast_mem nonempty)
    rw [List.concat_eq_append, List.getLast?_append, List.getLast?_append,
      List.getLast?_eq_some_getLast nonempty]
    exact Option.Rel.some held

end Outline

/-! ## Plain texts -/

theorem toLower_of_isLower {c : Char} (small : c.isLower = true) : c.toLower = c := by
  have first : 'a'.val ≤ c.val := of_decide_eq_true (Bool.and_eq_true_iff.1 small).1
  have notCapital : ¬('A'.val ≤ c.val ∧ c.val ≤ 'Z'.val) := by
    rintro ⟨-, last⟩
    exact absurd (UInt32.le_trans first last) (by decide)
  exact dif_neg notCapital

theorem Token.writtenAs_ofChar (c : Char) : (ofChar c).WrittenAs numbers [c] := by
  by_cases space : c = ' '
  · subst space
    have blank : isBlank ' ' = true := by decide
    exact ⟨List.cons_ne_nil ' ' [], List.forall_mem_singleton.2 blank⟩
  · by_cases small : c.isLower = true
    · rw [ofChar, if_neg space, if_pos small]
      exact congrArg (fun x => [x]) (toLower_of_isLower small)
    · rw [ofChar, if_neg space, if_neg small]
      rfl

/-- A plain text is written as it stands. -/
theorem writtenAs_plain (text : String) : (plain text).WrittenAs numbers text.toList := by
  unfold plain
  induction text.toList with
  | nil => exact Outline.writtenAs_nil_iff.2 rfl
  | cons c letters inductionHypothesis =>
      exact Outline.writtenAs_cons_iff.2
        ⟨[c], letters, Token.writtenAs_ofChar c, inductionHypothesis, rfl⟩

/-- What is written like a word of small letters is that word in some case. -/
theorem map_toLower_of_written
    {word text : List Char} (small : ∀ c ∈ word, c.isLower = true)
    (written : Outline.WrittenAs numbers (word.map Token.ofChar) text) :
    text.map Char.toLower = word := by
  induction word generalizing text with
  | nil => simp [Outline.writtenAs_nil_iff.1 written]
  | cons c word inductionHypothesis =>
      have smallFirst : c.isLower = true := small c (by simp)
      obtain ⟨part, more, isFirst, isRest, rfl⟩ := Outline.writtenAs_cons_iff.1 written
      rw [Token.ofChar_of_isLower smallFirst] at isFirst
      have first : part.map Char.toLower = [c] := isFirst
      have others := inductionHypothesis (fun c member => small c (by simp [member])) isRest
      rw [List.map_append, first, others]
      rfl

/-- What is written like words of small letters has these words, each in some case. -/
theorem wordsFrom_of_written
    {phrase text : List Char} (small : ∀ c ∈ phrase, c = ' ' ∨ c.isLower = true)
    (written : Outline.WrittenAs numbers (phrase.map Token.ofChar) text) (letters : List Char) :
    wordsFrom letters (text.map Char.toLower) = wordsFrom letters phrase := by
  induction phrase generalizing text letters with
  | nil => simp [Outline.writtenAs_nil_iff.1 written]
  | cons c phrase inductionHypothesis =>
      obtain ⟨part, more, isFirst, isRest, rfl⟩ := Outline.writtenAs_cons_iff.1 written
      have others := inductionHypothesis (fun c member => small c (by simp [member])) isRest
      rw [List.map_append]
      rcases small c (by simp) with rfl | smallFirst
      · obtain ⟨nonempty, blank⟩ : part ≠ [] ∧ ∀ x ∈ part, isBlank x = true := isFirst
        have unchanged : part.map Char.toLower = part := by
          rw [List.map_congr_left fun x member => toLower_of_isBlank (blank x member), List.map_id']
        have space : isBlank ' ' = true := by decide
        rw [unchanged, wordsFrom_append_of_isBlank nonempty blank, wordsFrom_of_isBlank space,
          wordsFrom_of_isBlank space, others []]
      · rw [Token.ofChar_of_isLower smallFirst] at isFirst
        have first : part.map Char.toLower = [c] := isFirst
        have solid : isBlank c = false := isBlank_of_isLower smallFirst
        rw [first, List.singleton_append, wordsFrom_of_not_isBlank solid,
          wordsFrom_of_not_isBlank solid, others]

end

end Tabletop
