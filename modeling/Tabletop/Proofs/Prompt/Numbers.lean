import Tabletop.Proofs.Pattern.Numerals
import Tabletop.Proofs.Prompt.Candidates

/-!
# The numbers of a prompt

Prompts give numbers only behind the letter c, as in "DC 12" and "AC 15". If no such number of a
text is too long, everything that the forms find in it can be read.
-/

namespace Tabletop.Prompt

open Numeral Pattern Text

/-- No number behind a letter c is too long to be read. -/
def NumbersFit : List Char → Prop
  | [] => True
  | c :: rest =>
      (fold c = 'c' → ((rest.dropWhile isBlank).takeWhile isDigit).length ≤ digitLimit) ∧
        NumbersFit rest

theorem NumbersFit.of_suffix
    {text suffix : List Char} (fit : NumbersFit text) (isSuffix : suffix <:+ text) :
    NumbersFit suffix := by
  induction text with
  | nil =>
      rw [List.suffix_nil.1 isSuffix]
      exact trivial
  | cons c rest inductionHypothesis =>
      rcases List.suffix_cons_iff.1 isSuffix with rfl | isSuffix
      · exact fit
      · exact inductionHypothesis fit.2 isSuffix

theorem NumbersFit.append
    {text more : List Char} (fit : NumbersFit more) (noLetter : ∀ c ∈ text, fold c ≠ 'c') :
    NumbersFit (text ++ more) := by
  induction text with
  | nil => exact fit
  | cons c text inductionHypothesis =>
      have others := inductionHypothesis fun x member => noLetter x (List.mem_cons_of_mem c member)
      exact ⟨fun folded => absurd folded (noLetter c (by simp)), others⟩

/-- The numbers of a text fit if its runs of digits are short. -/
theorem numbersFit_of_short_runs
    {text : List Char}
    (short : ∀ run, run <:+: text → (∀ c ∈ run, isDigit c = true) → run.length ≤ digitLimit) :
    NumbersFit text := by
  induction text with
  | nil => exact trivial
  | cons c rest inductionHypothesis =>
      constructor
      · intro _
        apply short
        · have inRest : (rest.dropWhile isBlank).takeWhile isDigit <:+: rest :=
            (List.takeWhile_prefix _).isInfix.trans (List.dropWhile_suffix _).isInfix
          exact inRest.trans (List.suffix_cons c rest).isInfix
        · intro digit member
          exact List.all_eq_true.1 List.all_takeWhile digit member
      · exact inductionHypothesis fun run inside =>
          short run (inside.trans (List.suffix_cons c rest).isInfix)

theorem NumbersFit.length_le
    {text run : List Char} (fit : NumbersFit text) (behind : NumeralBehind 'c' text run) :
    run.length ≤ digitLimit := by
  obtain ⟨before, c, blanks, after, rfl, isLetter, blank, isRun⟩ := behind
  have atLetter : NumbersFit (c :: (blanks ++ (run ++ after))) :=
    fit.of_suffix (List.suffix_append before _)
  have bound := atLetter.1 isLetter
  have skipped : (blanks ++ (run ++ after)).dropWhile isBlank = run ++ after := by
    rw [List.dropWhile_append_of_pos blank]
    cases run with
    | nil => exact absurd rfl isRun.nonempty
    | cons digit run => simp [isBlank_of_isDigit (isRun.all digit (by simp))]
  rw [skipped, List.takeWhile_append_of_pos isRun.all, List.length_append] at bound
  omega

/-- All numbers that forms mark stand behind a letter c. -/
theorem marksNumerals_forms :
    ∀ form ∈ Form.all, ∀ label ∈ [Label.difficulty, .trailingDifficulty, .armorClass],
      form.pattern.marksNumerals 'c' label = true := by
  decide

theorem exists_number
    {part : Option String}
    (short : ∀ digits, part = some digits → digits.toList.length ≤ digitLimit) :
    ∃ number, number? part = .ok number := by
  cases part with
  | none => exact ⟨none, rfl⟩
  | some digits =>
      rw [number?, readNat_eq_ok (short digits rfl)]
      exact ⟨_, rfl⟩

theorem Form.exists_reading
    {form : Form} {text : List Char} {hit : Hit Label}
    (listed : form ∈ Form.all) (fit : NumbersFit text) (member : hit ∈ form.pattern.scan text) :
    ∃ reading, form.read hit = .ok reading := by
  have short :
      ∀ label ∈ [Label.difficulty, .trailingDifficulty, .armorClass],
        ∀ digits, hit.mark? label = some digits → digits.toList.length ≤ digitLimit := by
    intro label labelListed digits isSaid
    obtain ⟨before, rest, rfl, -, reads, -⟩ := findsIn_of_mem_scan member
    obtain ⟨part, marked, rfl⟩ := Hit.exists_mem_marks isSaid
    rw [String.toList_ofList]
    have inHit : NumeralBehind 'c' hit.text part :=
      numeralBehind_of_mem_marks (marksNumerals_forms form listed label labelListed) reads marked
    exact fit.length_le (inHit.widen ⟨before, rest, by simp⟩)
  have armorClassRead := exists_number (short .armorClass (by simp))
  obtain ⟨armorClass, armorClassDone⟩ := armorClassRead
  have difficultyRead := exists_number (short .difficulty (by simp))
  obtain ⟨difficulty, difficultyDone⟩ := difficultyRead
  have eitherRead :
      ∃ number,
        number? ((hit.mark? .difficulty).or (hit.mark? .trailingDifficulty)) = .ok number := by
    apply exists_number
    intro digits isSaid
    rcases Option.or_eq_some_iff.1 isSaid with isSaid | ⟨-, isSaid⟩
    · exact short .difficulty (by simp) digits isSaid
    · exact short .trailingDifficulty (by simp) digits isSaid
  obtain ⟨either, eitherDone⟩ := eitherRead
  rw [Form.read]
  split
  · rw [readBracket, difficultyDone]
    exact ⟨_, rfl⟩
  · rw [readMarked, eitherDone, armorClassDone]
    exact ⟨_, rfl⟩

/-- If the numbers of a text fit, its prompts are found. -/
theorem exists_suggestions {text : String} (fit : NumbersFit text.toList) :
    ∃ found, suggestions text = .ok found := by
  obtain ⟨all, done⟩ := exists_candidates fun form listed hit member =>
    Form.exists_reading listed fit member
  exact ⟨_, suggestions_eq_ok_iff.2 ⟨all, done, rfl⟩⟩

end Tabletop.Prompt
