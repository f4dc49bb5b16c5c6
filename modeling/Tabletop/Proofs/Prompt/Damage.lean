import Tabletop.Proofs.Dice.Notation
import Tabletop.Proofs.Prompt.Candidates
import Tabletop.Proofs.Text.Case

/-!
# The damage of a prompt

Without its white space and in small letters, what a prompt marks as damage is dice notation.
-/

namespace Tabletop.Prompt

open Numeral Pattern Text

deriving instance DecidableEq for Pattern

/-- Only dice are marked as damage. -/
theorem eq_dice_of_mem_parts :
    ∀ form ∈ Form.all, ∀ part ∈ form.pattern.parts .damage, part = dice := by
  decide

theorem compact_eq_map
    {text : List Char}
    (alone : ∀ c ∈ text, isBlank c = false → lowersAlone c = true) :
    compact (String.ofList text) =
      String.ofList ((text.filter fun c => !isBlank c).map Char.toLower) := by
  rw [compact, String.toList_ofList]
  apply lower_eq_map
  intro c member
  obtain ⟨inText, solid⟩ := List.mem_filter.1 member
  exact alone c inText (by simpa using solid)

/-- Digits stay as they are when a text is made compact. -/
theorem compacted_digits
    {digits : List Char} (all : ∀ c ∈ digits, isDigit c = true) :
    (digits.filter fun c => !isBlank c).map Char.toLower = digits := by
  have solid : digits.filter (fun c => !isBlank c) = digits := by
    rw [List.filter_eq_self]
    intro c member
    simp [isBlank_of_isDigit (all c member)]
  rw [solid, map_toLower_of_digits all]

theorem compacted_blanks
    {blanks : List Char} (all : ∀ c ∈ blanks, isBlank c = true) :
    blanks.filter (fun c => !isBlank c) = [] := by
  rw [List.filter_eq_nil_iff]
  intro c member
  simp [all c member]

/-- A run of digits that a pattern reads. -/
theorem isRun_of_reads_digits
    {text : List Char} {marks : Marks Label} (reads : (digits : Pattern Label).Reads text marks) :
    IsRun text := by
  obtain ⟨all, enough, -⟩ := reads
  exact ⟨List.ne_nil_of_length_pos enough, all⟩

/-- The sign and the modifier that dice may have. -/
def addition : Pattern Label :=
  sequence [space, .one (.oneOf ['+', '-']), space, digits]

theorem exists_modifier_of_reads
    {text : List Char} {marks : Marks Label} (reads : (optional addition).Reads text marks) :
    ∃ modifier : Option (Bool × List Char),
      (text.filter fun c => !isBlank c).map Char.toLower = Dice.Parts.modifierText modifier ∧
        (∀ c ∈ text, isBlank c = false → lowersAlone c = true) ∧
        ∀ run ∈ (modifier.map Prod.snd).toList, IsRun run ∧ run <:+: text := by
  rcases reads with reads | ⟨rfl, -⟩
  · obtain ⟨blanks, signed, _, _, ⟨blank, -⟩, reads, rfl, -⟩ := reads
    obtain ⟨_, unsigned, _, _, ⟨sign, isSign, rfl, -⟩, reads, rfl, -⟩ := reads
    obtain ⟨moreBlanks, digits, _, _, ⟨moreBlank, -⟩, reads, rfl, -⟩ := reads
    have run : IsRun digits := isRun_of_reads_digits reads
    have signCases : sign = '+' ∨ sign = '-' := by
      simpa [CharClass.holds] using isSign
    have compacted :
        ((blanks ++ ([sign] ++ (moreBlanks ++ digits))).filter fun c => !isBlank c).map
            Char.toLower = sign :: digits := by
      have solidSign : isBlank sign = false ∧ sign.toLower = sign := by
        rcases signCases with rfl | rfl <;> decide
      simp only [List.filter_append, List.map_append, compacted_blanks blank,
        compacted_blanks moreBlank, compacted_digits run.all]
      simp [solidSign.1, solidSign.2]
    have alone :
        ∀ c ∈ blanks ++ ([sign] ++ (moreBlanks ++ digits)),
          isBlank c = false → lowersAlone c = true := by
      intro c member solid
      simp only [List.mem_append, List.mem_singleton] at member
      rcases member with inBlanks | rfl | inBlanks | inDigits
      · have isBlank : isBlank c = true := blank c inBlanks
        rw [isBlank] at solid
        cases solid
      · rcases signCases with rfl | rfl <;> decide
      · have isBlank : isBlank c = true := moreBlank c inBlanks
        rw [isBlank] at solid
        cases solid
      · exact lowersAlone_of_isDigit (run.all c inDigits)
    have inside : digits <:+: blanks ++ ([sign] ++ (moreBlanks ++ digits)) :=
      ⟨blanks ++ ([sign] ++ moreBlanks), [], by simp⟩
    refine ⟨some (sign == '-', digits), ?_, alone, ?_⟩
    · rw [compacted]
      rcases signCases with rfl | rfl <;> rfl
    · intro found member
      obtain rfl : found = digits := by simpa using member
      exact ⟨run, inside⟩
  · exact ⟨none, by simp [Dice.Parts.modifierText], by simp, by simp⟩

/-- Compact dice are notation whose numbers stand in the text. -/
theorem exists_parts_of_reads_dice
    {text : List Char} {marks : Marks Label} (reads : dice.Reads text marks) :
    ∃ parts : Dice.Parts,
      parts.Proper ∧ compact (String.ofList text) = String.ofList parts.text ∧
        ∀ run ∈ parts.runs, run <:+: text := by
  obtain ⟨count, rest, _, _, countReads, reads, rfl, -⟩ := reads
  obtain ⟨_, rest, _, _, ⟨mark, isMark, rfl, -⟩, reads, rfl, -⟩ := reads
  obtain ⟨sides, tail, _, _, sidesReads, reads, rfl, -⟩ := reads
  have countRun : IsRun count := isRun_of_reads_digits countReads
  have sidesRun : IsRun sides := isRun_of_reads_digits sidesReads
  obtain ⟨modifier, tailCompact, tailAlone, modifierRuns⟩ := exists_modifier_of_reads reads
  have plainMark : mark.toNat < 128 ∧ mark.toLower = 'd' :=
    plain_of_fold (by decide) (by decide) (beq_iff_eq.1 isMark)
  have solidMark : isBlank mark = false := by
    have solid : (mark.toLower != 'd' || !isBlank mark) = true :=
      of_plain (fun c => c.toLower != 'd' || !isBlank c) plainMark.1 (by decide)
    simpa [plainMark.2] using solid
  refine ⟨⟨count, sides, modifier⟩, ?_, ?_, ?_⟩
  · intro run member
    rcases List.mem_cons.1 member with rfl | member
    · exact countRun
    · rcases List.mem_cons.1 member with rfl | member
      · exact sidesRun
      · exact (modifierRuns run member).1
  · rw [compact_eq_map]
    · simp only [List.filter_append, List.map_append, compacted_digits countRun.all,
        compacted_digits sidesRun.all, tailCompact]
      simp [solidMark, plainMark.2, Dice.Parts.text]
    · intro c member solid
      simp only [List.mem_append, List.mem_singleton] at member
      rcases member with inCount | rfl | inSides | inTail
      · exact lowersAlone_of_isDigit (countRun.all c inCount)
      · exact lowersAlone_of_plain plainMark.1
      · exact lowersAlone_of_isDigit (sidesRun.all c inSides)
      · exact tailAlone c inTail solid
  · intro run member
    rcases List.mem_cons.1 member with rfl | member
    · exact ⟨[], [mark] ++ (sides ++ tail), by simp⟩
    · rcases List.mem_cons.1 member with rfl | member
      · exact ⟨count ++ [mark], tail, by simp⟩
      · have inTail : tail <:+: count ++ ([mark] ++ (sides ++ tail)) :=
          ⟨count ++ [mark] ++ sides, [], by simp⟩
        exact (modifierRuns run member).2.trans inTail

/-- The damage of a suggestion is dice notation whose numbers stand in the text. -/
theorem Form.Proposes.exists_parts
    {form : Form} {text : List Char} {suggestion : Suggestion} {damage : String}
    (listed : form ∈ Form.all) (proposed : form.Proposes text suggestion)
    (does : suggestion.damage = some damage) :
    ∃ parts : Dice.Parts,
      parts.Proper ∧ damage = String.ofList parts.text ∧ ∀ run ∈ parts.runs, run <:+: text := by
  obtain ⟨hit, member, reading, read, made⟩ := proposed
  obtain ⟨-, -, sameDamage⟩ := Form.suggestion?_base made
  rw [sameDamage] at does
  rw [Form.read] at read
  split at read
  · simp only [readBracket, bind_eq_ok_iff, pure_eq_ok_iff] at read
    obtain ⟨_, -, rfl⟩ := read
    cases does
  · simp only [readMarked, bind_eq_ok_iff, pure_eq_ok_iff] at read
    obtain ⟨_, -, _, -, rfl⟩ := read
    obtain ⟨said, isSaid, rfl⟩ := Option.map_eq_some_iff.1 does
    obtain ⟨part, marked, rfl⟩ := Hit.exists_mem_marks isSaid
    obtain ⟨_, _, -, -, reads, -⟩ := findsIn_of_mem_scan member
    obtain ⟨inner, partListed, _, partReads⟩ := part_of_mem_marks reads marked
    rw [eq_dice_of_mem_parts form listed inner partListed] at partReads
    obtain ⟨parts, proper, same, inside⟩ := exists_parts_of_reads_dice partReads
    refine ⟨parts, proper, same, fun run isRun => ?_⟩
    exact (inside run isRun).trans ((findsIn_of_mem_scan member).infix_of_mem_marks marked)

end Tabletop.Prompt
