import Tabletop.Proofs.Pattern.Embedding
import Tabletop.Proofs.Prompt.Kinds
import Tabletop.Proofs.Text.Bracket
import Tabletop.Proofs.Text.Digit

/-!
# What suggestions hold

No form of prompt reads an opening bracket or a control character but the roll in brackets, which
reads a stretch of text from one bracket to the next closing one. Nothing else that a suggestion
says holds a bracket, and its numbers can be written.
-/

namespace Tabletop

open Numeral Pattern

/-- A pattern that asks for no set with a character reads no text with it. -/
theorem Pattern.not_mem_of_asksOnly
    {ι : Type} {pattern : Pattern ι} {c : Char} {text : List Char} {marks : Marks ι}
    (asks : pattern.asksOnly (fun set => !set.holds c) = true) (reads : pattern.Reads text marks) :
    c ∉ text := by
  induction pattern generalizing text marks with
  | nothing | wordEdge =>
      obtain ⟨rfl, -⟩ := reads
      exact List.not_mem_nil
  | one set =>
      obtain ⟨d, held, rfl, -⟩ := reads
      intro member
      obtain rfl := List.mem_singleton.1 member
      simp [asksOnly, held] at asks
  | many set least preference =>
      intro member
      have held := reads.1 c member
      simp [asksOnly, held] at asks
  | andThen first second firstStep secondStep =>
      obtain ⟨firstAsks, secondAsks⟩ := Bool.and_eq_true_iff.1 asks
      obtain ⟨opening, closing, _, _, opens, closes, rfl, -⟩ := reads
      rw [List.mem_append, not_or]
      exact ⟨firstStep firstAsks opens, secondStep secondAsks closes⟩
  | either first second firstStep secondStep =>
      obtain ⟨firstAsks, secondAsks⟩ := Bool.and_eq_true_iff.1 asks
      rcases reads with reads | reads
      · exact firstStep firstAsks reads
      · exact secondStep secondAsks reads
  | mark label pattern inductionHypothesis =>
      obtain ⟨inner, innerReads, -⟩ := reads
      exact inductionHypothesis asks innerReads

namespace Prompt

variable {form : Form} {text : List Char} {suggestion : Suggestion}

/-! ## Descriptions -/

theorem isWritable_of_number?
    {part : Option String} {number : Option Int} (read : number? part = .ok number) :
    ∀ n ∈ number, isWritable n = true := by
  cases part with
  | none =>
      cases read
      exact nofun
  | some digits =>
      obtain ⟨magnitude, digitsRead, rfl⟩ := map_eq_ok_iff.1 read
      rintro n ⟨⟩
      by_cases short : digits.toList.length ≤ digitLimit
      · rw [readNat_eq_ok short] at digitsRead
        rw [← Except.ok.inj digitsRead]
        exact isWritable_value short
      · rw [readNat, readDigits, if_neg short] at digitsRead
        cases digitsRead

theorem Form.isWritable_of_read
    {hit : Hit Label} {reading : Reading} (read : form.read hit = .ok reading) :
    (∀ n ∈ reading.difficulty, isWritable n = true) ∧
      ∀ n ∈ reading.armorClass, isWritable n = true := by
  rw [Form.read] at read
  split at read
  · rw [readBracket] at read
    obtain ⟨difficulty, difficultyRead, done⟩ := bind_eq_ok_iff.1 read
    obtain rfl := pure_eq_ok_iff.1 done
    have noArmorClass : ∀ n ∈ (none : Option Int), isWritable n = true := by
      intro n member
      cases member
    exact ⟨isWritable_of_number? difficultyRead, noArmorClass⟩
  · rw [readMarked] at read
    obtain ⟨difficulty, difficultyRead, read⟩ := bind_eq_ok_iff.1 read
    obtain ⟨armorClass, armorClassRead, done⟩ := bind_eq_ok_iff.1 read
    obtain rfl := pure_eq_ok_iff.1 done
    exact ⟨isWritable_of_number? difficultyRead, isWritable_of_number? armorClassRead⟩

/-- What a form marks as a skill holds no bracket. -/
theorem unopened_mark?_skill
    {hit : Hit Label} {said : String} (listed : form ∈ Form.all)
    (member : hit ∈ form.pattern.scan text) (isSaid : hit.mark? .skill = some said) :
    '[' ∉ said.toList := by
  obtain ⟨part, marked, rfl⟩ := Hit.exists_mem_marks isSaid
  obtain ⟨-, -, -, -, reads, -⟩ := findsIn_of_mem_scan member
  obtain ⟨inner, inParts, _, readsPart⟩ := part_of_mem_marks reads marked
  obtain rfl := eq_skill_of_mem_parts form listed inner inParts
  rw [String.toList_ofList]
  exact not_mem_of_asksOnly (by decide +kernel) readsPart

theorem unopened_skill_name (skill : Skill) : '[' ∉ skill.name.toList := by
  cases skill <;> decide

theorem unopened_ability_name (ability : Ability) : '[' ∉ ability.name.toList := by
  cases ability <;> decide

end Prompt

/-- A suggestion whose names hold no bracket and whose numbers can be written. -/
structure Suggestion.Reportable (suggestion : Suggestion) : Prop where
  ability : ∀ name ∈ suggestion.ability, '[' ∉ name.toList
  skill : ∀ name ∈ suggestion.skill, '[' ∉ name.toList
  difficulty : ∀ n ∈ suggestion.difficulty, isWritable n = true
  armorClass : ∀ n ∈ suggestion.armorClass, isWritable n = true

namespace Prompt

variable {form : Form} {text : List Char} {suggestion : Suggestion}

theorem Form.Proposes.reportable
    (listed : form ∈ Form.all) (proposed : form.Proposes text suggestion) :
    suggestion.Reportable := by
  obtain ⟨hit, member, reading, read, made⟩ := proposed
  obtain ⟨-, -, -, -, marked⟩ := Form.read_unmarked read
  obtain ⟨difficulty, armorClass⟩ := Form.isWritable_of_read read
  have named : ∀ name, reading.skillName? form.kind = some name → '[' ∉ name.toList := by
    intro name isNamed
    rcases Reading.skillName?_cases isNamed with ⟨-, known, rfl⟩ | ⟨said, isSaid, rfl⟩
    · exact unopened_skill_name known
    · exact Skill.unopened_normalForm (unopened_mark?_skill listed member (marked said isSaid))
  unfold Form.suggestion? at made
  split at made
  · cases made
    exact ⟨nofun, nofun, difficulty, armorClass⟩
  · obtain ⟨ability, -, rfl⟩ := Option.map_eq_some_iff.1 made
    refine ⟨?_, named, difficulty, armorClass⟩
    rintro name ⟨⟩
    exact unopened_ability_name ability

end Prompt

end Tabletop
