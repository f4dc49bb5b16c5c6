import Tabletop.Proofs.Pattern.Tracking
import Tabletop.Proofs.Prompt.Damage
import Tabletop.Proofs.Prompt.Whole
import Tabletop.Proofs.Prompt.Wording

/-!
# Prompts in the usual wordings

A prompt in a usual wording is found as a whole, and what it suggests is what it says, however its
letters are cased and its words are spaced and whatever its numbers are.
-/

namespace Tabletop.Prompt

open Numeral Pattern Text

namespace Wording

section

variable {numbers : Nat → List Char}

/-! ## Numbers -/

theorem takeWhile_isDigit_eq_nil
    {outline : Outline} {text : List Char} (isRun : ∀ index, IsRun (numbers index))
    (noDigit : (outline.head?.all fun next => next.inSet? .digit == some false) = true)
    (written : outline.WrittenAs numbers text) :
    text.takeWhile isDigit = [] := by
  cases outline with
  | nil => simp [Outline.writtenAs_nil_iff.1 written]
  | cons token rest =>
      obtain ⟨part, more, isToken, -, rfl⟩ := Outline.writtenAs_cons_iff.1 written
      obtain ⟨x, others, rfl⟩ := List.exists_cons_of_ne_nil (isToken.nonempty isRun)
      have known : token.inSet? .digit = some false := by simpa using noDigit
      have notDigit : isDigit x = false :=
        Token.inSet?_sound known (isToken.holds isRun x (by simp))
      simp [notDigit]

theorem numberAhead_le
    {outline : Outline} {text : List Char} (isRun : ∀ index, IsRun (numbers index))
    (short : (numbers 0).length ≤ digitLimit) (fits : numberAheadFits outline = true)
    (written : outline.WrittenAs numbers text) :
    ((text.dropWhile isBlank).takeWhile isDigit).length ≤ digitLimit := by
  induction outline generalizing text with
  | nil => simp [Outline.writtenAs_nil_iff.1 written]
  | cons token rest inductionHypothesis =>
      obtain ⟨part, more, isToken, isRest, rfl⟩ := Outline.writtenAs_cons_iff.1 written
      unfold numberAheadFits at fits
      split at fits
      · rename_i isGap
        subst isGap
        rw [List.dropWhile_append_of_pos isToken.2]
        exact inductionHypothesis fits isRest
      · split at fits
        · rename_i isFirst
          subst isFirst
          obtain rfl : part = numbers 0 := isToken
          have kept : (numbers 0 ++ more).dropWhile isBlank = numbers 0 ++ more := by
            obtain ⟨x, others, split⟩ := List.exists_cons_of_ne_nil (isRun 0).nonempty
            have notBlank : isBlank x = false :=
              isBlank_of_isDigit ((isRun 0).all x (by simp [split]))
            simp [split, notBlank]
          rw [kept, List.takeWhile_append_of_pos (isRun 0).all,
            takeWhile_isDigit_eq_nil isRun fits isRest, List.append_nil]
          exact short
        · obtain ⟨x, others, rfl⟩ := List.exists_cons_of_ne_nil (isToken.nonempty isRun)
          have held : token.Holds x := isToken.holds isRun x (by simp)
          simp only [Bool.and_eq_true, beq_iff_eq] at fits
          have notBlank : isBlank x = false := Token.inSet?_sound fits.1 held
          have notDigit : isDigit x = false := Token.inSet?_sound fits.2 held
          simp [notBlank, notDigit]

/-- The numbers of a text fit if the first one does and no other one stands behind a letter c. -/
theorem numbersFit_of_written
    {outline : Outline} {text : List Char} (isRun : ∀ index, IsRun (numbers index))
    (short : (numbers 0).length ≤ digitLimit) (fits : numbersFit outline = true)
    (written : outline.WrittenAs numbers text) :
    NumbersFit text := by
  induction outline generalizing text with
  | nil =>
      rw [Outline.writtenAs_nil_iff.1 written]
      exact trivial
  | cons token rest inductionHypothesis =>
      obtain ⟨part, more, isToken, isRest, rfl⟩ := Outline.writtenAs_cons_iff.1 written
      simp only [numbersFit, Bool.and_eq_true, Bool.or_eq_true, beq_iff_eq,
        Option.isNone_iff_eq_none] at fits
      have restFits : NumbersFit more := inductionHypothesis fits.2 isRest
      rcases fits.1 with noLetter | ⟨isWhole, aheadFits⟩
      · apply restFits.append
        intro x member folded
        have unlike : (fold x == 'c') = false :=
          Token.inSet?_sound noLetter (isToken.holds isRun x member)
        simp [folded] at unlike
      · obtain ⟨x, others, rfl⟩ := List.exists_cons_of_ne_nil (isToken.nonempty isRun)
        obtain rfl := isToken.tail_eq_nil isRun isWhole
        exact ⟨fun _ => numberAhead_le isRun short aheadFits isRest, restFits⟩

/-! ## What is marked -/

/-- The marks of a hit write what a wording marks. -/
def MarkedBy (wording : Wording) (numbers : Nat → List Char) (hit : Hit Label) : Prop :=
  ∀ label ∈ labels,
    Option.Rel (Outline.WrittenAs numbers) (wording.marked? label) (hit.marks.lookup label)

variable {wording : Wording} {hit : Hit Label}

theorem MarkedBy.mark?_eq_none
    (isMarked : wording.MarkedBy numbers hit) (label : Label) (listed : label ∈ labels)
    (unmarked : wording.marked? label = none) :
    hit.mark? label = none := by
  have related := isMarked label listed
  rw [unmarked] at related
  unfold Hit.mark?
  cases found : hit.marks.lookup label with
  | none => rfl
  | some part =>
      rw [found] at related
      cases related

theorem MarkedBy.exists_mark?
    (isMarked : wording.MarkedBy numbers hit) (label : Label) {outline : Outline}
    (listed : label ∈ labels) (marked : wording.marked? label = some outline) :
    ∃ part, hit.mark? label = some (String.ofList part) ∧ outline.WrittenAs numbers part := by
  have related := isMarked label listed
  rw [marked] at related
  unfold Hit.mark?
  cases found : hit.marks.lookup label with
  | none =>
      rw [found] at related
      cases related
  | some part =>
      rw [found] at related
      cases related with
      | some written => exact ⟨part, rfl, written⟩

/-! ## Reading the marks -/

theorem MarkedBy.number?_eq
    (isMarked : wording.MarkedBy numbers hit) (label : Label) {index : Nat}
    (listed : label ∈ labels) (marked : wording.marked? label = some [.numeral index])
    (short : (numbers index).length ≤ digitLimit) :
    number? (hit.mark? label) = .ok (some (value (numbers index) : Int)) := by
  obtain ⟨part, isSaid, written⟩ := isMarked.exists_mark? label listed marked
  obtain rfl := Outline.writtenAs_numeral_iff.1 written
  rw [isSaid, number?, String.toList_ofList, readNat_eq_ok short]
  rfl

theorem MarkedBy.difficulty_eq
    (isMarked : wording.MarkedBy numbers hit) (short : (numbers 0).length ≤ digitLimit)
    (text : String) :
    number? ((hit.mark? .difficulty).or (hit.mark? .trailingDifficulty)) =
      .ok (wording.suggestion numbers text).difficulty := by
  cases wording with
  | requestedAttack mode =>
      rw [isMarked.mark?_eq_none .difficulty (by decide) rfl,
        isMarked.mark?_eq_none .trailingDifficulty (by decide) rfl]
      rfl
  | _ =>
      have read := isMarked.number?_eq .difficulty (by decide) rfl short
      obtain ⟨part, isSaid, -⟩ := isMarked.exists_mark? .difficulty (by decide) rfl
      rw [isSaid] at read
      rw [isSaid, Option.some_or, read]
      rfl

theorem MarkedBy.armorClass_eq
    (isMarked : wording.MarkedBy numbers hit) (short : (numbers 0).length ≤ digitLimit)
    (text : String) :
    number? (hit.mark? .armorClass) = .ok (wording.suggestion numbers text).armorClass := by
  cases wording with
  | requestedAttack mode => exact isMarked.number?_eq .armorClass (by decide) rfl short
  | _ =>
      rw [isMarked.mark?_eq_none .armorClass (by decide) rfl]
      rfl

theorem MarkedBy.mode_eq (isMarked : wording.MarkedBy numbers hit) (text : String) :
    (hit.mark? .mode).map Text.lower = (wording.suggestion numbers text).mode := by
  cases wording with
  | requestedAttack mode =>
      obtain ⟨part, isSaid, written⟩ := isMarked.exists_mark? .mode (by decide) rfl
      have small : ∀ c ∈ mode.name.toList, c.isLower = true := by
        have all : mode.name.toList.all Char.isLower = true := by
          cases mode <;> decide
        exact List.all_eq_true.1 all
      rw [isSaid, Option.map_some, lower_of_written small written]
      rfl
  | _ =>
      rw [isMarked.mark?_eq_none .mode (by decide) rfl]
      rfl

theorem MarkedBy.skill_eq
    (isRun : ∀ index, IsRun (numbers index)) (isMarked : wording.MarkedBy numbers hit)
    (text : String) :
    (hit.mark? .skill).map Skill.normalForm = (wording.suggestion numbers text).skill := by
  cases wording with
  | abilitySkillCheck short ability skill
  | difficultyAbilitySkillCheck short ability skill
  | skillCheck skill =>
      obtain ⟨part, isSaid, written⟩ := isMarked.exists_mark? .skill (by decide) rfl
      rw [isSaid, Option.map_some, Skill.normalForm_of_written isRun written]
      rfl
  | _ =>
      rw [isMarked.mark?_eq_none .skill (by decide) rfl]
      rfl

theorem compact_of_written
    {part : List Char} (isRun : ∀ index, IsRun (numbers index))
    (written : damageOutline.WrittenAs numbers part) :
    compact (String.ofList part) =
      String.ofList (numbers 1 ++ ['d'] ++ numbers 2 ++ ['+'] ++ numbers 3) := by
  have split :
      damageOutline = [.numeral 1, .letter 'd', .numeral 2, .sign '+', .numeral 3] := by
    decide
  rw [split] at written
  obtain ⟨_, _, rfl, behindCount, rfl⟩ := Outline.writtenAs_cons_iff.1 written
  obtain ⟨mark, _, isMark, behindMark, rfl⟩ := Outline.writtenAs_cons_iff.1 behindCount
  obtain ⟨_, _, rfl, behindSides, rfl⟩ := Outline.writtenAs_cons_iff.1 behindMark
  obtain ⟨_, _, rfl, behindSign, rfl⟩ := Outline.writtenAs_cons_iff.1 behindSides
  obtain ⟨_, _, rfl, nothing, rfl⟩ := Outline.writtenAs_cons_iff.1 behindSign
  obtain rfl := Outline.writtenAs_nil_iff.1 nothing
  have lowered : mark.map Char.toLower = ['d'] := isMark
  obtain ⟨x, rfl, isD⟩ : ∃ x, mark = [x] ∧ x.toLower = 'd' := List.map_eq_singleton_iff.1 lowered
  have small : x.toLower.isLower = true := by
    rw [isD]
    decide
  have notBlank : isBlank x = false := (Token.letter_facts small).2.2.1
  have alone :
      ∀ c ∈ numbers 1 ++ ([x] ++ (numbers 2 ++ (['+'] ++ (numbers 3 ++ [])))),
        isBlank c = false → lowersAlone c = true := by
    intro c member _
    simp only [List.mem_append, List.mem_singleton, List.not_mem_nil, or_false] at member
    rcases member with inNumber | rfl | inNumber | rfl | inNumber
    · exact lowersAlone_of_isDigit ((isRun 1).all c inNumber)
    · exact lowersAlone_of_plain (plain_of_isLower_toLower small)
    · exact lowersAlone_of_isDigit ((isRun 2).all c inNumber)
    · decide
    · exact lowersAlone_of_isDigit ((isRun 3).all c inNumber)
  have solidSign : isBlank '+' = false ∧ '+'.toLower = '+' := by decide
  rw [compact_eq_map alone]
  simp only [List.filter_append, List.map_append, compacted_digits (isRun _).all]
  simp [notBlank, isD, solidSign]

theorem MarkedBy.damage_eq
    (isRun : ∀ index, IsRun (numbers index)) (isMarked : wording.MarkedBy numbers hit)
    (text : String) :
    (hit.mark? .damage).map compact = (wording.suggestion numbers text).damage := by
  cases wording with
  | requestedAttack mode =>
      obtain ⟨part, isSaid, written⟩ := isMarked.exists_mark? .damage (by decide) rfl
      rw [isSaid, Option.map_some, compact_of_written isRun written]
      rfl
  | _ =>
      rw [isMarked.mark?_eq_none .damage (by decide) rfl]
      rfl

/-- The ability that a wording names, by itself or by its skill. -/
def ability? : Wording → Option Ability
  | .requestedCheck _ ability
  | .abilitySkillCheck _ ability _
  | .difficultyAbilitySkillCheck _ ability _
  | .requestedSave _ ability
  | .abilitySave _ ability => some ability
  | .skillCheck skill => some skill.ability
  | .requestedAttack _ => none

/-- What the form of a wording reads. -/
def reading (wording : Wording) (hit : Hit Label) (numbers : Nat → List Char) (text : String) :
    Reading :=
  let said := wording.suggestion numbers text
  { name := hit.mark? .name
    ability := hit.mark? .ability
    skill := hit.mark? .skill
    difficulty := said.difficulty
    armorClass := said.armorClass
    damage := said.damage
    mode := said.mode }

theorem MarkedBy.read_eq
    (isRun : ∀ index, IsRun (numbers index)) (isMarked : wording.MarkedBy numbers hit)
    (short : (numbers 0).length ≤ digitLimit) (text : String) :
    wording.form.read hit = .ok (wording.reading hit numbers text) := by
  have unbracketed : wording.form.bracketed = false := by
    cases wording <;> rfl
  rw [Form.read, unbracketed, readMarked, isMarked.difficulty_eq short text,
    isMarked.armorClass_eq short text, isMarked.damage_eq isRun text, isMarked.mode_eq text]
  rfl

theorem MarkedBy.skillName?_eq
    (isRun : ∀ index, IsRun (numbers index)) (isMarked : wording.MarkedBy numbers hit)
    (text : String) (kind : SuggestionKind) :
    (wording.reading hit numbers text).skillName? kind =
      (wording.suggestion numbers text).skill := by
  have marked := isMarked.skill_eq isRun text
  cases wording with
  | requestedCheck inShort ability
  | requestedSave inShort ability
  | abilitySave inShort ability =>
      obtain ⟨part, isSaid, written⟩ := isMarked.exists_mark? .name (by decide) rfl
      have named := Ability.ofName?_of_written written
      simp only [reading, Reading.skillName?, isSaid, named, marked]
      rfl
  | _ =>
      have unnamed := isMarked.mark?_eq_none .name (by decide) rfl
      simp only [reading, Reading.skillName?, unnamed, marked]

theorem MarkedBy.ability?_eq
    (isRun : ∀ index, IsRun (numbers index)) (isMarked : wording.MarkedBy numbers hit)
    (text : String) (kind : SuggestionKind) :
    (wording.reading hit numbers text).ability? kind = wording.ability? := by
  have skillName := isMarked.skillName?_eq isRun text kind
  cases wording with
  | requestedCheck inShort ability
  | requestedSave inShort ability
  | abilitySave inShort ability =>
      obtain ⟨part, isSaid, written⟩ := isMarked.exists_mark? .name (by decide) rfl
      have named := Ability.ofName?_of_written written
      simp only [reading, Reading.ability?, isSaid, Option.bind_some, named]
      rfl
  | abilitySkillCheck inShort ability skill
  | difficultyAbilitySkillCheck inShort ability skill =>
      obtain ⟨part, isSaid, written⟩ := isMarked.exists_mark? .ability (by decide) rfl
      have unnamed := isMarked.mark?_eq_none .name (by decide) rfl
      have named := Ability.ofName?_of_written written
      simp only [reading, Reading.ability?, unnamed, isSaid, Option.bind_some, named]
      rfl
  | skillCheck skill =>
      have unnamed := isMarked.mark?_eq_none .name (by decide) rfl
      have noAbility := isMarked.mark?_eq_none .ability (by decide) rfl
      rw [Reading.ability?, skillName]
      simp only [reading, unnamed, noAbility]
      simp [suggestion, Skill.ofName?_name, ability?]
  | requestedAttack mode =>
      have unnamed := isMarked.mark?_eq_none .name (by decide) rfl
      have noAbility := isMarked.mark?_eq_none .ability (by decide) rfl
      rw [Reading.ability?, skillName]
      simp only [reading, unnamed, noAbility]
      rfl

theorem MarkedBy.suggestion?_eq
    (isRun : ∀ index, IsRun (numbers index)) (isMarked : wording.MarkedBy numbers hit)
    {text : String} (span : hit.span = ⟨0, text.length⟩) (shown : hit.text = text.toList) :
    wording.form.suggestion? hit (wording.reading hit numbers text) =
      some (wording.suggestion numbers text) := by
  have ability := isMarked.ability?_eq isRun text wording.form.kind
  have skillName := isMarked.skillName?_eq isRun text wording.form.kind
  rw [Form.suggestion?, ability, skillName, span, shown, String.ofList_toList]
  cases wording <;> rfl

end

end Wording

/-- A text in a usual wording makes just the suggestion that the wording says, whatever the case of
its letters, the white space between its words and its numbers are. Only the difficulty or the armor
class must be short enough to be read. -/
theorem suggestions_of_wording
    (wording : Wording) (numbers : Nat → List Char) {text : String}
    (isRun : ∀ index, IsRun (numbers index)) (short : (numbers 0).length ≤ digitLimit)
    (written : wording.outline.WrittenAs numbers text.toList) :
    suggestions text = .ok [wording.suggestion numbers text] := by
  have numbersFit := wording.numbersFit_outline
  obtain ⟨taken, marks, others, sketched, marked⟩ := wording.exists_sketch
  have standing : Standing numbers none wording.outline (Cursor.front text.toList) :=
    ⟨Option.Rel.none, written⟩
  have nonempty : text.toList ≠ [] := written.ne_nil isRun wording.outline_ne_nil
  have unmatched :
      ∀ other ∈ Form.all.take wording.rank,
        other.pattern.hitAt? (Cursor.front text.toList) = none := by
    intro other listed
    exact hitAt?_eq_none_of_sketch isRun standing (wording.sketch_eq_nil other listed)
  obtain ⟨parts, partsMarked, found⟩ := exists_hitAt?_of_sketch isRun standing sketched
  have isMarked : wording.MarkedBy numbers ⟨⟨0, text.toList.length⟩, text.toList, parts⟩ := by
    intro label listed
    rw [← marked label listed]
    exact partsMarked.rel_lookup label
  have whole : (⟨0, text.toList.length⟩ : Span) = ⟨0, text.length⟩ := by
    rw [String.length_toList]
  exact suggestions_eq_singleton (Wording.numbersFit_of_written isRun short numbersFit written)
    nonempty wording.forms_split unmatched found whole (isMarked.read_eq isRun short text)
    (isMarked.suggestion?_eq isRun whole rfl)

/-- A prompt with letters in both cases, wide gaps and digits of another script. -/
theorem suggestions_of_wording_for_a_wisdom_check :
    suggestions "MAKE a dC  \u0661\u0665 wiS\tChecK" =
      .ok [{
        kind := .skill
        ability := some "wisdom"
        difficulty := some 15
        span := ⟨0, 23⟩
        description := "MAKE a dC  \u0661\u0665 wiS\tChecK"
        form := "requested_check" }] := by
  have isRun : IsRun ['\u0661', '\u0665'] := ⟨by decide, List.all_eq_true.1 (by decide)⟩
  have written :
      (Wording.outline (.requestedCheck true .wisdom)).WrittenAs
        (fun _ => ['\u0661', '\u0665']) "MAKE a dC  \u0661\u0665 wiS\tChecK".toList :=
    ⟨[['M'], ['A'], ['K'], ['E'], [' '], ['a'], [' '], ['d'], ['C'], [' ', ' '],
        ['\u0661', '\u0665'], [' '], ['w'], ['i'], ['S'], ['\t'], ['C'], ['h'], ['e'], ['c'],
        ['K']],
      by decide, by decide⟩
  have found := suggestions_of_wording (.requestedCheck true .wisdom)
    (fun _ => ['\u0661', '\u0665']) (fun _ => isRun) (by decide) written
  rw [found]
  decide

end Tabletop.Prompt
