import Tabletop.Proofs.Names
import Tabletop.Proofs.Prompt.Damage
import Tabletop.Proofs.Span.Choice

/-!
# Suggestions and their kinds

A suggestion has the parts of its kind and no others, and what it names is an ability and, if
anything, a skill. The one exception are skills spelled with a letter that prompts take for another:
such a spelling is kept as it is.
-/

namespace Tabletop

open Numeral Text

/-! ## Letters taken for others -/

namespace Text

/-- The letters that prompts take for plain ones but that have other small forms: the long s and the
dotted capital and dotless small i. -/
def strayLetters : List Char :=
  ['\u017f', '\u0130', '\u0131']

/-- Apart from these letters and the Kelvin sign only the two plain forms of a small letter fold to
it. -/
theorem toLower_of_fold
    {c letter : Char} (allowed : (letter.isLower && letter != 'k') = true)
    (usual : c ∉ strayLetters) (folded : fold c = letter) :
    c.toLower = letter := by
  obtain ⟨small, notK⟩ := Bool.and_eq_true_iff.1 allowed
  simp only [strayLetters, List.mem_cons, List.not_mem_nil, or_false, not_or] at usual
  obtain ⟨notLongS, notDottedI, notDotlessI⟩ := usual
  unfold fold at folded
  split at folded
  · exact folded
  · rename_i notPlain
    split at folded
    · exact absurd rfl notLongS
    · exact absurd folded.symm (bne_iff_ne.1 notK)
    · exact absurd rfl notDottedI
    · exact absurd rfl notDotlessI
    · rw [folded] at notPlain
      exact absurd (plain_of_isLower small) notPlain

end Text

/-! ## What a phrase reads -/

namespace Pattern

variable {ι : Type}

/-- The outline of the texts that a pattern reads, if it leaves open no more than their case and
white space. The letter k is left out, because the Kelvin sign counts as one. -/
def outline? : Pattern ι → Option Outline
  | .nothing => some []
  | .one (.like c) => if c.isLower && c != 'k' then some [.letter c] else none
  | .many .blank 1 _ => some [.gap]
  | .andThen first second => do
      let opening ← first.outline?
      let closing ← second.outline?
      some (opening ++ closing)
  | _ => none

theorem writtenAs_of_reads
    {numbers : Nat → List Char} {pattern : Pattern ι} {outline : Outline} {text : List Char}
    {marks : Marks ι} (isOutline : pattern.outline? = some outline)
    (reads : pattern.Reads text marks) (usual : ∀ c ∈ text, c ∉ strayLetters) :
    outline.WrittenAs numbers text := by
  fun_induction outline? pattern generalizing outline text marks with
  | case1 =>
      obtain rfl := Option.some.inj isOutline
      exact Outline.writtenAs_nil_iff.2 reads.1
  | case2 letter allowed =>
      obtain rfl := Option.some.inj isOutline
      obtain ⟨c, held, rfl, -⟩ := reads
      have isLetter : c.toLower = letter :=
        toLower_of_fold allowed (usual c (by simp)) (beq_iff_eq.1 held)
      have isToken : (Token.letter letter).WrittenAs numbers [c] := by
        rw [Token.WrittenAs, List.map_singleton, isLetter]
      exact Outline.writtenAs_cons_iff.2
        ⟨[c], [], isToken, Outline.writtenAs_nil_iff.2 rfl, rfl⟩
  | case4 preference =>
      obtain rfl := Option.some.inj isOutline
      obtain ⟨blank, long, -⟩ := reads
      have isGap : Token.gap.WrittenAs numbers text := ⟨List.ne_nil_of_length_pos long, blank⟩
      exact Outline.writtenAs_cons_iff.2
        ⟨text, [], isGap, Outline.writtenAs_nil_iff.2 rfl, (List.append_nil text).symm⟩
  | case5 first second firstStep secondStep =>
      obtain ⟨opening, isOpening, rest⟩ := Option.bind_eq_some_iff.1 isOutline
      obtain ⟨closing, isClosing, whole⟩ := Option.bind_eq_some_iff.1 rest
      obtain rfl := Option.some.inj whole
      obtain ⟨part, more, _, _, opens, closes, rfl, -⟩ := reads
      have isFirst := firstStep isOpening opens fun c member => usual c (by simp [member])
      have isSecond := secondStep isClosing closes fun c member => usual c (by simp [member])
      exact Outline.writtenAs_append_iff.2 ⟨part, more, isFirst, isSecond, rfl⟩
  | case3 | case6 => cases isOutline

theorem reads_oneOf
    {patterns : List (Pattern ι)} {text : List Char} {marks : Marks ι}
    (reads : (oneOf patterns).Reads text marks) :
    ∃ pattern ∈ patterns, pattern.Reads text marks := by
  fun_induction oneOf patterns with
  | case1 =>
      obtain ⟨c, held, -⟩ := reads
      simp [CharClass.holds] at held
  | case2 pattern => exact ⟨pattern, by simp, reads⟩
  | case3 pattern rest _ inductionHypothesis =>
      rcases reads with reads | reads
      · exact ⟨pattern, by simp, reads⟩
      · obtain ⟨other, listed, reads⟩ := inductionHypothesis reads
        exact ⟨other, List.mem_cons_of_mem pattern listed, reads⟩

theorem exists_skill_of_reads
    {text : List Char} {marks : Marks ι} (reads : (skill : Pattern ι).Reads text marks) :
    ∃ known : Skill, (phrase known.name : Pattern ι).Reads text marks := by
  obtain ⟨_, listed, reads⟩ := reads_oneOf reads
  obtain ⟨name, sorted, rfl⟩ := List.mem_map.1 listed
  obtain ⟨known, -, rfl⟩ := List.mem_map.1 ((perm_sortBy _ _).mem_iff.1 sorted)
  exact ⟨known, reads⟩

end Pattern

/-- The name of a skill leaves open its case and the white space between its words. -/
theorem Skill.outline?_phrase {ι : Type} (known : Skill) :
    (Pattern.phrase known.name : Pattern ι).outline? = some (plain known.name) := by
  cases known <;> rfl

/-- What is read as a skill, in whatever usual letters, is the name of one in its one spelling. -/
theorem Skill.exists_of_reads
    {text : List Char} {marks : Marks Prompt.Label}
    (reads : (Pattern.skill : Pattern Prompt.Label).Reads text marks)
    (usual : ∀ c ∈ text, c ∉ strayLetters) :
    ∃ known : Skill, normalForm (String.ofList text) = known.name := by
  obtain ⟨known, readsName⟩ := Pattern.exists_skill_of_reads reads
  have isRun : ∀ _ : Nat, IsRun ['0'] :=
    fun _ => ⟨List.cons_ne_nil _ _, List.forall_mem_singleton.2 rfl⟩
  have written : (plain known.name).WrittenAs (fun _ => ['0']) text :=
    Pattern.writtenAs_of_reads known.outline?_phrase readsName usual
  exact ⟨known, normalForm_of_written isRun written⟩

theorem Skill.normalForm_eq_name
    {text : String} (isSkill : (Skill.ofName? text).isSome = true) :
    ∃ known : Skill, normalForm text = known.name := by
  obtain ⟨known, found⟩ := Option.isSome_iff_exists.1 isSkill
  rw [ofName?] at found
  have isName := List.find?_some found
  rw [beq_iff_eq] at isName
  exact ⟨known, isName.symm⟩

/-! ## Parts that a form marks -/

namespace Prompt

open Pattern

/-- The parts that no form of a kind marks. -/
def unmarked : SuggestionKind → List Label
  | .skill => [.armorClass, .damage, .mode]
  | .save => [.skill, .armorClass, .damage, .mode]
  | .attack => [.difficulty, .trailingDifficulty]

theorem parts_eq_nil_of_mem_unmarked :
    ∀ form ∈ Form.all, ∀ label ∈ unmarked form.kind, form.pattern.parts label = [] := by
  decide +kernel

theorem eq_skill_of_mem_parts :
    ∀ form ∈ Form.all, ∀ part ∈ form.pattern.parts .skill, part = skill := by
  decide +kernel

theorem mark?_eq_none
    {pattern : Pattern Label} {text : List Char} {hit : Hit Label} {label : Label}
    (unmarked : pattern.parts label = []) (member : hit ∈ pattern.scan text) :
    hit.mark? label = none := by
  cases isSaid : hit.mark? label with
  | none => rfl
  | some said =>
      obtain ⟨part, marked, -⟩ := Hit.exists_mem_marks isSaid
      obtain ⟨_, _, -, -, reads, -⟩ := findsIn_of_mem_scan member
      obtain ⟨inner, listed, -⟩ := part_of_mem_marks reads marked
      rw [unmarked] at listed
      cases listed

/-! ## What is read from the parts -/

theorem Form.read_unmarked
    {form : Form} {hit : Hit Label} {reading : Reading} (read : form.read hit = .ok reading) :
    (hit.mark? .difficulty = none → hit.mark? .trailingDifficulty = none →
      reading.difficulty = none) ∧
    (hit.mark? .armorClass = none → reading.armorClass = none) ∧
    (hit.mark? .damage = none → reading.damage = none) ∧
    (hit.mark? .mode = none → reading.mode = none) ∧
    ∀ part, reading.skill = some part → hit.mark? .skill = some part := by
  rw [Form.read] at read
  split at read
  · simp only [readBracket, bind_eq_ok_iff, pure_eq_ok_iff] at read
    obtain ⟨difficulty, isDifficulty, rfl⟩ := read
    refine ⟨fun unmarked _ => ?_, fun _ => rfl, fun _ => rfl, fun _ => rfl,
      fun part isPart => ?_⟩
    · rw [unmarked] at isDifficulty
      exact (Except.ok.inj isDifficulty).symm
    · cases isPart
  · simp only [readMarked, bind_eq_ok_iff, pure_eq_ok_iff] at read
    obtain ⟨difficulty, isDifficulty, armorClass, isArmorClass, rfl⟩ := read
    refine ⟨fun unmarked noTrail => ?_, fun unmarked => ?_, fun unmarked => ?_, fun unmarked => ?_,
      fun part isPart => isPart⟩
    · rw [unmarked, noTrail] at isDifficulty
      exact (Except.ok.inj isDifficulty).symm
    · rw [unmarked] at isArmorClass
      exact (Except.ok.inj isArmorClass).symm
    · exact congrArg (Option.map compact) unmarked
    · exact congrArg (Option.map Text.lower) unmarked

/-- The skill of a reading is one that a check goes by, or else is marked as one. -/
theorem Reading.skillName?_cases
    {reading : Reading} {kind : SuggestionKind} {name : String}
    (isNamed : reading.skillName? kind = some name) :
    (kind = .skill ∧ ∃ known : Skill, name = known.name) ∨
      ∃ part, reading.skill = some part ∧ name = Skill.normalForm part := by
  rw [skillName?] at isNamed
  split at isNamed
  · split at isNamed
    · rename_i said _ goesBy
      obtain rfl := Option.some.inj isNamed
      simp only [Bool.and_eq_true, beq_iff_eq] at goesBy
      exact Or.inl ⟨goesBy.1.2, Skill.normalForm_eq_name goesBy.2⟩
    · obtain ⟨part, isPart, rfl⟩ := Option.map_eq_some_iff.1 isNamed
      exact Or.inr ⟨part, isPart, rfl⟩
  · obtain ⟨part, isPart, rfl⟩ := Option.map_eq_some_iff.1 isNamed
    exact Or.inr ⟨part, isPart, rfl⟩

end Prompt

/-! ## Suggestions -/

/-- A suggestion has the parts of its kind. An unknown skill takes a stray letter. -/
structure Suggestion.FitsKind (suggestion : Suggestion) : Prop where
  attack : suggestion.kind = .attack →
    suggestion.ability = none ∧ suggestion.skill = none ∧ suggestion.difficulty = none
  notAttack : suggestion.kind ≠ .attack →
    (∃ ability : Ability, suggestion.ability = some ability.name) ∧
      suggestion.armorClass = none ∧ suggestion.damage = none ∧ suggestion.mode = none
  save : suggestion.kind = .save → suggestion.skill = none
  skill : ∀ name, suggestion.skill = some name →
    (∃ known : Skill, name = known.name) ∨
      ∃ letter ∈ strayLetters, letter ∈ suggestion.description.toList

namespace Prompt

open Pattern

theorem Form.Proposes.fitsKind
    {form : Form} {text : List Char} {suggestion : Suggestion}
    (listed : form ∈ Form.all) (proposed : form.Proposes text suggestion) :
    suggestion.FitsKind := by
  obtain ⟨hit, member, reading, read, made⟩ := proposed
  obtain ⟨difficulty, armorClass, damage, mode, skillMarked⟩ := Form.read_unmarked read
  have noMark : ∀ label ∈ unmarked form.kind, hit.mark? label = none :=
    fun label isUnmarked =>
      mark?_eq_none (parts_eq_nil_of_mem_unmarked form listed label isUnmarked) member
  rw [Form.suggestion?] at made
  split at made
  · rename_i isAttack
    obtain rfl := Option.some.inj made
    rw [isAttack] at noMark
    constructor
    case attack =>
      intro _
      exact ⟨rfl, rfl, difficulty (noMark .difficulty (by decide))
        (noMark .trailingDifficulty (by decide))⟩
    case notAttack => exact fun other => absurd isAttack other
    case save => exact fun _ => rfl
    case skill => exact nofun
  · rename_i notAttack
    obtain ⟨ability, -, rfl⟩ := Option.map_eq_some_iff.1 made
    have onlyInAttacks :
        ∀ label ∈ [Label.armorClass, .damage, .mode], label ∈ unmarked form.kind := by
      cases kind : form.kind with
      | attack => exact absurd kind notAttack
      | skill | save => decide
    constructor
    case attack => exact fun isAttack => absurd isAttack notAttack
    case notAttack =>
      intro _
      exact ⟨⟨ability, rfl⟩, armorClass (noMark _ (onlyInAttacks .armorClass (by simp))),
        damage (noMark _ (onlyInAttacks .damage (by simp))),
        mode (noMark _ (onlyInAttacks .mode (by simp)))⟩
    case save =>
      intro (isSave : form.kind = .save)
      have noSkill : hit.mark? .skill = none := noMark .skill (by rw [isSave]; decide)
      change reading.skillName? form.kind = none
      cases isNamed : reading.skillName? form.kind with
      | none => rfl
      | some name =>
          rcases Reading.skillName?_cases isNamed with ⟨isCheck, -⟩ | ⟨part, isPart, -⟩
          · rw [isCheck] at isSave
            cases isSave
          · rw [skillMarked part isPart] at noSkill
            cases noSkill
    case skill =>
      intro name isNamed
      rcases Reading.skillName?_cases isNamed with ⟨-, known⟩ | ⟨part, isPart, rfl⟩
      · exact Or.inl known
      · obtain ⟨letters, marked, rfl⟩ := Hit.exists_mem_marks (skillMarked part isPart)
        obtain ⟨_, _, -, -, reads, -⟩ := findsIn_of_mem_scan member
        have inside : letters <:+: hit.text := infix_of_mem_marks reads marked
        obtain ⟨inner, partListed, _, partReads⟩ := part_of_mem_marks reads marked
        rw [eq_skill_of_mem_parts form listed inner partListed] at partReads
        by_cases usual : ∀ c ∈ letters, c ∉ strayLetters
        · exact Or.inl (Skill.exists_of_reads partReads usual)
        · push Not at usual
          obtain ⟨c, inPart, stray⟩ := usual
          refine Or.inr ⟨c, stray, ?_⟩
          rw [String.toList_ofList]
          exact inside.subset inPart

end Prompt

/-- Every suggestion that is found has the parts of its kind. -/
theorem suggestions_fit_their_kinds
    (text : String) (found : List Suggestion) (done : suggestions text = .ok found) :
    ∀ suggestion ∈ found, suggestion.FitsKind := by
  obtain ⟨all, allDone, rfl⟩ := suggestions_eq_ok_iff.1 done
  intro suggestion member
  obtain ⟨form, listed, proposed⟩ :=
    (Prompt.mem_candidates_iff allDone).1 (mem_of_mem_chooseDisjoint member)
  exact proposed.fitsKind listed

/-- A check with a skill and an attack in one text. -/
theorem suggestions_fit_their_kinds_in_two_prompts :
    ∃ check attack,
      suggestions "Wisdom (Perception) check, then an attack roll" = .ok [check, attack] ∧
        check.FitsKind ∧ attack.FitsKind := by
  have found :
      ∃ check attack,
        suggestions "Wisdom (Perception) check, then an attack roll" = .ok [check, attack] :=
    ⟨_, _, rfl⟩
  obtain ⟨check, attack, found⟩ := found
  have fit := suggestions_fit_their_kinds _ _ found
  exact ⟨check, attack, found, fit check (by simp), fit attack (by simp)⟩

/-- A skill with a long s is taken for one but is not known as one. -/
theorem stray_letter_makes_an_unknown_skill :
    ∃ suggestion,
      suggestions "Wisdom (per\u017fuasion) check" = .ok [suggestion] ∧
        suggestion.skill = some "per\u017fuasion" ∧
        ∀ known : Skill, known.name ≠ "per\u017fuasion" := by
  refine ⟨{
    kind := .skill
    ability := some "wisdom"
    skill := some "per\u017fuasion"
    span := ⟨0, 25⟩
    description := "Wisdom (per\u017fuasion) check"
    form := "ability_skill_check" }, ?_, rfl, ?_⟩
  · decide
  · intro known
    cases known <;> decide

end Tabletop
