import Tabletop.Proofs.Names
import Tabletop.Proofs.Prompt.Kinds
import Tabletop.Proofs.Text.Caseless

/-!
# Known and unknown names

What is written like the name of an ability stands for that ability, what is written like the name
of a skill stands for that skill and for no ability, and in small letters both stand for the same. A
name with a stray letter stands for nothing, because such a letter stays strange in small letters.
-/

namespace Tabletop

open Numeral Text

/-! ## Words -/

namespace Text

theorem words_append_left
    {blanks : List Char} (blank : ∀ c ∈ blanks, isBlank c = true) (text : List Char) :
    words (blanks ++ text) = words text := by
  cases blanks with
  | nil => rfl
  | cons c rest =>
      have space : isBlank ' ' = true := by decide
      rw [words, wordsFrom_append_of_isBlank (List.cons_ne_nil c rest) blank,
        wordsFrom_of_isBlank space]
      rfl

theorem wordsFrom_append_right
    {blanks : List Char} (blank : ∀ c ∈ blanks, isBlank c = true) (letters text : List Char) :
    wordsFrom letters (text ++ blanks) = wordsFrom letters text := by
  induction text generalizing letters with
  | nil =>
      cases blanks with
      | nil => rfl
      | cons c rest =>
          have isFirst : isBlank c = true := blank c (by simp)
          have restBlank : ∀ c ∈ rest, isBlank c = true :=
            fun other member => blank other (List.mem_cons_of_mem c member)
          have noWords : words (rest ++ []) = words [] := words_append_left restBlank []
          rw [List.append_nil] at noWords
          rw [List.nil_append, wordsFrom_of_isBlank isFirst, show wordsFrom [] rest = [] from noWords]
          cases letters <;> rfl
  | cons c text inductionHypothesis =>
      rw [List.cons_append]
      by_cases isFirst : isBlank c = true
      · rw [wordsFrom_of_isBlank isFirst, wordsFrom_of_isBlank isFirst, inductionHypothesis]
      · rw [Bool.not_eq_true] at isFirst
        rw [wordsFrom_of_not_isBlank isFirst, wordsFrom_of_not_isBlank isFirst,
          inductionHypothesis]

theorem words_trim (text : List Char) : words (trim text) = words text := by
  obtain ⟨opening, closing, split, opens, closes⟩ := exists_trim text
  conv => rhs; rw [split]
  rw [words_append_left opens]
  exact (wordsFrom_append_right closes [] (trim text)).symm

/-- Every character but white space stands in a word. -/
theorem exists_mem_wordsFrom
    {c : Char} {letters text : List Char} (solid : isBlank c = false)
    (member : c ∈ letters ++ text) :
    ∃ word ∈ wordsFrom letters text, c ∈ word := by
  induction text generalizing letters with
  | nil =>
      rw [List.append_nil] at member
      cases letters with
      | nil => cases member
      | cons x letters => exact ⟨_, List.mem_singleton_self _, List.mem_reverse.2 member⟩
  | cons x text inductionHypothesis =>
      by_cases isFirst : isBlank x = true
      · have notFirst : c ≠ x := by
          rintro rfl
          rw [isFirst] at solid
          cases solid
        rw [wordsFrom_of_isBlank isFirst]
        cases letters with
        | nil =>
            have inText : c ∈ [] ++ text := by simpa [notFirst] using member
            exact inductionHypothesis inText
        | cons y letters =>
            rcases List.mem_append.1 member with inLetters | inText
            · exact ⟨_, List.mem_cons_self, List.mem_reverse.2 inLetters⟩
            · have inRest : c ∈ [] ++ text := by simpa [notFirst] using inText
              obtain ⟨word, listed, inWord⟩ := inductionHypothesis inRest
              exact ⟨word, List.mem_cons_of_mem _ listed, inWord⟩
      · rw [Bool.not_eq_true] at isFirst
        rw [wordsFrom_of_not_isBlank isFirst]
        apply inductionHypothesis
        simp only [List.mem_append, List.mem_cons] at member ⊢
        rcases member with inLetters | rfl | inText
        · exact Or.inl (Or.inr inLetters)
        · exact Or.inl (Or.inl rfl)
        · exact Or.inr inText

theorem mem_intercalate_of_mem
    {c : Char} {separator word : List Char} {words : List (List Char)}
    (listed : word ∈ words) (member : c ∈ word) :
    c ∈ separator.intercalate words := by
  induction words with
  | nil => cases listed
  | cons first rest inductionHypothesis =>
      cases rest with
      | nil =>
          obtain rfl := List.mem_singleton.1 listed
          simpa [List.intercalate] using member
      | cons next rest =>
          have joined : separator.intercalate (first :: next :: rest) =
              first ++ separator ++ separator.intercalate (next :: rest) := by
            simp [List.intercalate]
          rw [joined]
          rcases List.mem_cons.1 listed with rfl | listed
          · simp [member]
          · exact List.mem_append_right _ (inductionHypothesis listed)

end Text

/-! ## Names as they are written -/

section

variable {numbers : Nat → List Char} {text : List Char}

/-- In the name of a skill there is white space and plain letters. -/
theorem Skill.lowersAlone_of_written
    {skill : Skill} (isRun : ∀ index, IsRun (numbers index))
    (written : (plain skill.name).WrittenAs numbers text) :
    ∀ c ∈ text, lowersAlone c = true := by
  intro c member
  obtain ⟨token, listed, held⟩ := written.exists_holds isRun c member
  obtain ⟨x, inName, rfl⟩ := List.mem_map.1 listed
  rcases skill.small_name x inName with rfl | small
  · exact lowersAlone_of_isBlank held
  · rw [Token.ofChar_of_isLower small] at held
    obtain rfl : c.toLower = x := held
    exact lowersAlone_of_plain (plain_of_isLower_toLower small)

theorem Skill.words_name_ne_words_word :
    ∀ (skill : Skill) (short : Bool) (ability : Ability),
      words skill.name.toList ≠ words (ability.word short).toList := by
  intro skill short ability
  cases short <;> cases ability <;> cases skill <;> decide

/-- No ability is called like a skill. -/
theorem Ability.ofName?_eq_none_of_written
    {skill : Skill} (isRun : ∀ index, IsRun (numbers index))
    (written : (plain skill.name).WrittenAs numbers text) :
    Ability.ofName? (String.ofList text) = none := by
  have alone : ∀ c ∈ trim text, lowersAlone c = true := by
    intro c member
    obtain ⟨opening, closing, split, -, -⟩ := exists_trim text
    apply Skill.lowersAlone_of_written isRun written
    rw [split]
    exact List.mem_append_right _ (List.mem_append_left _ member)
  have sameWords :
      words ((trim text).map Char.toLower) = words skill.name.toList := by
    rw [← trim_map_toLower, words_trim]
    exact wordsFrom_of_written skill.small_name written []
  have otherWord (ability : Ability) (short : Bool) :
      ability.word short ≠ String.ofList ((trim text).map Char.toLower) := by
    intro equal
    apply skill.words_name_ne_words_word short ability
    rw [equal, String.toList_ofList, sameWords]
  rw [ofName?, String.toList_ofList, lower_eq_map alone, List.find?_eq_none]
  intro ability _
  have notName : ability.name ≠ String.ofList ((trim text).map Char.toLower) :=
    otherWord ability false
  have notAbbreviation : ability.abbreviation ≠ String.ofList ((trim text).map Char.toLower) :=
    otherWord ability true
  simp [notName, notAbbreviation]

theorem Ability.ofName?_eq_none_of_said
    {skill : Skill} {said : String} (isRun : ∀ index, IsRun (numbers index))
    (written : (plain skill.name).WrittenAs numbers said.toList) :
    Ability.ofName? said = none := by
  have noAbility := Ability.ofName?_eq_none_of_written isRun written
  rwa [String.ofList_toList] at noAbility

end

/-- What an ability is called leaves open its case. -/
theorem Ability.outline?_phrase {ι : Type} (ability : Ability) (short : Bool) :
    (Pattern.phrase (ability.word short) : Pattern ι).outline? =
      some (plain (ability.word short)) := by
  cases short <;> cases ability <;> rfl

/-- What is written like an ability stands for it in small letters too. -/
theorem Ability.ofName?_lower_of_written
    {numbers : Nat → List Char} {found : String} {ability : Ability} {short : Bool}
    (written : (plain (ability.word short)).WrittenAs numbers found.toList) :
    Ability.ofName? (lower found) = some ability := by
  have lowered := lower_of_written (ability.isLower_word short) written
  rw [String.ofList_toList] at lowered
  rw [lowered, ability.ofName?_word]

/-- What is written like a skill stands for that skill in small letters too, and for no ability. -/
theorem Skill.lower_of_written
    {numbers : Nat → List Char} {found : String} {skill : Skill}
    (isRun : ∀ index, IsRun (numbers index))
    (written : (plain skill.name).WrittenAs numbers found.toList) :
    Ability.ofName? (lower found) = none ∧ Skill.normalForm (lower found) = skill.name := by
  have lowered : lower found = small found := by
    have alone := lower_eq_map (Skill.lowersAlone_of_written isRun written)
    rwa [String.ofList_toList] at alone
  rw [lowered, Ability.ofName?_small, Skill.normalForm_small]
  exact ⟨Ability.ofName?_eq_none_of_said isRun written, Skill.normalForm_of_said isRun written⟩

theorem Ability.governing?_name (ability : Ability) :
    Ability.governing? ability.name = some ability := by
  cases ability <;> decide

/-! ## Strange letters -/

namespace Text

/-- What a stray letter becomes in small letters: itself, or a letter with a combining dot. -/
def strangeLetters : List Char :=
  '\u0307' :: strayLetters

theorem isBlank_of_strange : ∀ c ∈ strangeLetters, isBlank c = false := by
  have all : (strangeLetters.all fun c => !isBlank c) = true := by decide
  simpa using all

theorem exists_strange_of_lowerBetween (before after : List Char) :
    ∀ c ∈ strangeLetters, ∃ x ∈ lowerBetween before c after, x ∈ strangeLetters := by
  have known :
      ∀ c ∈ strangeLetters,
        c ≠ '\u03a3' ∧ ∃ x ∈ lowerChar c, x ∈ strangeLetters := by
    have all :
        (strangeLetters.all fun c =>
          c != '\u03a3' && (lowerChar c).any strangeLetters.contains) = true := by
      decide +kernel
    simpa using all
  intro c strange
  obtain ⟨notSigma, found⟩ := known c strange
  rw [lowerBetween, if_neg notSigma]
  exact found

theorem exists_strange_of_lowerAfter
    {letters : List Char} (strange : ∃ c ∈ letters, c ∈ strangeLetters) (before : List Char) :
    ∃ c ∈ lowerAfter before letters, c ∈ strangeLetters := by
  obtain ⟨c, member, isStrange⟩ := strange
  induction letters generalizing before with
  | nil => cases member
  | cons first rest inductionHypothesis =>
      rw [lowerAfter]
      rcases List.mem_cons.1 member with rfl | inRest
      · obtain ⟨x, found, staysStrange⟩ := exists_strange_of_lowerBetween before rest _ isStrange
        exact ⟨x, List.mem_append_left _ found, staysStrange⟩
      · obtain ⟨x, found, staysStrange⟩ := inductionHypothesis (first :: before) inRest
        exact ⟨x, List.mem_append_right _ found, staysStrange⟩

/-- A text with a strange letter has one in small letters too. -/
theorem exists_strange_of_lower
    {text : String} (strange : ∃ c ∈ text.toList, c ∈ strangeLetters) :
    ∃ c ∈ (lower text).toList, c ∈ strangeLetters := by
  rw [lower, String.toList_ofList]
  exact exists_strange_of_lowerAfter strange []

end Text

theorem Ability.ofName?_eq_none_of_strange
    {name : String} (strange : ∃ c ∈ name.toList, c ∈ strangeLetters) :
    Ability.ofName? name = none := by
  have inTrimmed : ∃ c ∈ (String.ofList (trim name.toList)).toList, c ∈ strangeLetters := by
    obtain ⟨c, member, isStrange⟩ := strange
    obtain ⟨opening, closing, split, opens, closes⟩ := exists_trim name.toList
    have solid := isBlank_of_strange c isStrange
    have inside : c ∈ trim name.toList := by
      rw [split, List.mem_append, List.mem_append] at member
      rcases member with inOpening | inside | inClosing
      · rw [opens c inOpening] at solid
        cases solid
      · exact inside
      · rw [closes c inClosing] at solid
        cases solid
    rw [String.toList_ofList]
    exact ⟨c, inside, isStrange⟩
  obtain ⟨c, member, isStrange⟩ := exists_strange_of_lower inTrimmed
  rw [ofName?, List.find?_eq_none]
  intro ability _ equal
  have usual (short : Bool) : ∀ c ∈ (ability.word short).toList, c ∉ strangeLetters := by
    have all :
        ((ability.word short).toList.all fun c => !strangeLetters.contains c) = true := by
      cases short <;> cases ability <;> decide
    simpa using all
  rw [Bool.or_eq_true, beq_iff_eq, beq_iff_eq] at equal
  rcases equal with equal | equal
  · rw [← equal] at member
    exact usual false c member isStrange
  · rw [← equal] at member
    exact usual true c member isStrange

/-- The one spelling of a name with a strange letter has one too. -/
theorem Skill.exists_strange_of_normalForm
    {name : String} (strange : ∃ c ∈ name.toList, c ∈ strangeLetters) :
    ∃ c ∈ (normalForm name).toList, c ∈ strangeLetters := by
  obtain ⟨c, member, isStrange⟩ := exists_strange_of_lower strange
  have notUnderscore : c ≠ '_' := by
    rintro rfl
    revert isStrange
    decide
  have inSpaced :
      c ∈ [] ++ (lower name).toList.map fun c => if c = '_' then ' ' else c :=
    List.mem_map.2 ⟨c, member, if_neg notUnderscore⟩
  obtain ⟨word, listed, inWord⟩ := exists_mem_wordsFrom (isBlank_of_strange c isStrange) inSpaced
  refine ⟨c, ?_, isStrange⟩
  rw [normalForm, String.toList_ofList]
  exact mem_intercalate_of_mem listed inWord

theorem Skill.ofName?_eq_none_of_strange
    {name : String} (strange : ∃ c ∈ name.toList, c ∈ strangeLetters) :
    Skill.ofName? name = none := by
  obtain ⟨c, member, isStrange⟩ := Skill.exists_strange_of_normalForm strange
  rw [ofName?, List.find?_eq_none]
  intro skill _ equal
  have usual : ∀ c ∈ skill.name.toList, c ∉ strangeLetters := by
    have all : (skill.name.toList.all fun c => !strangeLetters.contains c) = true := by
      cases skill <;> decide
    simpa using all
  rw [beq_iff_eq] at equal
  rw [← equal] at member
  exact usual c member isStrange

theorem Ability.governing?_eq_none_of_strange
    {name : String} (strange : ∃ c ∈ name.toList, c ∈ strangeLetters) :
    Ability.governing? name = none := by
  rw [governing?, ofName?_eq_none_of_strange strange, Skill.ofName?_eq_none_of_strange strange]
  rfl

end Tabletop
