import Tabletop.Proofs.Outline
import Tabletop.Skill

/-!
# Names in any case

The name of an ability or a skill stands for it in whatever case it is written and however much
white space there is between its words.
-/

namespace Tabletop

open Numeral Text

section

variable {numbers : Nat → List Char} {text : List Char}

theorem isLower_toLower_of_written
    {word : String} (small : ∀ c ∈ word.toList, c.isLower = true)
    (written : (plain word).WrittenAs numbers text) :
    ∀ c ∈ text, c.toLower.isLower = true := by
  intro c member
  apply small
  rw [← map_toLower_of_written small written]
  exact List.mem_map_of_mem member

/-- A word of small letters in any case, in small letters. -/
theorem lower_of_written
    {word : String} (small : ∀ c ∈ word.toList, c.isLower = true)
    (written : (plain word).WrittenAs numbers text) :
    lower (String.ofList text) = word := by
  have alone : ∀ c ∈ text, lowersAlone c = true := fun c member =>
    lowersAlone_of_plain
      (plain_of_isLower_toLower (isLower_toLower_of_written small written c member))
  rw [lower_eq_map alone, map_toLower_of_written small written, String.ofList_toList]

/-! ## Abilities -/

/-- What an ability is called, in full or in short. -/
def Ability.word (short : Bool) (ability : Ability) : String :=
  if short then ability.abbreviation else ability.name

theorem Ability.mem_all (ability : Ability) : ability ∈ all := by
  cases ability <;> decide

theorem Ability.isLower_word :
    ∀ short ability, ∀ c ∈ (Ability.word short ability).toList, c.isLower = true := by
  intro short ability
  have all : (ability.word short).toList.all Char.isLower = true := by
    cases short <;> cases ability <;> decide
  exact List.all_eq_true.1 all

theorem Ability.find?_word (short : Bool) (ability : Ability) :
    all.find? (fun other =>
      other.name == ability.word short || other.abbreviation == ability.word short) =
        some ability := by
  cases short <;> cases ability <;> decide

theorem Ability.ofName?_word (ability : Ability) (short : Bool) :
    Ability.ofName? (ability.word short) = some ability := by
  cases short <;> cases ability <;> decide

/-- What has the plain small letters of a name stands for its ability. -/
theorem Ability.ofName?_of_map_toLower
    {short : Bool} {ability : Ability} {opening letters closing : List Char}
    (opens : ∀ c ∈ opening, isBlank c = true) (closes : ∀ c ∈ closing, isBlank c = true)
    (small : letters.map Char.toLower = (ability.word short).toList) :
    Ability.ofName? (String.ofList (opening ++ (letters ++ closing))) = some ability := by
  have smallLetter : ∀ c ∈ letters, c.toLower.isLower = true := by
    intro c member
    apply ability.isLower_word short
    rw [← small]
    exact List.mem_map_of_mem member
  have solid : ∀ c ∈ letters, isBlank c = false := fun c member =>
    not_isBlank_of_isLower_toLower (smallLetter c member)
  have alone : ∀ c ∈ letters, lowersAlone c = true := fun c member =>
    lowersAlone_of_plain (plain_of_isLower_toLower (smallLetter c member))
  rw [Ability.ofName?, String.toList_ofList, (trimmed_of_solid solid).trim_append opens closes,
    lower_eq_map alone, small, String.ofList_toList]
  exact ability.find?_word short

/-- What an ability is called, in any case, stands for it. -/
theorem Ability.ofName?_of_written
    {short : Bool} {ability : Ability}
    (written : (plain (ability.word short)).WrittenAs numbers text) :
    Ability.ofName? (String.ofList text) = some ability := by
  have small := map_toLower_of_written (ability.isLower_word short) written
  have nothing : ∀ c ∈ ([] : List Char), isBlank c = true := by simp
  have found := Ability.ofName?_of_map_toLower nothing nothing small
  rwa [List.nil_append, List.append_nil] at found

theorem Ability.ofName?_of_said
    {short : Bool} {ability : Ability} {said : String}
    (written : (plain (ability.word short)).WrittenAs numbers said.toList) :
    Ability.ofName? said = some ability := by
  have named := Ability.ofName?_of_written written
  rwa [String.ofList_toList] at named

/-! ## Skills -/

theorem Skill.mem_all (skill : Skill) : skill ∈ all := by
  cases skill <;> decide

theorem Skill.small_name (skill : Skill) :
    ∀ c ∈ skill.name.toList, c = ' ' ∨ c.isLower = true := by
  have all : (skill.name.toList.all fun c => c == ' ' || c.isLower) = true := by
    cases skill <;> decide
  simpa using all

theorem Skill.join_words_name (skill : Skill) :
    String.ofList ([' '].intercalate (words skill.name.toList)) = skill.name := by
  cases skill <;> decide

/-- The name of a skill, in any case and with any white space, has its one spelling. -/
theorem Skill.normalForm_of_written
    {skill : Skill} (isRun : ∀ index, IsRun (numbers index))
    (written : (plain skill.name).WrittenAs numbers text) :
    Skill.normalForm (String.ofList text) = skill.name := by
  have kinds : ∀ c ∈ text, isBlank c = true ∨ c.toLower.isLower = true := by
    intro c member
    obtain ⟨token, listed, held⟩ := written.exists_holds isRun c member
    obtain ⟨x, inName, rfl⟩ := List.mem_map.1 listed
    rcases skill.small_name x inName with rfl | small
    · exact Or.inl held
    · rw [Token.ofChar_of_isLower small] at held
      obtain rfl : c.toLower = x := held
      exact Or.inr small
  have alone : ∀ c ∈ text, lowersAlone c = true := by
    intro c member
    rcases kinds c member with blank | small
    · exact lowersAlone_of_isBlank blank
    · exact lowersAlone_of_plain (plain_of_isLower_toLower small)
  have noUnderscore :
      (text.map Char.toLower).map (fun c => if c = '_' then ' ' else c) =
        text.map Char.toLower := by
    rw [List.map_map]
    apply List.map_congr_left
    intro c member
    have isOther : c.toLower ≠ '_' := by
      intro equal
      rcases kinds c member with blank | small
      · rw [toLower_of_isBlank blank] at equal
        rw [equal] at blank
        exact absurd blank (by decide)
      · rw [equal] at small
        exact absurd small (by decide)
    exact if_neg isOther
  have sameWords : words (text.map Char.toLower) = words skill.name.toList :=
    wordsFrom_of_written skill.small_name written []
  simp only [normalForm, lower_eq_map alone, String.toList_ofList, noUnderscore, sameWords]
  exact skill.join_words_name

theorem Skill.normalForm_of_said
    {skill : Skill} {said : String} (isRun : ∀ index, IsRun (numbers index))
    (written : (plain skill.name).WrittenAs numbers said.toList) :
    Skill.normalForm said = skill.name := by
  have spelled := Skill.normalForm_of_written isRun written
  rwa [String.ofList_toList] at spelled

theorem Skill.ofName?_name (skill : Skill) : Skill.ofName? skill.name = some skill := by
  cases skill <;> decide

end

end Tabletop
