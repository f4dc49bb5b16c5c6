import Tabletop.Proofs.Pattern.Prospect
import Tabletop.Proofs.Prompt.Checks

/-!
# Rolls in brackets

A roll in brackets adds an ability or a skill to a die of twenty sides. Of what is added only the
first word is read. An ability is one word, and so are most skills; a skill whose name has several
words is not recognised by the first of them, and the roll becomes one of intelligence.
-/

namespace Tabletop

open Numeral Pattern Text

/-- A word of small letters stands for the same in any case. -/
theorem Ability.governing?_of_written
    {numbers : Nat → List Char} {word said : String}
    (isSmall : ∀ c ∈ word.toList, c.isLower = true)
    (written : (plain word).WrittenAs numbers said.toList) :
    governing? said = governing? word := by
  have same : small said = word := by
    rw [small, map_toLower_of_written isSmall written, String.ofList_toList]
  rw [← same, governing?_small]

namespace Prompt

/-! ## What is added to the die -/

/-- What a roll in brackets adds to the die. Abilities may be named in short. -/
inductive Bonus where
  | ofAbility (short : Bool) (ability : Ability)
  | ofSkill (skill : Skill)
deriving DecidableEq, Repr

namespace Bonus

def name : Bonus → String
  | .ofAbility short ability => ability.word short
  | .ofSkill skill => skill.name

def firstWord (bonus : Bonus) : String :=
  String.ofList (bonus.name.toList.takeWhile fun c => c != ' ')

def isOneWord (bonus : Bonus) : Bool :=
  bonus.firstWord == bonus.name

def ability : Bonus → Ability
  | .ofAbility _ ability => ability
  | .ofSkill skill => skill.ability

/-- The ability that a roll is taken to be of, given the name as it is written. -/
def ability? (bonus : Bonus) (said : String) : Option Ability :=
  if bonus.isOneWord then Ability.governing? said else some .intelligence

/-- The skill that a roll is taken to be of, given the name as it is written. -/
def skillName? (bonus : Bonus) (said : String) : Option String :=
  match bonus with
  | .ofAbility _ _ => none
  | .ofSkill _ => if bonus.isOneWord then some (Skill.normalForm said) else none

def all : List Bonus :=
  ([true, false].flatMap fun short => Ability.all.map (.ofAbility short)) ++
    Skill.all.map .ofSkill

theorem mem_all (bonus : Bonus) : bonus ∈ all := by
  cases bonus <;> simp [all, Ability.mem_all, Skill.mem_all]

theorem isLower_firstWord (bonus : Bonus) :
    ∀ c ∈ bonus.firstWord.toList, c.isLower = true := by
  have letters : ∀ c ∈ bonus.name.toList, c = ' ' ∨ c.isLower = true := by
    cases bonus with
    | ofAbility short ability => exact fun c member => Or.inr (ability.isLower_word short c member)
    | ofSkill skill => exact skill.small_name
  intro c member
  rw [firstWord, String.toList_ofList] at member
  have notSpace : (c != ' ') = true := List.all_eq_true.1 List.all_takeWhile c member
  have inName : c ∈ bonus.name.toList := (List.takeWhile_sublist _).subset member
  exact (letters c inName).resolve_left (bne_iff_ne.1 notSpace)

theorem governing?_firstWord :
    ∀ bonus ∈ all, bonus.isOneWord = false → Ability.governing? bonus.firstWord = none := by
  decide

end Bonus

/-! ## Outlines -/

/-- What stands between a roll and its difficulty. -/
inductive Versus where
  | vs
  | vsDot
  | against
deriving DecidableEq, Repr

namespace Versus

def word : Versus → String
  | .vs => "vs"
  | .vsDot => "vs."
  | .against => "against"

def all : List Versus :=
  [.vs, .vsDot, .against]

theorem mem_all (versus : Versus) : versus ∈ all := by
  cases versus <;> decide

end Versus

/-- The outline of a roll in brackets up to its difficulty. -/
def bracketBody (bonus : Bonus) (modifier : Bool) : Outline :=
  plain " d20+" ++ plain bonus.name ++ (if modifier then plain " modifier" else []) ++ [.gap]

/-- The outline of the difficulty of a roll in brackets. -/
def bracketDifficulty (versus : Versus) : Outline :=
  plain versus.word ++ plain " dc " ++ [.numeral 0] ++ plain "]"

def bracketOutline (bonus : Bonus) (modifier : Bool) (versus : Versus) : Outline :=
  plain "[roll:" ++ (bracketBody bonus modifier ++ bracketDifficulty versus)

/-- The outline of what comes behind the name in a roll in brackets. -/
def bracketEnd (modifier : Bool) (versus : Versus) : Outline :=
  (if modifier then plain " modifier" else []) ++ [.gap] ++ bracketDifficulty versus

theorem bracketOutline_eq (bonus : Bonus) (modifier : Bool) (versus : Versus) :
    bracketOutline bonus modifier versus =
      plain "[roll: d20+" ++ (plain bonus.name ++ bracketEnd modifier versus) := by
  have start : plain "[roll: d20+" = plain "[roll:" ++ plain " d20+" := rfl
  rw [bracketOutline, bracketBody, bracketEnd, start]
  simp only [List.append_assoc]

theorem bracketOutline_ne_nil (bonus : Bonus) (modifier : Bool) (versus : Versus) :
    bracketOutline bonus modifier versus ≠ [] := by
  simp [bracketOutline, bracketBody]

theorem numbersFit_bracketOutline :
    ∀ bonus ∈ Bonus.all, ∀ modifier : Bool, ∀ versus ∈ Versus.all,
      Wording.numbersFit (bracketOutline bonus modifier versus) = true := by
  decide

theorem sketch_bracketOutline_eq_nil :
    ∀ bonus ∈ Bonus.all, ∀ modifier : Bool, ∀ versus ∈ Versus.all, ∀ form ∈ Form.all.take 6,
      form.pattern.sketch none (bracketOutline bonus modifier versus) = [] := by
  decide +kernel

def afterBody : Pattern Label :=
  sequence [
    oneOf [.andThen (chars "vs") (optional (chars ".")), chars "against"], gap,
    difficulty .difficulty, .many (.except ']') 0 .longest, chars "]"]

theorem passesOver_bracketBody :
    ∀ bonus ∈ Bonus.all, ∀ modifier : Bool, ∀ versus ∈ Versus.all,
      passesOver (.except ']') afterBody (some (.sign ':')) (bracketBody bonus modifier)
        (bracketDifficulty versus) = true := by
  decide

theorem head?_sketch_bracketDifficulty :
    ∀ versus ∈ Versus.all,
      (afterBody.sketch (some .gap) (bracketDifficulty versus)).head? =
        some (.sure (bracketDifficulty versus) [] [(.difficulty, [.numeral 0])]) := by
  decide

theorem sketch_roll (outline : Outline) :
    (chars "[roll:" : Pattern Label).sketch none (plain "[roll:" ++ outline) =
      [.sure (plain "[roll:") outline []] := by
  rfl

/-- What the form of a roll in brackets marks of the outline. -/
def bracketMarks (bonus : Bonus) (modifier : Bool) : List (Label × Outline) :=
  [(.body, bracketBody bonus modifier), (.difficulty, [.numeral 0])]

/-- The form of a roll in brackets is sure to match all of one. -/
theorem exists_sketch_bracketOutline (bonus : Bonus) (modifier : Bool) (versus : Versus) :
    ∃ others,
      Form.bracketRoll.pattern.sketch none (bracketOutline bonus modifier versus) =
        .sure (bracketOutline bonus modifier versus) [] (bracketMarks bonus modifier) ::
          others := by
  -- the body stops in front of the first difficulty that follows it
  obtain ⟨others, found⟩ :=
    List.head?_eq_some_iff.1 (head?_sketch_bracketDifficulty versus versus.mem_all)
  have last : (bracketBody bonus modifier).getLast?.or (some (.sign ':')) = some .gap := by
    simp [bracketBody]
  rw [← last] at found
  obtain ⟨more, sketched⟩ :=
    exists_sketch_shortest Label.body
      (passesOver_bracketBody bonus bonus.mem_all modifier versus versus.mem_all) found
  have parts :
      Form.bracketRoll.pattern =
        .andThen (chars "[roll:")
          (.andThen (.mark .body (.many (.except ']') 0 .shortest)) afterBody) := rfl
  have colon : (plain "[roll:").getLast?.or none = some (.sign ':') := rfl
  rw [parts, sketch, bracketOutline, sketch_roll, List.flatMap_singleton, Guess.andThen, colon,
    sketched, List.map_cons, Guess.behind, List.nil_append]
  exact ⟨_, rfl⟩

/-! ## Readings -/

/-- The name that is added to the die is found by its first word. -/
theorem prospect_addedName :
    ∀ bonus ∈ Bonus.all, ∀ modifier : Bool,
      addedName.prospect none (bracketBody bonus modifier) =
        .hit [(.name, plain bonus.firstWord)] := by
  decide

theorem prospect_abilityWord :
    ∀ bonus ∈ Bonus.all, bonus.isOneWord = false → ∀ modifier : Bool,
      abilityWord.prospect none (bracketBody bonus modifier) = .nothing := by
  decide

/-- What is read in place of a name: a name of one word as it is written, or else intelligence. -/
def Bonus.ReadAs (numbers : Nat → List Char) (bonus : Bonus) (name : String) : Prop :=
  if bonus.isOneWord then (plain bonus.name).WrittenAs numbers name.toList
  else name = Ability.intelligence.name

def bracketReading (name : String) (numbers : Nat → List Char) : Reading where
  name := some name
  difficulty := some (value (numbers 0))

theorem names_of_ability
    {numbers : Nat → List Char} {name : String} {ability : Ability}
    (named : Ability.ofName? name = some ability) :
    (bracketReading name numbers).skillName? .skill = none ∧
      (bracketReading name numbers).ability? .skill = some ability := by
  simp [bracketReading, Reading.skillName?, Reading.ability?, named]

section

variable {bonus : Bonus} {modifier : Bool} {numbers : Nat → List Char}
  (isRun : ∀ index, IsRun (numbers index))
include isRun

theorem Bonus.governing?_of_written
    {said : String} (isName : (plain bonus.name).WrittenAs numbers said.toList) :
    Ability.governing? said = some bonus.ability := by
  cases bonus with
  | ofAbility short ability =>
      rw [Ability.governing?, Ability.ofName?_of_said isName]
      rfl
  | ofSkill skill =>
      have noAbility := Ability.ofName?_eq_none_of_said isRun isName
      have spelled := Skill.normalForm_of_said isRun isName
      rw [Ability.governing?, noAbility, Skill.ofName?_of_normalForm spelled]
      rfl

theorem readAs_bracketName
    {body : List Char} (written : (bracketBody bonus modifier).WrittenAs numbers body) :
    bonus.ReadAs numbers (bracketName body) := by
  have ahead := prospect_addedName bonus bonus.mem_all modifier
  have marksName :
      [(Label.name, plain bonus.firstWord)].lookup .name = some (plain bonus.firstWord) := rfl
  obtain ⟨added, found, isWord⟩ := exists_mark?_of_prospect isRun written ahead marksName
  by_cases oneWord : bonus.isOneWord = true
  · have isName : bonus.firstWord = bonus.name := beq_iff_eq.1 oneWord
    rw [isName] at isWord
    have known := Bonus.governing?_of_written isRun isWord
    rw [Bonus.ReadAs, if_pos oneWord]
    simpa [bracketName, found, Option.filter_some, known] using isWord
  · have severalWords : bonus.isOneWord = false := eq_false_of_ne_true oneWord
    -- the first word is no name, and the search for any ability falls back to intelligence
    have unknown : Ability.governing? added = none := by
      rw [Ability.governing?_of_written bonus.isLower_firstWord isWord]
      exact Bonus.governing?_firstWord bonus bonus.mem_all severalWords
    have meets := meets_search? isRun written abilityWord
    rw [prospect_abilityWord bonus bonus.mem_all severalWords modifier] at meets
    have noAbility : abilityWord.search? body = none := meets
    rw [Bonus.ReadAs, if_neg oneWord]
    simp [bracketName, found, Option.filter_some, unknown, noAbility]

theorem exists_read_bracketRoll
    {hit : Hit Label} (short : (numbers 0).length ≤ digitLimit)
    (isMarked : MarksWrittenAs numbers (bracketMarks bonus modifier) hit.marks) :
    ∃ name, bonus.ReadAs numbers name ∧
      Form.bracketRoll.read hit = .ok (bracketReading name numbers) := by
  have marksBody :
      (bracketMarks bonus modifier).lookup .body = some (bracketBody bonus modifier) := rfl
  have marksNumber :
      (bracketMarks bonus modifier).lookup .difficulty = some [.numeral 0] := rfl
  obtain ⟨body, isBody, written⟩ := isMarked.exists_mark? marksBody
  obtain ⟨digits, areDigits, isNumeral⟩ := isMarked.exists_mark? marksNumber
  refine ⟨bracketName body.toList, readAs_bracketName isRun written, ?_⟩
  change readBracket hit = _
  rw [readBracket, isBody, areDigits, number?_of_written short isNumeral]
  rfl

/-! ## Suggestions -/

theorem names_bracketReading
    {said name : String} (isName : (plain bonus.name).WrittenAs numbers said.toList)
    (read : bonus.ReadAs numbers name) :
    (bracketReading name numbers).skillName? .skill = bonus.skillName? said ∧
      (bracketReading name numbers).ability? .skill = bonus.ability? said := by
  have known := Bonus.governing?_of_written isRun isName
  rw [Bonus.ability?]
  by_cases oneWord : bonus.isOneWord = true
  · rw [Bonus.ReadAs, if_pos oneWord] at read
    rw [if_pos oneWord, known]
    cases bonus with
    | ofAbility short ability => exact names_of_ability (Ability.ofName?_of_said read)
    | ofSkill skill =>
        rw [Bonus.skillName?, if_pos oneWord, Skill.normalForm_of_said isRun isName]
        exact ⟨CheckWording.skillName?_skillReading isRun read,
          CheckWording.ability?_skillReading isRun read⟩
  · have noSkill : bonus.skillName? said = none := by
      cases bonus with
      | ofAbility short ability => rfl
      | ofSkill skill => exact if_neg oneWord
    rw [Bonus.ReadAs, if_neg oneWord] at read
    rw [if_neg oneWord, noSkill, read]
    exact names_of_ability (Ability.ofName?_word .intelligence false)

end

/-- What a roll in brackets suggests, given the name as it is written. -/
def bracketSuggestion
    (bonus : Bonus) (numbers : Nat → List Char) (said text : String) : Suggestion where
  kind := .skill
  ability := (bonus.ability? said).map Ability.name
  skill := bonus.skillName? said
  difficulty := some (value (numbers 0))
  span := ⟨0, text.length⟩
  description := text
  form := "bracket_roll"

theorem exists_ability?
    {bonus : Bonus} {numbers : Nat → List Char} {said : String}
    (isRun : ∀ index, IsRun (numbers index))
    (isName : (plain bonus.name).WrittenAs numbers said.toList) :
    ∃ ability, bonus.ability? said = some ability := by
  rw [Bonus.ability?, Bonus.governing?_of_written isRun isName]
  split
  · exact ⟨_, rfl⟩
  · exact ⟨_, rfl⟩

theorem suggestion?_bracketReading
    {bonus : Bonus} {numbers : Nat → List Char} {hit : Hit Label} {said name text : String}
    (isRun : ∀ index, IsRun (numbers index)) (span : hit.span = ⟨0, text.length⟩)
    (shown : hit.text = text.toList) (isName : (plain bonus.name).WrittenAs numbers said.toList)
    (read : bonus.ReadAs numbers name) :
    Form.bracketRoll.suggestion? hit (bracketReading name numbers) =
      some (bracketSuggestion bonus numbers said text) := by
  obtain ⟨skillName, ability⟩ := names_bracketReading isRun isName read
  obtain ⟨known, isKnown⟩ := exists_ability? isRun isName
  have isCheck : Form.bracketRoll.kind = .skill := rfl
  rw [Form.suggestion?, bracketSuggestion, isCheck, ability, skillName, isKnown, span, shown,
    String.ofList_toList]
  rfl

/-- A roll in brackets makes one suggestion, whatever the case of its letters, its white space and
its number are. It is the one of the name that is added to the die, if this is one word; else it is
one of intelligence. -/
theorem brackets_resolve_names_of_one_word
    (bonus : Bonus) (modifier : Bool) (versus : Versus) {numbers : Nat → List Char}
    {opening closing : List Char} {said text : String}
    (isRun : ∀ index, IsRun (numbers index)) (short : (numbers 0).length ≤ digitLimit)
    (opens : (plain "[roll: d20+").WrittenAs numbers opening)
    (isName : (plain bonus.name).WrittenAs numbers said.toList)
    (closes : (bracketEnd modifier versus).WrittenAs numbers closing)
    (split : text.toList = opening ++ (said.toList ++ closing)) :
    suggestions text = .ok [bracketSuggestion bonus numbers said text] := by
  have written : (bracketOutline bonus modifier versus).WrittenAs numbers text.toList := by
    rw [bracketOutline_eq, split]
    exact opens.append (isName.append closes)
  have fit : NumbersFit text.toList :=
    Wording.numbersFit_of_written isRun short
      (numbersFit_bracketOutline bonus bonus.mem_all modifier versus versus.mem_all) written
  have forms : Form.all = Form.all.take 6 ++ Form.bracketRoll :: Form.all.drop 7 := rfl
  obtain ⟨others, sketched⟩ := exists_sketch_bracketOutline bonus modifier versus
  obtain ⟨hit, span, shown, isMarked, found⟩ :=
    exists_hit_of_sketch isRun written (bracketOutline_ne_nil bonus modifier versus) fit forms
      (sketch_bracketOutline_eq_nil bonus bonus.mem_all modifier versus versus.mem_all) sketched
  obtain ⟨name, readAs, read⟩ := exists_read_bracketRoll isRun short isMarked
  exact found _ _ read (suggestion?_bracketReading isRun span shown isName readAs)

/-- A skill of one word in brackets, with letters in both cases, wide gaps and digits of another
script. -/
theorem brackets_resolve_names_of_one_word_for_stealth :
    suggestions "[rOLL:\td20+StealtH  Modifier AGAINST Dc \u0661\u0665]" =
      .ok [{
        kind := .skill
        ability := some "dexterity"
        skill := some "stealth"
        difficulty := some 15
        span := ⟨0, 43⟩
        description := "[rOLL:\td20+StealtH  Modifier AGAINST Dc \u0661\u0665]"
        form := "bracket_roll" }] := by
  have isRun : IsRun ['\u0661', '\u0665'] := ⟨by decide, List.all_eq_true.1 (by decide)⟩
  have opens :
      (plain "[roll: d20+").WrittenAs (fun _ => ['\u0661', '\u0665']) "[rOLL:\td20+".toList :=
    ⟨[['['], ['r'], ['O'], ['L'], ['L'], [':'], ['\t'], ['d'], ['2'], ['0'], ['+']],
      by decide, by decide⟩
  have isName :
      (plain (Bonus.ofSkill .stealth).name).WrittenAs (fun _ => ['\u0661', '\u0665'])
        "StealtH".toList :=
    ⟨[['S'], ['t'], ['e'], ['a'], ['l'], ['t'], ['H']], by decide, by decide⟩
  have closes :
      (bracketEnd true .against).WrittenAs (fun _ => ['\u0661', '\u0665'])
        "  Modifier AGAINST Dc \u0661\u0665]".toList :=
    ⟨[[' ', ' '], ['M'], ['o'], ['d'], ['i'], ['f'], ['i'], ['e'], ['r'], [' '], ['A'], ['G'],
        ['A'], ['I'], ['N'], ['S'], ['T'], [' '], ['D'], ['c'], [' '], ['\u0661', '\u0665'],
        [']']],
      by decide, by decide⟩
  have split :
      "[rOLL:\td20+StealtH  Modifier AGAINST Dc \u0661\u0665]".toList =
        "[rOLL:\td20+".toList ++
          ("StealtH".toList ++ "  Modifier AGAINST Dc \u0661\u0665]".toList) := by
    decide
  have found :=
    brackets_resolve_names_of_one_word (.ofSkill .stealth) true .against (fun _ => isRun)
      (by decide) opens isName closes split
  rw [found]
  decide

/-- In brackets, a skill of several words is lost. -/
theorem sleight_of_hand_is_lost_in_brackets :
    Skill.ofName? "Sleight of Hand" = some .sleightOfHand ∧
      Ability.governing? "Sleight of Hand" = some .dexterity ∧
      ¬ ∃ suggestion,
        suggestions "[Roll: d20+Sleight of Hand vs DC 15]" = .ok [suggestion] ∧
          (suggestion.ability = some "dexterity" ∨ suggestion.skill = some "sleight of hand") := by
  refine ⟨by decide, by decide, ?_⟩
  have found :
      suggestions "[Roll: d20+Sleight of Hand vs DC 15]" =
        .ok [{
          kind := .skill
          ability := some "intelligence"
          difficulty := some 15
          span := ⟨0, 36⟩
          description := "[Roll: d20+Sleight of Hand vs DC 15]"
          form := "bracket_roll" }] := by
    decide +kernel
  rintro ⟨suggestion, isFound, isRight⟩
  rw [found] at isFound
  obtain rfl := (List.cons.inj (Except.ok.inj isFound)).1
  revert isRight
  decide

end Prompt

end Tabletop
