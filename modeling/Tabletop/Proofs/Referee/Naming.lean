import Tabletop.Proofs.Names.Known
import Tabletop.Proofs.Referee.Free

/-!
# What an action goes by

An action that is understood goes by an ability that is known, and a check or a saving throw adds
the modifier of the score in that ability. The one exception are checks and saving throws whose name
has a stray letter: they go by no ability, and no score counts for them.
-/

namespace Tabletop

open Numeral Pattern Text

/-! ## Outcomes and their abilities -/

namespace Outcome

/-- A check or a saving throw. -/
def IsCheck (outcome : Outcome) : Prop :=
  outcome.kind = .skillCheck ∨ outcome.kind = .savingThrow

/-- Whether a character is proficient in what was rolled for: the ability of a saving throw, or the
skill of a check. -/
def isProficient (outcome : Outcome) (character : Character) : Bool :=
  if outcome.kind = .savingThrow then outcome.ability.any character.isProficientInSave
  else outcome.skill.any character.isProficientInSkill

/-- An outcome goes by an ability, or by none: it shows its name, and a check adds the modifier of
the score in it. -/
structure GoesBy (outcome : Outcome) (ability : Option Ability) (character : Character)
    (proficiency : Int) : Prop where
  shown : outcome.ability = ability.map Ability.name
  added : outcome.IsCheck →
    outcome.modifier =
      (ability.map fun ability => scoreModifier (character.scores.get ability)).getD 0 +
        (if outcome.isProficient character then proficiency else 0)

/-- A skill that an outcome shows is one that is known. -/
def KnowsSkill (outcome : Outcome) : Prop :=
  ∀ name, outcome.skill = some name → ∃ known : Skill, name = known.name

end Outcome

/-- A check that leaves proficiency to the character goes by the ability that its key stands for,
if it asks for that ability. -/
theorem CheckRequest.ensures_goesBy
    {request : CheckRequest} {ability : Option Ability}
    (governing : Ability.governing? request.key = ability)
    (asked : request.ability = ability.map Ability.name)
    (leavesOpen : request.proficient = none) (character : Character) (proficiency : Int) :
    (request.resolve character proficiency).Ensures fun outcome =>
      outcome.GoesBy ability character proficiency := by
  have tested :
      (Test.roll (request.bonus character proficiency) request.difficulty).Ensures fun test =>
        test.modifier = request.bonus character proficiency :=
    Rolling.ensures_bind fun roll => Rolling.ensures_pure rfl
  refine tested.bind fun test added => Rolling.ensures_pure ⟨?_, fun _ => ?_⟩
  · rw [governing]
  · change test.modifier = _
    rw [added, bonus, governing, isProficient, leavesOpen, asked]
    simp only [Outcome.isProficient]
    cases ability <;> rfl

/-! ## The name in an action -/

namespace Wording

/-- The ability or skill that an action names, as the text spells it. -/
def nameIn? (text : String) : Option String :=
  (named.search? text.toList).bind (·.mark? ())

theorem exists_phrase_of_nameIn?
    {text found : String} (isNamed : nameIn? text = some found) :
    (∃ (ability : Ability) (short : Bool) (marks : Marks Unit),
      (phrase (ability.word short)).Reads found.toList marks) ∨
    ∃ (skill : Skill) (marks : Marks Unit), (phrase skill.name).Reads found.toList marks := by
  obtain ⟨inner, isPart, marks, reads, -⟩ := part_of_mark?_search? isNamed
  have onlyPart : named.parts () = [abilityOrSkill] := rfl
  rw [onlyPart, List.mem_singleton] at isPart
  subst isPart
  obtain ⟨pattern, listed, reads⟩ := reads_oneOf reads
  obtain ⟨name, sorted, rfl⟩ := List.mem_map.1 listed
  have isName := (perm_sortBy _ _).mem_iff.1 sorted
  simp only [abilityWords, List.mem_append, List.mem_map] at isName
  rcases isName with (⟨ability, -, rfl⟩ | ⟨ability, -, rfl⟩) | ⟨skill, -, rfl⟩
  · exact Or.inl ⟨ability, false, marks, reads⟩
  · exact Or.inl ⟨ability, true, marks, reads⟩
  · exact Or.inr ⟨skill, marks, reads⟩

/-- In usual letters an action names an ability or a skill that is known. -/
theorem written_of_nameIn?
    {text found : String} (numbers : Nat → List Char) (isNamed : nameIn? text = some found)
    (usual : ∀ c ∈ found.toList, c ∉ strayLetters) :
    (∃ (ability : Ability) (short : Bool),
      (plain (ability.word short)).WrittenAs numbers found.toList) ∨
    ∃ skill : Skill, (plain skill.name).WrittenAs numbers found.toList := by
  rcases exists_phrase_of_nameIn? isNamed with ⟨ability, short, marks, reads⟩ | ⟨skill, marks, reads⟩
  · exact Or.inl ⟨ability, short, writtenAs_of_reads (ability.outline?_phrase short) reads usual⟩
  · exact Or.inr ⟨skill, writtenAs_of_reads skill.outline?_phrase reads usual⟩

end Wording

/-! ## The check that an action asks for -/

/-- The kind of check that an action asks for. -/
def Referee.checkKind (text : String) : ActionKind :=
  if Wording.saveWord.occursIn text.toList then .savingThrow else .skillCheck

/-- The check for an ability or a skill that an action names. -/
def Referee.checkFor (text : String) (ability : Option Ability) (skill : Option String)
    (difficulty : Option Int) (notes : List String) : CheckRequest where
  kind := checkKind text
  description := text
  ability := ability.map Ability.name
  skill := if checkKind text = .skillCheck then skill else none
  difficulty := difficulty
  notes := notes

namespace Referee

theorem resolveNamed_of_ability
    {text found : String} {ability : Ability} (isNamed : Wording.nameIn? text = some found)
    (known : Ability.ofName? (lower found) = some ability)
    (character : Character) (proficiency : Int) (notes : List String) :
    resolveNamed text character proficiency notes = (do
      let difficulty ← Rolling.lift (Wording.numberIn Wording.difficulty text.toList)
      (checkFor text (some ability) none difficulty notes).resolve character proficiency) := by
  rw [Wording.nameIn?] at isNamed
  simp only [resolveNamed, isNamed, known]
  rfl

theorem resolveNamed_of_skill
    {text found : String} {ability : Option Ability} {spelling : String}
    (isNamed : Wording.nameIn? text = some found)
    (noAbility : Ability.ofName? (lower found) = none)
    (spelled : Skill.normalForm (lower found) = spelling)
    (governing : (Skill.ofName? spelling).map Skill.ability = ability)
    (character : Character) (proficiency : Int) (notes : List String) :
    resolveNamed text character proficiency notes = (do
      let difficulty ← Rolling.lift (Wording.numberIn Wording.difficulty text.toList)
      (checkFor text ability (some spelling) difficulty notes).resolve character
        proficiency) := by
  rw [Wording.nameIn?] at isNamed
  subst spelled
  subst governing
  simp only [resolveNamed, isNamed, noAbility, checkFor, checkKind, Option.isSome_none,
    Bool.false_eq_true, if_false, Option.none_or, Option.bind_some]
  rfl

theorem governing?_key_checkFor
    (text : String) (ability : Ability) (skill : Option String) (difficulty : Option Int)
    (notes : List String) :
    Ability.governing? (checkFor text (some ability) skill difficulty notes).key =
      some ability := by
  have isKey : (checkFor text (some ability) skill difficulty notes).key = ability.name := by
    cases ability <;> rfl
  rw [isKey, Ability.governing?_name]

theorem governing?_key_checkFor_none
    {spelling : String} (unknown : Ability.governing? spelling = none) (text : String)
    (difficulty : Option Int) (notes : List String) :
    Ability.governing? (checkFor text none (some spelling) difficulty notes).key = none := by
  have blank : Ability.governing? "" = none := by decide
  have spelled : Ability.governing? ((nonEmpty? (some spelling)).getD "") = none := by
    rw [nonEmpty?, Option.filter_some]
    split
    · exact unknown
    · exact blank
  rw [CheckRequest.key]
  -- a saving throw keeps no skill, so that its key is the empty name
  change Ability.governing?
    ((nonEmpty? (if checkKind text = .skillCheck then some spelling else none)).getD "") = none
  split
  · exact spelled
  · exact blank

variable (referee : Referee)

theorem checkKind_cases (text : String) :
    checkKind text = .skillCheck ∨ checkKind text = .savingThrow := by
  rw [checkKind]
  split
  · exact Or.inr rfl
  · exact Or.inl rfl

theorem ensures_checkFor
    (text : String) (ability : Option Ability) (skill : Option String) (difficulty : Option Int)
    (notes : List String) (character : Character) (proficiency : Int) :
    ((checkFor text ability skill difficulty notes).resolve character proficiency).Ensures
      fun outcome =>
        outcome.IsCheck ∧
          outcome.skill = if checkKind text = .skillCheck then skill else none := by
  intro tray outcome done
  have shown := CheckRequest.ensures_unrolled _ character proficiency tray outcome done
  have isKind : outcome.kind = checkKind text := congrArg Outcome.kind shown
  refine ⟨?_, congrArg Outcome.skill shown⟩
  rw [Outcome.IsCheck, isKind]
  exact checkKind_cases text

/-! ## Known and unknown names -/

theorem ensures_knownName
    {text found : String} (isNamed : Wording.nameIn? text = some found)
    (usual : ∀ c ∈ found.toList, c ∉ strayLetters)
    (character : Character) (proficiency : Int) (notes : List String) :
    (resolveNamed text character proficiency notes).Ensures fun outcome =>
      (∃ ability, outcome.GoesBy (some ability) character proficiency) ∧ outcome.KnowsSkill := by
  have isRun : ∀ _ : Nat, IsRun ['0'] :=
    fun _ => ⟨List.cons_ne_nil _ _, List.forall_mem_singleton.2 rfl⟩
  have goesBy (ability : Ability) (skill : Option String) (difficulty : Option Int) :
      ((checkFor text (some ability) skill difficulty notes).resolve character
        proficiency).Ensures fun outcome => outcome.GoesBy (some ability) character proficiency :=
    CheckRequest.ensures_goesBy (governing?_key_checkFor text ability skill difficulty notes) rfl
      rfl character proficiency
  rcases Wording.written_of_nameIn? (fun _ => ['0']) isNamed usual with
    ⟨ability, short, written⟩ | ⟨skill, written⟩
  · have isAbility : Ability.ofName? (lower found) = some ability :=
      Ability.ofName?_lower_of_written written
    rw [resolveNamed_of_ability isNamed isAbility]
    refine Rolling.ensures_bind fun difficulty => ?_
    intro tray outcome done
    obtain ⟨-, noSkill⟩ := ensures_checkFor text _ _ _ _ character proficiency tray outcome done
    rw [ite_self] at noSkill
    refine ⟨⟨ability, goesBy ability none difficulty tray outcome done⟩, fun name isSkill => ?_⟩
    rw [noSkill] at isSkill
    cases isSkill
  · obtain ⟨noAbility, spelled⟩ := Skill.lower_of_written isRun written
    have governing : (Skill.ofName? skill.name).map Skill.ability = some skill.ability := by
      rw [Skill.ofName?_name, Option.map_some]
    rw [resolveNamed_of_skill isNamed noAbility spelled governing]
    refine Rolling.ensures_bind fun difficulty => ?_
    intro tray outcome done
    obtain ⟨-, hasSkill⟩ := ensures_checkFor text _ _ _ _ character proficiency tray outcome done
    refine ⟨⟨skill.ability, goesBy _ _ difficulty tray outcome done⟩, fun name isSkill => ?_⟩
    rw [hasSkill] at isSkill
    split at isSkill
    · exact ⟨skill, (Option.some.inj isSkill).symm⟩
    · cases isSkill

theorem ensures_strangeName
    {text found : String} (isNamed : Wording.nameIn? text = some found)
    (strange : ∃ c ∈ found.toList, c ∈ strangeLetters)
    (character : Character) (proficiency : Int) (notes : List String) :
    (resolveNamed text character proficiency notes).Ensures fun outcome =>
      outcome.IsCheck ∧ outcome.GoesBy none character proficiency := by
  have lowered : ∃ c ∈ (lower found).toList, c ∈ strangeLetters := exists_strange_of_lower strange
  have spelled := Skill.exists_strange_of_normalForm lowered
  have noAbility : Ability.ofName? (lower found) = none :=
    Ability.ofName?_eq_none_of_strange lowered
  have governing :
      (Skill.ofName? (Skill.normalForm (lower found))).map Skill.ability = none := by
    rw [Skill.ofName?_eq_none_of_strange spelled, Option.map_none]
  rw [resolveNamed_of_skill isNamed noAbility rfl governing]
  refine Rolling.ensures_bind fun difficulty => ?_
  have unknown := Ability.governing?_eq_none_of_strange spelled
  intro tray outcome done
  obtain ⟨isCheck, -⟩ := ensures_checkFor text _ _ _ _ character proficiency tray outcome done
  have byNone := governing?_key_checkFor_none unknown text difficulty notes
  exact ⟨isCheck,
    CheckRequest.ensures_goesBy byNone rfl rfl character proficiency tray outcome done⟩

/-! ## All actions -/

theorem goesBy_of_shown
    {outcome : Outcome} {ability : Ability} (shown : outcome.ability = some ability.name)
    (noSkill : outcome.skill = none) (noCheck : ¬outcome.IsCheck)
    (character : Character) (proficiency : Int) :
    (∃ ability, outcome.GoesBy (some ability) character proficiency) ∧ outcome.KnowsSkill := by
  refine ⟨⟨ability, shown, fun isCheck => absurd isCheck noCheck⟩, fun name isSkill => ?_⟩
  rw [noSkill] at isSkill
  cases isSkill

theorem ensures_spell_goesBy
    {text : String} {spell : Spell} (casts : referee.spellIn? text = some spell)
    (character : Character) (override : Option Int) (proficiency : Int) :
    (referee.resolveFree text character override).Ensures fun outcome =>
      (∃ ability, outcome.GoesBy (some ability) character proficiency) ∧
        outcome.KnowsSkill := by
  rw [referee.resolveFree_of_spell casts]
  refine Rolling.ensures_bind fun slot => Rolling.ensures_bind fun target => ?_
  intro tray outcome done
  have unrolled := CastRequest.ensures_unrolled _ character _ tray outcome done
  have isKind : outcome.kind = .spellCast :=
    (congrArg Outcome.kind unrolled).trans (CastRequest.announced_shows _ _ _).1
  have shown : outcome.ability = some spell.ability.toAbility.name :=
    (congrArg Outcome.ability unrolled).trans (CastRequest.announced_shows _ _ _).2.1
  have noSkill : outcome.skill = none :=
    (congrArg Outcome.skill unrolled).trans (CastRequest.announced_shows _ _ _).2.2
  refine goesBy_of_shown shown noSkill ?_ character proficiency
  rw [Outcome.IsCheck, isKind]
  decide

theorem ensures_armed_goesBy
    {text : String} (armed : Wording.weaponVerb.occursIn text.toList = true)
    (character : Character) (proficiency : Int) (notes : List String) :
    (referee.resolveArmed text character proficiency notes).Ensures fun outcome =>
      (∃ ability, outcome.GoesBy (some ability) character proficiency) ∧
        outcome.KnowsSkill := by
  rw [resolveArmed, if_pos armed]
  refine Rolling.ensures_bind fun target => ?_
  intro tray outcome done
  obtain ⟨weapon, ability, fallbackNotes, unrolled⟩ :=
    AttackRequest.ensures_unrolled _ _ _ character proficiency tray outcome done
  have isKind : outcome.kind = .weaponAttack := congrArg Outcome.kind unrolled
  have shown : outcome.ability = some ability.name := congrArg Outcome.ability unrolled
  have noSkill : outcome.skill = none := congrArg Outcome.skill unrolled
  refine goesBy_of_shown shown noSkill ?_ character proficiency
  rw [Outcome.IsCheck, isKind]
  decide

end Referee

/-- An action that comes to a resolved outcome goes by an ability that is known and shows no unknown
skill, or it is a check or a saving throw whose name has a stray letter and goes by no ability. -/
theorem resolved_actions_go_by_abilities
    (referee : Referee) (text : String) (character : Character) (override : Option Int)
    (tray : Tray) (outcome : Outcome)
    (done : (referee.resolveFree text character override tray).1 = .ok outcome)
    (resolved : outcome.kind ≠ .unresolved) :
    ((∃ ability,
        outcome.GoesBy (some ability) character (referee.proficiency character override)) ∧
      outcome.KnowsSkill) ∨
    (outcome.IsCheck ∧
      outcome.GoesBy none character (referee.proficiency character override) ∧
      ∃ name letter,
        Wording.nameIn? text = some name ∧ letter ∈ strayLetters ∧ letter ∈ name.toList) := by
  cases casts : referee.spellIn? text with
  | some spell =>
      left
      exact referee.ensures_spell_goesBy casts character override _ tray outcome done
  | none =>
      obtain ⟨notes, isArmed⟩ := referee.exists_notes_of_no_spell casts character override
      rw [isArmed] at done
      by_cases armed : Wording.weaponVerb.occursIn text.toList = true
      · left
        exact referee.ensures_armed_goesBy armed character _ notes tray outcome done
      · rw [Referee.resolveArmed, if_neg armed] at done
        cases isNamed : Wording.nameIn? text with
        | none =>
            rw [Wording.nameIn?] at isNamed
            rw [Referee.resolveNamed, isNamed] at done
            obtain rfl := Except.ok.inj done
            exact absurd rfl resolved
        | some found =>
            -- only with a stray letter can a name be recognised and yet stand for nothing
            by_cases usual : ∀ c ∈ found.toList, c ∉ strayLetters
            · left
              exact Referee.ensures_knownName isNamed usual character _ notes tray outcome done
            · right
              push Not at usual
              obtain ⟨letter, member, isStray⟩ := usual
              have strange : ∃ c ∈ found.toList, c ∈ strangeLetters :=
                ⟨letter, member, List.mem_cons_of_mem _ isStray⟩
              obtain ⟨isCheck, byNone⟩ :=
                Referee.ensures_strangeName isNamed strange character _ notes tray outcome done
              exact ⟨isCheck, byNone, found, letter, rfl, isStray, member⟩

/-- A check of a skill in which the character is proficient. -/
theorem resolved_actions_go_by_abilities_for_a_stealth_check :
    ∃ outcome,
      (Referee.resolveFree ⟨Compendium.standard, {}⟩ "I roll Stealth"
        { skills := NameSet.ofList ["stealth"] } none ⟨Source.ofList [], 0⟩).1 = .ok outcome ∧
      outcome.kind ≠ .unresolved ∧
      ∃ ability,
        outcome.GoesBy (some ability) { skills := NameSet.ofList ["stealth"] } 2 := by
  have isSome :
      (Referee.resolveFree ⟨Compendium.standard, {}⟩ "I roll Stealth"
        { skills := NameSet.ofList ["stealth"] } none
        ⟨Source.ofList [], 0⟩).1.toOption.isSome = true := by
    decide +kernel
  obtain ⟨outcome, done⟩ := exists_of_isSome_toOption isSome
  have known : Referee.Understands ⟨Compendium.standard, {}⟩ "I roll Stealth" := by
    right
    right
    decide +kernel
  have resolved := Referee.ensures_isResolved _ known _ none _ outcome done
  rcases resolved_actions_go_by_abilities _ _ _ none _ outcome done resolved with
    ⟨byAbility, -⟩ | ⟨-, -, name, letter, isNamed, isStray, member⟩
  · exact ⟨outcome, done, resolved, byAbility⟩
  · have named : Wording.nameIn? "I roll Stealth" = some "Stealth" := by decide +kernel
    rw [named] at isNamed
    obtain rfl := Option.some.inj isNamed
    have noStray : strayLetters.all (fun letter => !"Stealth".toList.contains letter) = true := by
      decide
    exact absurd member (by simpa using List.all_eq_true.1 noStray letter isStray)

/-- Strength with a long s is recognised but stands for no ability, and a score of sixteen adds
nothing. -/
theorem stray_letter_leaves_a_check_without_ability :
    ∃ outcome,
      (Referee.resolveFree ⟨Compendium.standard, {}⟩ "\u017ftrength check"
        { scores := { strength := 16 } } none ⟨Source.ofList [], 0⟩).1 = .ok outcome ∧
      outcome.kind = .skillCheck ∧ outcome.ability = none ∧
      outcome.skill = some "\u017ftrength" ∧ outcome.modifier = 0 ∧
      ∀ known : Skill, known.name ≠ "\u017ftrength" := by
  refine ⟨{
    kind := .skillCheck
    description := "\u017ftrength check"
    face := some 11
    total := 11
    skill := some "\u017ftrength" }, ?_, rfl, rfl, rfl, rfl, ?_⟩
  · decide +kernel
  · intro known
    cases known <;> decide

end Tabletop
