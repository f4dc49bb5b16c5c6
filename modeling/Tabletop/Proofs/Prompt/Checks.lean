import Tabletop.Proofs.Names.Known
import Tabletop.Proofs.Prompt.RoundTrip

/-!
# Wordings of checks

Four wordings of checks and saving throws that a player may take up as they stand. Three of them are
usual ones, and in the fourth a request names a skill in the place of an ability.
-/

namespace Tabletop

open Numeral Pattern Text

theorem Skill.ofName?_of_normalForm
    {name : String} {skill : Skill} (spelled : normalForm name = skill.name) :
    ofName? name = some skill := by
  have isFirst : all.find? (fun other => other.name == skill.name) = some skill := by
    cases skill <;> decide
  rw [ofName?, spelled]
  exact isFirst

namespace Prompt

/-! ## Prompts that a form is sure of -/

/-- A text of an outline that a form is sure to match as a whole is one prompt of this form, unless
an earlier form might match at its beginning. -/
theorem exists_hit_of_sketch
    {numbers : Nat → List Char} {outline taken : Outline} {text : String}
    {earlier later : List Form} {form : Form} {marks : List (Label × Outline)}
    {others : List (Guess Label)}
    (isRun : ∀ index, IsRun (numbers index)) (written : outline.WrittenAs numbers text.toList)
    (nonempty : outline ≠ []) (fit : NumbersFit text.toList)
    (forms : Form.all = earlier ++ form :: later)
    (unmatched : ∀ other ∈ earlier, other.pattern.sketch none outline = [])
    (sketched : form.pattern.sketch none outline = .sure taken [] marks :: others) :
    ∃ hit : Hit Label,
      hit.span = ⟨0, text.length⟩ ∧ hit.text = text.toList ∧
        MarksWrittenAs numbers marks hit.marks ∧
        ∀ reading suggestion, form.read hit = .ok reading →
          form.suggestion? hit reading = some suggestion → suggestions text = .ok [suggestion] := by
  have standing : Standing numbers none outline (Cursor.front text.toList) :=
    ⟨Option.Rel.none, written⟩
  obtain ⟨parts, isMarked, found⟩ := exists_hitAt?_of_sketch isRun standing sketched
  have whole : (⟨0, text.toList.length⟩ : Span) = ⟨0, text.length⟩ := by
    rw [String.length_toList]
  refine ⟨⟨⟨0, text.toList.length⟩, text.toList, parts⟩, whole, rfl, isMarked, ?_⟩
  intro reading suggestion read made
  have noHit : ∀ other ∈ earlier, other.pattern.hitAt? (Cursor.front text.toList) = none :=
    fun other listed => hitAt?_eq_none_of_sketch isRun standing (unmatched other listed)
  exact suggestions_eq_singleton fit (written.ne_nil isRun nonempty) forms noHit found whole read
    made

theorem number?_of_written
    {numbers : Nat → List Char} {digits : String} (short : (numbers 0).length ≤ digitLimit)
    (isNumeral : Outline.WrittenAs numbers [.numeral 0] digits.toList) :
    number? (some digits) = .ok (some (value (numbers 0) : Int)) := by
  rw [number?, Outline.writtenAs_numeral_iff.1 isNumeral, readNat_eq_ok short]
  rfl

/-! ## Wordings -/

/-- A wording of a check or a saving throw. Abilities may be named in short. -/
inductive CheckWording where
  /-- "make a DC 12 Wisdom check" -/
  | abilityCheck (short : Bool) (ability : Ability)
  /-- "make a DC 12 Perception check" -/
  | skillCheck (skill : Skill)
  /-- "Wisdom (Perception) check (DC 12)" -/
  | abilitySkillCheck (short : Bool) (ability : Ability) (skill : Skill)
  /-- "make a DC 12 Wisdom saving throw" -/
  | save (short : Bool) (ability : Ability)
deriving DecidableEq, Repr

namespace CheckWording

/-- The outline of a request of a skill. -/
def skillOutline (skill : Skill) : Outline :=
  plain "make a dc " ++ [.numeral 0] ++ [.gap] ++ plain skill.name ++ plain " check"

/-- The outline of a wording, in which the first number is the difficulty. -/
def outline : CheckWording → Outline
  | .abilityCheck short ability => (Wording.requestedCheck short ability).outline
  | .skillCheck skill => skillOutline skill
  | .abilitySkillCheck short ability skill =>
      (Wording.abilitySkillCheck short ability skill).outline
  | .save short ability => (Wording.requestedSave short ability).outline

/-- What a text in a wording suggests, given its numbers. -/
def suggestion (wording : CheckWording) (numbers : Nat → List Char) (text : String) : Suggestion :=
  match wording with
  | .abilityCheck short ability => (Wording.requestedCheck short ability).suggestion numbers text
  | .skillCheck skill =>
      { kind := .skill, ability := some skill.ability.name, skill := some skill.name
        difficulty := some (value (numbers 0)), span := ⟨0, text.length⟩
        description := text, form := "requested_check" }
  | .abilitySkillCheck short ability skill =>
      (Wording.abilitySkillCheck short ability skill).suggestion numbers text
  | .save short ability => (Wording.requestedSave short ability).suggestion numbers text

/-! ## Requests of a skill -/

def skillMarks (skill : Skill) : List (Label × Outline) :=
  [(.difficulty, [.numeral 0]), (.name, plain skill.name)]

theorem numbersFit_skillOutline :
    ∀ skill ∈ Skill.all, Wording.numbersFit (skillOutline skill) = true := by
  decide +kernel

theorem sketch_skillOutline_eq_nil :
    ∀ skill ∈ Skill.all, ∀ form ∈ Form.all.take 2,
      form.pattern.sketch none (skillOutline skill) = [] := by
  decide +kernel

/-- The form of a request is sure to match all of one that names a skill. -/
theorem head?_sketch_skillOutline :
    ∀ skill ∈ Skill.all,
      (Form.requestedCheck.pattern.sketch none (skillOutline skill)).head? =
        some (.sure (skillOutline skill) [] (skillMarks skill)) := by
  decide +kernel

/-- What the form of a request reads in one that names a skill. -/
def skillReading (said : String) (numbers : Nat → List Char) : Reading where
  name := some said
  difficulty := some (value (numbers 0))

section

variable {skill : Skill} {numbers : Nat → List Char} {text : String}

theorem exists_read_eq
    {hit : Hit Label} (short : (numbers 0).length ≤ digitLimit)
    (isMarked : MarksWrittenAs numbers (skillMarks skill) hit.marks) :
    ∃ said,
      (plain skill.name).WrittenAs numbers said.toList ∧
        Form.requestedCheck.read hit = .ok (skillReading said numbers) := by
  have marksName : (skillMarks skill).lookup .name = some (plain skill.name) := rfl
  have marksNumber : (skillMarks skill).lookup .difficulty = some [.numeral 0] := rfl
  obtain ⟨said, isSaid, written⟩ := isMarked.exists_mark? marksName
  obtain ⟨digits, areDigits, isNumeral⟩ := isMarked.exists_mark? marksNumber
  have unmarked (label : Label) (other : (skillMarks skill).lookup label = none) :
      hit.mark? label = none := isMarked.mark?_eq_none other
  refine ⟨said, written, ?_⟩
  change readMarked hit = _
  rw [readMarked, isSaid, areDigits, unmarked .trailingDifficulty rfl, unmarked .armorClass rfl,
    unmarked .ability rfl, unmarked .skill rfl, unmarked .damage rfl, unmarked .mode rfl,
    Option.some_or, number?_of_written short isNumeral]
  rfl

/-- A name counts as a skill because it is none of an ability. -/
theorem skillName?_skillReading
    {said : String} (isRun : ∀ index, IsRun (numbers index))
    (isName : (plain skill.name).WrittenAs numbers said.toList) :
    (skillReading said numbers).skillName? .skill = some skill.name := by
  have noAbility := Ability.ofName?_eq_none_of_said isRun isName
  have spelled := Skill.normalForm_of_said isRun isName
  have isSkill := Skill.ofName?_of_normalForm spelled
  simp [skillReading, Reading.skillName?, noAbility, isSkill, spelled]

theorem ability?_skillReading
    {said : String} (isRun : ∀ index, IsRun (numbers index))
    (isName : (plain skill.name).WrittenAs numbers said.toList) :
    (skillReading said numbers).ability? .skill = some skill.ability := by
  have noAbility := Ability.ofName?_eq_none_of_said isRun isName
  rw [Reading.ability?, skillName?_skillReading isRun isName]
  simp [skillReading, noAbility, Skill.ofName?_name]

theorem suggestion?_skillReading
    {hit : Hit Label} {said : String} (isRun : ∀ index, IsRun (numbers index))
    (span : hit.span = ⟨0, text.length⟩) (shown : hit.text = text.toList)
    (isName : (plain skill.name).WrittenAs numbers said.toList) :
    Form.requestedCheck.suggestion? hit (skillReading said numbers) =
      some ((skillCheck skill).suggestion numbers text) := by
  have isCheck : Form.requestedCheck.kind = .skill := rfl
  rw [Form.suggestion?, isCheck, ability?_skillReading isRun isName,
    skillName?_skillReading isRun isName, span, shown, String.ofList_toList]
  rfl

theorem suggestions_skillOutline
    (isRun : ∀ index, IsRun (numbers index)) (short : (numbers 0).length ≤ digitLimit)
    (written : (skillOutline skill).WrittenAs numbers text.toList) :
    suggestions text = .ok [(skillCheck skill).suggestion numbers text] := by
  obtain ⟨others, sketched⟩ :=
    List.head?_eq_some_iff.1 (head?_sketch_skillOutline skill skill.mem_all)
  have nonempty : skillOutline skill ≠ [] := by simp [skillOutline]
  have fit : NumbersFit text.toList :=
    Wording.numbersFit_of_written isRun short (numbersFit_skillOutline skill skill.mem_all) written
  have forms : Form.all = Form.all.take 2 ++ Form.requestedCheck :: Form.all.drop 3 := rfl
  obtain ⟨hit, span, shown, isMarked, found⟩ :=
    exists_hit_of_sketch isRun written nonempty fit forms
      (sketch_skillOutline_eq_nil skill skill.mem_all) sketched
  obtain ⟨said, isName, read⟩ := exists_read_eq short isMarked
  exact found _ _ read (suggestion?_skillReading isRun span shown isName)

end

/-! ## Suggestions -/

theorem suggestions_usual
    (wording : Wording) {numbers : Nat → List Char} {text : String}
    (isRun : ∀ index, IsRun (numbers index)) (short : (numbers 0).length ≤ digitLimit)
    (written : wording.outline.WrittenAs numbers text.toList) :
    suggestions text = .ok [wording.suggestion numbers text] := by
  obtain ⟨taken, marks, others, sketched, marked⟩ := wording.exists_sketch
  have fit : NumbersFit text.toList :=
    Wording.numbersFit_of_written isRun short wording.numbersFit_outline written
  obtain ⟨hit, span, shown, isWritten, found⟩ :=
    exists_hit_of_sketch isRun written wording.outline_ne_nil fit wording.forms_split
      wording.sketch_eq_nil sketched
  have isMarked : wording.MarkedBy numbers hit := by
    intro label listed
    rw [← marked label listed]
    exact isWritten.rel_lookup label
  exact found _ _ (isMarked.read_eq isRun short text) (isMarked.suggestion?_eq isRun span shown)

/-- A text in one of these wordings makes just the suggestion that the wording says. -/
theorem suggestions_eq
    (wording : CheckWording) {numbers : Nat → List Char} {text : String}
    (isRun : ∀ index, IsRun (numbers index)) (short : (numbers 0).length ≤ digitLimit)
    (written : wording.outline.WrittenAs numbers text.toList) :
    suggestions text = .ok [wording.suggestion numbers text] := by
  cases wording with
  | abilityCheck inShort ability =>
      exact suggestions_usual (.requestedCheck inShort ability) isRun short written
  | skillCheck skill => exact suggestions_skillOutline isRun short written
  | abilitySkillCheck inShort ability skill =>
      exact suggestions_usual (.abilitySkillCheck inShort ability skill) isRun short written
  | save inShort ability =>
      exact suggestions_usual (.requestedSave inShort ability) isRun short written

end CheckWording

end Prompt

end Tabletop
