import Tabletop.Prompt
import Tabletop.Proofs.Names
import Tabletop.Proofs.Pattern.Sketch

/-!
# Usual wordings

Seven wordings in which prompts are usually given, each with what it says. That the forms recognise
them is read off their sketches.
-/

namespace Tabletop.Prompt

open Numeral Pattern Text

/-! ## Wordings -/

/-- The ways in which an attack is made. -/
inductive AttackMode where
  | melee
  | ranged
  | spell
deriving DecidableEq, Repr

def AttackMode.name : AttackMode → String
  | .melee => "melee"
  | .ranged => "ranged"
  | .spell => "spell"

/-- A usual wording of a prompt. Abilities may be named in short. -/
inductive Wording where
  /-- "make a DC 12 Wisdom check" -/
  | requestedCheck (short : Bool) (ability : Ability)
  /-- "Wisdom (Perception) check (DC 12)" -/
  | abilitySkillCheck (short : Bool) (ability : Ability) (skill : Skill)
  /-- "DC 12 Wisdom (Perception) check" -/
  | difficultyAbilitySkillCheck (short : Bool) (ability : Ability) (skill : Skill)
  /-- "Perception check (DC 12)" -/
  | skillCheck (skill : Skill)
  /-- "make a DC 12 Wisdom saving throw" -/
  | requestedSave (short : Bool) (ability : Ability)
  /-- "Wisdom save (DC 12)" -/
  | abilitySave (short : Bool) (ability : Ability)
  /-- "make a melee attack roll against AC 15, dealing 1d8+3 damage" -/
  | requestedAttack (mode : AttackMode)
deriving DecidableEq, Repr

namespace Wording

/-- The outline of the damage: the second number of dice with the third number of sides, and the
fourth number added. -/
def damageOutline : Outline :=
  [.numeral 1] ++ plain "d" ++ [.numeral 2] ++ plain "+" ++ [.numeral 3]

/-- The outline of a wording. The first number is the difficulty or the armor class. -/
def outline : Wording → Outline
  | .requestedCheck short ability =>
      plain "make a dc " ++ [.numeral 0] ++ [.gap] ++ plain (ability.word short) ++ plain " check"
  | .abilitySkillCheck short ability skill =>
      plain (ability.word short) ++ plain " (" ++ plain skill.name ++ plain ") check (dc " ++
        [.numeral 0] ++ plain ")"
  | .difficultyAbilitySkillCheck short ability skill =>
      plain "dc " ++ [.numeral 0] ++ [.gap] ++ plain (ability.word short) ++ plain " (" ++
        plain skill.name ++ plain ") check"
  | .skillCheck skill => plain skill.name ++ plain " check (dc " ++ [.numeral 0] ++ plain ")"
  | .requestedSave short ability =>
      plain "make a dc " ++ [.numeral 0] ++ [.gap] ++ plain (ability.word short) ++
        plain " saving throw"
  | .abilitySave short ability =>
      plain (ability.word short) ++ plain " save (dc " ++ [.numeral 0] ++ plain ")"
  | .requestedAttack mode =>
      plain "make a " ++ plain mode.name ++ plain " attack roll against ac " ++ [.numeral 0] ++
        plain ", dealing " ++ damageOutline ++ plain " damage"

/-- What a text in a wording suggests, given its numbers. -/
def suggestion (wording : Wording) (numbers : Nat → List Char) (text : String) : Suggestion :=
  let number : Int := value (numbers 0)
  let span : Span := ⟨0, text.length⟩
  match wording with
  | .requestedCheck _ ability =>
      { kind := .skill, ability := some ability.name, difficulty := some number, span
        description := text, form := "requested_check" }
  | .abilitySkillCheck _ ability skill =>
      { kind := .skill, ability := some ability.name, skill := some skill.name
        difficulty := some number, span, description := text, form := "ability_skill_check" }
  | .difficultyAbilitySkillCheck _ ability skill =>
      { kind := .skill, ability := some ability.name, skill := some skill.name
        difficulty := some number, span, description := text, form := "dc_ability_skill_check" }
  | .skillCheck skill =>
      { kind := .skill, ability := some skill.ability.name, skill := some skill.name
        difficulty := some number, span, description := text, form := "skill_check" }
  | .requestedSave _ ability =>
      { kind := .save, ability := some ability.name, difficulty := some number, span
        description := text, form := "requested_save" }
  | .abilitySave _ ability =>
      { kind := .save, ability := some ability.name, difficulty := some number, span
        description := text, form := "ability_save" }
  | .requestedAttack mode =>
      { kind := .attack, armorClass := some number
        damage := some (String.ofList (numbers 1 ++ ['d'] ++ numbers 2 ++ ['+'] ++ numbers 3))
        mode := some mode.name, span, description := text, form := "requested_attack" }

theorem outline_ne_nil (wording : Wording) : wording.outline ≠ [] := by
  cases wording <;> simp [outline]

/-- The form by which a wording is recognised. -/
def form : Wording → Form
  | .requestedCheck _ _ => Form.requestedCheck
  | .abilitySkillCheck _ _ _ => Form.abilitySkillCheck
  | .difficultyAbilitySkillCheck _ _ _ => Form.difficultyAbilitySkillCheck
  | .skillCheck _ => Form.skillCheck
  | .requestedSave _ _ => Form.requestedSave
  | .abilitySave _ _ => Form.abilitySave
  | .requestedAttack _ => Form.requestedAttack

/-- The number of forms that go before. -/
def rank : Wording → Nat
  | .difficultyAbilitySkillCheck _ _ _ => 0
  | .abilitySkillCheck _ _ _ => 1
  | .requestedCheck _ _ => 2
  | .skillCheck _ => 5
  | .requestedSave _ _ => 7
  | .abilitySave _ _ => 9
  | .requestedAttack _ => 10

theorem forms_split (wording : Wording) :
    Form.all = Form.all.take wording.rank ++ wording.form :: Form.all.drop (wording.rank + 1) := by
  cases wording <;> rfl

/-- What the form of a wording marks of the outline. -/
def marked? : Wording → Label → Option Outline
  | .requestedAttack _, .armorClass => some [.numeral 0]
  | .requestedAttack _, .damage => some damageOutline
  | .requestedAttack mode, .mode => some (plain mode.name)
  | .requestedAttack _, _ => none
  | _, .difficulty => some [.numeral 0]
  | .requestedCheck short ability, .name
  | .requestedSave short ability, .name
  | .abilitySave short ability, .name
  | .abilitySkillCheck short ability _, .ability
  | .difficultyAbilitySkillCheck short ability _, .ability => some (plain (ability.word short))
  | .abilitySkillCheck _ _ skill, .skill
  | .difficultyAbilitySkillCheck _ _ skill, .skill
  | .skillCheck skill, .skill => some (plain skill.name)
  | _, _ => none

/-! ## Recognition -/

/-- Behind some white space comes no number but the first. -/
def numberAheadFits : Outline → Bool
  | [] => true
  | token :: rest =>
      if token = .gap then numberAheadFits rest
      else if token = .numeral 0 then rest.head?.all fun next => next.inSet? .digit == some false
      else token.inSet? .blank == some false && token.inSet? .digit == some false

/-- Only the first number stands behind a letter c. -/
def numbersFit : Outline → Bool
  | [] => true
  | token :: rest =>
      (token.inSet? (.like 'c') == some false || (token.inner?.isNone && numberAheadFits rest)) &&
        numbersFit rest

/-- The labels of the parts that suggestions are read from. -/
def labels : List Label :=
  [.name, .ability, .skill, .difficulty, .trailingDifficulty, .armorClass, .damage, .mode]

/-- A wording is recognised: its form is sure to match all of it and marks what it should, while the
forms that go before do not match at its beginning. Its numbers can be read if the first one can. -/
def recognised (wording : Wording) : Bool :=
  numbersFit wording.outline &&
    ((Form.all.take wording.rank).all fun form =>
      (form.pattern.sketch none wording.outline).isEmpty) &&
    match wording.form.pattern.sketch none wording.outline with
    | .sure _ [] marks :: _ =>
        labels.all fun label => marks.lookup label == wording.marked? label
    | _ => false

/-- All wordings. -/
def all : List Wording :=
  ([true, false].flatMap fun short => Ability.all.flatMap fun ability =>
    [.requestedCheck short ability, .requestedSave short ability, .abilitySave short ability] ++
      Skill.all.flatMap fun skill =>
        [.abilitySkillCheck short ability skill,
          .difficultyAbilitySkillCheck short ability skill]) ++
    Skill.all.map .skillCheck ++ [.melee, .ranged, .spell].map .requestedAttack

theorem mem_all (wording : Wording) : wording ∈ all := by
  cases wording with
  | requestedAttack mode => cases mode <;> simp [all]
  | _ => simp [all, Ability.mem_all, Skill.mem_all]

/-- The wordings are gone through ability by ability, so that no step takes much memory. -/
theorem recognised_of_ability (ability : Ability) :
    ([true, false].all fun short =>
      ([requestedCheck short ability, requestedSave short ability, abilitySave short ability] ++
        Skill.all.flatMap fun skill =>
          [abilitySkillCheck short ability skill,
            difficultyAbilitySkillCheck short ability skill]).all recognised) = true := by
  cases ability <;> decide +kernel

theorem recognised_without_ability :
    ((Skill.all.map skillCheck ++ [.melee, .ranged, .spell].map requestedAttack).all
      recognised) = true := by
  decide +kernel

theorem recognised_all : (all.all recognised) = true := by
  rw [all, List.append_assoc, List.all_append, recognised_without_ability, Bool.and_true,
    List.all_flatMap, List.all_eq_true]
  intro short listed
  rw [List.all_flatMap, List.all_eq_true]
  intro ability _
  exact List.all_eq_true.1 (recognised_of_ability ability) short listed

theorem recognised_eq_true (wording : Wording) : wording.recognised = true :=
  List.all_eq_true.1 recognised_all wording wording.mem_all

theorem numbersFit_outline (wording : Wording) : numbersFit wording.outline = true := by
  have known := wording.recognised_eq_true
  simp only [recognised, Bool.and_eq_true] at known
  exact known.1.1

theorem sketch_eq_nil (wording : Wording) :
    ∀ form ∈ Form.all.take wording.rank, form.pattern.sketch none wording.outline = [] := by
  intro form listed
  have known := wording.recognised_eq_true
  simp only [recognised, Bool.and_eq_true, List.all_eq_true, List.isEmpty_iff] at known
  exact known.1.2 form listed

theorem exists_sketch (wording : Wording) :
    ∃ taken marks others,
      wording.form.pattern.sketch none wording.outline = .sure taken [] marks :: others ∧
        ∀ label ∈ labels, marks.lookup label = wording.marked? label := by
  have known := wording.recognised_eq_true
  simp only [recognised, Bool.and_eq_true] at known
  have first := known.2
  split at first
  · rename_i taken marks others sketched
    refine ⟨taken, marks, others, sketched, ?_⟩
    intro label listed
    exact beq_iff_eq.1 (List.all_eq_true.1 first label listed)
  · cases first

end Wording

end Tabletop.Prompt
