import Tabletop.Proofs.Names
import Tabletop.Proofs.Pattern.Passing
import Tabletop.Prompt

/-!
# Checks and saving throws with two difficulties

A check or a saving throw may be given a difficulty in front of it and another one behind it. One
form is sure to match it with the difficulty in front and another one with the difficulty behind,
and no form matches elsewhere outside of it. That this is so is read off the sketches of the forms.
-/

namespace Tabletop.Prompt

open Numeral Pattern

/-- A check or a saving throw. Its ability may be named in short. -/
inductive Task where
  /-- "Wisdom check" -/
  | check (short : Bool) (ability : Ability)
  /-- "Wisdom (Perception) check" -/
  | skillCheck (short : Bool) (ability : Ability) (skill : Skill)
  /-- "Wisdom saving throw" -/
  | save (short : Bool) (ability : Ability)
deriving DecidableEq, Repr

namespace Task

/-! ## Outlines -/

/-- A difficulty in front, which is the first number. -/
def lead : Outline :=
  plain "dc " ++ [.numeral 0] ++ [.gap]

/-- A difficulty behind, which is the second number. -/
def trail : Outline :=
  plain " (dc " ++ [.numeral 1] ++ plain ")"

/-- What stands between the difficulties. -/
def core : Task → Outline
  | .check short ability => plain (ability.word short) ++ plain " check"
  | .skillCheck short ability skill =>
      plain (ability.word short) ++ plain " (" ++ plain skill.name ++ plain ") check"
  | .save short ability => plain (ability.word short) ++ plain " saving throw"

/-- The outline of a task with both difficulties. -/
def outline (task : Task) : Outline :=
  lead ++ (task.core ++ trail)

/-- A request. -/
def request : Outline :=
  plain "make a "

/-! ## Suggestions -/

def kind : Task → SuggestionKind
  | .check _ _ | .skillCheck _ _ _ => .skill
  | .save _ _ => .save

def ability : Task → Ability
  | .check _ ability | .skillCheck _ ability _ | .save _ ability => ability

def skill? : Task → Option Skill
  | .skillCheck _ _ skill => some skill
  | .check _ _ | .save _ _ => none

/-- What a form suggests of a task with a difficulty. -/
def suggestion
    (task : Task) (form : Form) (difficulty : List Char) (span : Span) (text : List Char) :
    Suggestion where
  kind := task.kind
  ability := some task.ability.name
  skill := task.skill?.map Skill.name
  difficulty := some (value difficulty)
  span := span
  description := String.ofList text
  form := form.name

/-- The form by which a task is recognised with the difficulty in front. -/
def leadingForm : Task → Form
  | .check _ _ => Form.difficultyCheck
  | .skillCheck _ _ _ => Form.difficultyAbilitySkillCheck
  | .save _ _ => Form.difficultySave

/-- The form by which a task is recognised with the difficulty behind. -/
def trailingForm : Task → Form
  | .check _ _ => Form.abilityOnlyCheck
  | .skillCheck _ _ _ => Form.abilitySkillCheck
  | .save _ _ => Form.abilitySave

/-- The number of forms that go before the one for the difficulty in front. -/
def leadingRank : Task → Nat
  | .check _ _ => 3
  | .skillCheck _ _ _ => 0
  | .save _ _ => 8

/-- The number of forms that go before the one for the difficulty behind. -/
def trailingRank : Task → Nat
  | .check _ _ => 4
  | .skillCheck _ _ _ => 1
  | .save _ _ => 9

/-- All forms but the one that so many go before. -/
def otherForms (rank : Nat) : List Form :=
  Form.all.take rank ++ Form.all.drop (rank + 1)

theorem eq_or_mem_otherForms
    {rank : Nat} {form other : Form}
    (split : Form.all = Form.all.take rank ++ form :: Form.all.drop (rank + 1))
    (listed : other ∈ Form.all) : other = form ∨ other ∈ otherForms rank := by
  rw [split, List.mem_append, List.mem_cons] at listed
  rw [otherForms, List.mem_append]
  tauto

theorem leadingForm_split (task : Task) :
    Form.all = Form.all.take task.leadingRank ++
      task.leadingForm :: Form.all.drop (task.leadingRank + 1) := by
  cases task <;> rfl

theorem trailingForm_split (task : Task) :
    Form.all = Form.all.take task.trailingRank ++
      task.trailingForm :: Form.all.drop (task.trailingRank + 1) := by
  cases task <;> rfl

theorem leadingForm_listed (task : Task) : task.leadingForm ∈ Form.all := by
  rw [leadingForm_split task]
  exact List.mem_append_right _ List.mem_cons_self

theorem trailingForm_listed (task : Task) : task.trailingForm ∈ Form.all := by
  rw [trailingForm_split task]
  exact List.mem_append_right _ List.mem_cons_self

theorem trailingForm_ne_leadingForm (task : Task) : task.trailingForm ≠ task.leadingForm := by
  intro same
  have names : task.trailingForm.name = task.leadingForm.name := congrArg Form.name same
  cases task <;>
    simp [trailingForm, leadingForm, Form.abilityOnlyCheck, Form.difficultyCheck,
      Form.abilitySkillCheck, Form.difficultyAbilitySkillCheck, Form.abilitySave,
      Form.difficultySave] at names

/-! ## Recognition -/

/-- What a form marks of a task besides the difficulty. -/
def marked? : Task → Label → Option Outline
  | .check short ability, .name
  | .save short ability, .name
  | .skillCheck short ability _, .ability => some (plain (ability.word short))
  | .skillCheck _ _ skill, .skill => some (plain skill.name)
  | _, _ => none

/-- Whether marks are those of a task with a number as its difficulty. -/
def marksFit (task : Task) (index : Nat) (marks : List (Label × Outline)) : Bool :=
  (marks.lookup .difficulty).or (marks.lookup .trailingDifficulty) == some [.numeral index] &&
    [Label.name, .ability, .skill, .armorClass, .damage, .mode].all fun label =>
      marks.lookup label == task.marked? label

/-- At the front only the form for the difficulty in front matches, which takes all but what comes
behind the task. -/
def leads (task : Task) : Bool :=
  ((otherForms task.leadingRank).all fun form => form.pattern.misses none task.outline) &&
    match task.leadingForm.pattern.sketch none task.outline with
    | .sure taken rest marks :: _ =>
        taken == lead ++ task.core && rest == trail && task.marksFit 0 marks
    | _ => false

/-- Behind the difficulty in front only the form for the one behind matches, which takes all that is
left. -/
def trails (task : Task) : Bool :=
  ((otherForms task.trailingRank).all fun form =>
      form.pattern.misses (some .gap) (task.core ++ trail)) &&
    match task.trailingForm.pattern.sketch (some .gap) (task.core ++ trail) with
    | .sure _ [] marks :: _ => task.marksFit 1 marks
    | _ => false

/-- The tasks of an ability. -/
def ofAbility (ability : Ability) : List Task :=
  [true, false].flatMap fun short =>
    [.check short ability, .save short ability] ++ Skill.all.map (.skillCheck short ability)

theorem mem_ofAbility (task : Task) : task ∈ ofAbility task.ability := by
  cases task with
  | check short ability => cases short <;> simp [ofAbility, Task.ability]
  | save short ability => cases short <;> simp [ofAbility, Task.ability]
  | skillCheck short ability skill =>
      cases short <;> simp [ofAbility, Task.ability, Skill.mem_all]

theorem leads_of_ability (ability : Ability) : (ofAbility ability).all leads = true := by
  cases ability <;> decide +kernel

theorem trails_of_ability (ability : Ability) : (ofAbility ability).all trails = true := by
  cases ability <;> decide +kernel

theorem leads_eq_true (task : Task) : task.leads = true :=
  List.all_eq_true.1 (leads_of_ability task.ability) task task.mem_ofAbility

theorem trails_eq_true (task : Task) : task.trails = true :=
  List.all_eq_true.1 (trails_of_ability task.ability) task task.mem_ofAbility

theorem misses_outline
    (task : Task) {form : Form} (listed : form ∈ otherForms task.leadingRank) :
    form.pattern.misses none task.outline = true := by
  have known := (Bool.and_eq_true_iff.1 task.leads_eq_true).1
  exact List.all_eq_true.1 known form listed

theorem misses_core
    (task : Task) {form : Form} (listed : form ∈ otherForms task.trailingRank) :
    form.pattern.misses (some .gap) (task.core ++ trail) = true := by
  have known := (Bool.and_eq_true_iff.1 task.trails_eq_true).1
  exact List.all_eq_true.1 known form listed

theorem exists_leading_sketch (task : Task) :
    ∃ marks others,
      task.leadingForm.pattern.sketch none task.outline =
          .sure (lead ++ task.core) trail marks :: others ∧
        task.marksFit 0 marks = true := by
  have known := (Bool.and_eq_true_iff.1 task.leads_eq_true).2
  split at known
  · rename_i taken rest marks others sketched
    simp only [Bool.and_eq_true, beq_iff_eq] at known
    obtain ⟨⟨rfl, rfl⟩, fits⟩ := known
    exact ⟨marks, others, sketched, fits⟩
  · cases known

theorem exists_trailing_sketch (task : Task) :
    ∃ taken marks others,
      task.trailingForm.pattern.sketch (some .gap) (task.core ++ trail) =
          .sure taken [] marks :: others ∧
        task.marksFit 1 marks = true := by
  have known := (Bool.and_eq_true_iff.1 task.trails_eq_true).2
  split at known
  · rename_i taken marks others sketched
    exact ⟨taken, marks, others, sketched, known⟩
  · cases known

/-! ## The parts -/

/-- No form matches inside the difficulty in front, whatever follows. -/
theorem passes_lead (rest : Outline) :
    (Form.all.all fun form => form.pattern.passes lead.head? lead.tail rest) = true := by
  rfl

/-- The letter in which a task ends. -/
def ending : Task → Char
  | .check _ _ | .skillCheck _ _ _ => 'k'
  | .save _ _ => 'w'

theorem isLower_ending (task : Task) : task.ending.isLower = true := by
  cases task <;> rfl

theorem getLast?_core (task : Task) : task.core.getLast? = some (.letter task.ending) := by
  cases task <;> simp only [core, List.getLast?_append] <;> rfl

theorem passes_trail_of_endings :
    (['k', 'w'].all fun c =>
      Form.all.all fun form => form.pattern.passes (some (.letter c)) trail []) = true := by
  decide +kernel

/-- No form matches in the difficulty behind. -/
theorem passes_trail (task : Task) :
    (Form.all.all fun form =>
      form.pattern.passes (some (.letter task.ending)) trail []) = true := by
  apply List.all_eq_true.1 passes_trail_of_endings
  cases task <;> simp [ending]

theorem numbersApart_outline (task : Task) : numbersApart task.outline = true := by
  have words (short : Bool) (ability : Ability) (rest : Outline) :
      numbersApart (plain (ability.word short) ++ rest) = numbersApart rest :=
    numbersApart_plain_append fun c member => Or.inr (ability.isLower_word short c member)
  have names (skill : Skill) (rest : Outline) :
      numbersApart (plain skill.name ++ rest) = numbersApart rest :=
    numbersApart_plain_append skill.small_name
  have inFront (rest : Outline) : numbersApart (lead ++ rest) = numbersApart rest := rfl
  rw [outline, inFront]
  cases task with
  | check short ability | save short ability =>
      rw [core, List.append_assoc, words]
      rfl
  | skillCheck short ability skill =>
      have bracket (rest : Outline) : numbersApart (plain " (" ++ rest) = numbersApart rest := rfl
      rw [core, List.append_assoc, List.append_assoc, List.append_assoc, words, bracket, names]
      rfl

end Task

end Tabletop.Prompt
