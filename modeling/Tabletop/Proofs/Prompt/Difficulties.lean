import Tabletop.Proofs.Prompt.Rivals
import Tabletop.Proofs.Prompt.Task

/-!
# Which of two difficulties is reported

A task with a difficulty in front of it and another one behind makes the prompts of two forms that
share the task itself. They are rivals, so the one that takes more room is all that is reported.
-/

namespace Tabletop.Prompt

open Numeral Pattern

namespace Task

section

variable {task : Task} {numbers : Nat → List Char} {hit : Hit Label}
  {marks : List (Label × Outline)} {index : Nat}

/-! ## Reading -/

theorem marksFit_iff :
    task.marksFit index marks = true ↔
      (marks.lookup .difficulty).or (marks.lookup .trailingDifficulty) = some [.numeral index] ∧
        ∀ label ∈ [Label.name, .ability, .skill, .armorClass, .damage, .mode],
          marks.lookup label = task.marked? label := by
  simp only [marksFit, Bool.and_eq_true, beq_iff_eq, List.all_eq_true]

/-- The difficulty of a hit, wherever it is marked. -/
theorem difficulty_eq
    (short : (numbers index).length ≤ digitLimit)
    (isMarked : MarksWrittenAs numbers marks hit.marks) (fits : task.marksFit index marks = true) :
    number? ((hit.mark? .difficulty).or (hit.mark? .trailingDifficulty)) =
      .ok (some (value (numbers index) : Int)) := by
  have related :=
    rel_or (isMarked.rel_mark? Label.difficulty) (isMarked.rel_mark? Label.trailingDifficulty)
  rw [(marksFit_iff.1 fits).1] at related
  generalize (hit.mark? .difficulty).or (hit.mark? .trailingDifficulty) = found at related ⊢
  cases related with
  | some written =>
      rw [number?, Outline.writtenAs_numeral_iff.1 written, readNat_eq_ok short]
      rfl

theorem mark?_eq_none
    (isMarked : MarksWrittenAs numbers marks hit.marks) (fits : task.marksFit index marks = true)
    (label : Label)
    (listed : label ∈ [Label.name, .ability, .skill, .armorClass, .damage, .mode])
    (unmarked : task.marked? label = none) : hit.mark? label = none :=
  isMarked.mark?_eq_none (((marksFit_iff.1 fits).2 label listed).trans unmarked)

theorem exists_mark?
    (isMarked : MarksWrittenAs numbers marks hit.marks) (fits : task.marksFit index marks = true)
    (label : Label) {outline : Outline}
    (listed : label ∈ [Label.name, .ability, .skill, .armorClass, .damage, .mode])
    (marked : task.marked? label = some outline) :
    ∃ said, hit.mark? label = some said ∧ outline.WrittenAs numbers said.toList :=
  isMarked.exists_mark? (((marksFit_iff.1 fits).2 label listed).trans marked)

/-- What a form reads of a task. -/
def reading (hit : Hit Label) (difficulty : List Char) : Reading where
  name := hit.mark? .name
  ability := hit.mark? .ability
  skill := hit.mark? .skill
  difficulty := some (value difficulty)

theorem readMarked_eq
    (short : (numbers index).length ≤ digitLimit)
    (isMarked : MarksWrittenAs numbers marks hit.marks) (fits : task.marksFit index marks = true) :
    readMarked hit = .ok (reading hit (numbers index)) := by
  have unmarked (label : Label) := mark?_eq_none isMarked fits label
  have noArmorClass : hit.mark? .armorClass = none :=
    unmarked .armorClass (by decide) (by cases task <;> rfl)
  have noDamage : hit.mark? .damage = none := unmarked .damage (by decide) (by cases task <;> rfl)
  have noMode : hit.mark? .mode = none := unmarked .mode (by decide) (by cases task <;> rfl)
  rw [readMarked, difficulty_eq short isMarked fits, noArmorClass, noDamage, noMode]
  rfl

theorem skillName?_eq
    (isRun : ∀ index, IsRun (numbers index))
    (isMarked : MarksWrittenAs numbers marks hit.marks) (fits : task.marksFit index marks = true)
    (difficulty : List Char) (kind : SuggestionKind) :
    (reading hit difficulty).skillName? kind = task.skill?.map Skill.name := by
  have unmarked (label : Label) := mark?_eq_none isMarked fits label
  cases task with
  | check short ability
  | save short ability =>
      obtain ⟨said, isSaid, written⟩ := exists_mark? isMarked fits .name (by decide) rfl
      have named := Ability.ofName?_of_said written
      rw [Reading.skillName?, reading, isSaid, unmarked .skill (by decide) rfl]
      simp [named, skill?]
  | skillCheck short ability skill =>
      obtain ⟨said, isSaid, written⟩ := exists_mark? isMarked fits .skill (by decide) rfl
      have spelled := Skill.normalForm_of_said isRun written
      rw [Reading.skillName?, reading, isSaid, unmarked .name (by decide) rfl, Option.map_some,
        spelled]
      rfl

theorem ability?_eq
    (isMarked : MarksWrittenAs numbers marks hit.marks) (fits : task.marksFit index marks = true)
    (difficulty : List Char) (kind : SuggestionKind) :
    (reading hit difficulty).ability? kind = some task.ability := by
  cases task with
  | check short ability
  | save short ability =>
      obtain ⟨said, isSaid, written⟩ := exists_mark? isMarked fits .name (by decide) rfl
      have named := Ability.ofName?_of_said written
      simp only [Reading.ability?, reading, isSaid, Option.bind_some, named, Option.some_or]
      rfl
  | skillCheck short ability skill =>
      obtain ⟨said, isSaid, written⟩ := exists_mark? isMarked fits .ability (by decide) rfl
      have unnamed := mark?_eq_none isMarked fits .name (by decide) rfl
      have named := Ability.ofName?_of_said written
      simp only [Reading.ability?, reading, isSaid, unnamed, Option.bind_some, named]
      rfl

/-- A form of the kind of a task suggests it of a hit that marks it. -/
theorem makes
    {form : Form} (isRun : ∀ index, IsRun (numbers index))
    (short : (numbers index).length ≤ digitLimit)
    (isMarked : MarksWrittenAs numbers marks hit.marks) (fits : task.marksFit index marks = true)
    (unbracketed : form.bracketed = false) (sameKind : form.kind = task.kind) :
    form.Makes hit (task.suggestion form (numbers index) hit.span hit.text) := by
  refine ⟨reading hit (numbers index), ?_, ?_⟩
  · rw [Form.read, unbracketed]
    exact readMarked_eq short isMarked fits
  · have noAttack : task.kind ≠ .attack := by
      cases task <;> simp [kind]
    rw [Form.suggestion?, ability?_eq isMarked fits, skillName?_eq isRun isMarked fits, sameKind,
      if_neg noAttack]
    rfl

end

/-! ## Written tasks -/

/-- A task with both difficulties as it may be written, with the three parts of the text and its
numbers. -/
structure Written (task : Task) where
  numbers : Nat → List Char
  lead : List Char
  core : List Char
  trail : List Char
  isRun : ∀ index, IsRun (numbers index)
  short : ∀ index, (numbers index).length ≤ digitLimit
  isLead : Task.lead.WrittenAs numbers lead
  isCore : task.core.WrittenAs numbers core
  isTrail : Task.trail.WrittenAs numbers trail

namespace Written

variable {task : Task} (written : task.Written)

/-- The whole text. -/
def text : List Char :=
  written.lead ++ (written.core ++ written.trail)

/-- What the difficulty in front makes of the task. -/
def leading : Suggestion :=
  task.suggestion task.leadingForm (written.numbers 0)
    ⟨0, (written.lead ++ written.core).length⟩ (written.lead ++ written.core)

/-- What the difficulty behind makes of the task. -/
def trailing : Suggestion :=
  task.suggestion task.trailingForm (written.numbers 1)
    ⟨written.lead.length, (written.core ++ written.trail).length⟩ (written.core ++ written.trail)

theorem isRest :
    Outline.WrittenAs written.numbers (task.core ++ Task.trail) (written.core ++ written.trail) :=
  written.isCore.append written.isTrail

theorem isOutline : task.outline.WrittenAs written.numbers written.text :=
  written.isLead.append written.isRest

theorem numbersFit : NumbersFit written.text :=
  numbersFit_of_apart written.isRun written.short task.numbersApart_outline written.isOutline

/-! ## Places -/

theorem standing : Standing written.numbers none task.outline (Cursor.front written.text) :=
  ⟨Option.Rel.none, written.isOutline⟩

/-- What is known behind the difficulty in front. -/
theorem standing_behind_lead :
    Standing written.numbers (some .gap) (task.core ++ Task.trail)
      ((Cursor.front written.text).past written.lead (written.core ++ written.trail)) :=
  written.standing.past written.isRun written.isLead written.isRest

/-- What is known in front of the difficulty behind. -/
theorem standing_behind_core :
    Standing written.numbers (some (.letter task.ending)) Task.trail
      ((Cursor.front written.text).past (written.lead ++ written.core) written.trail) := by
  have stands :=
    written.standing_behind_lead.past written.isRun written.isCore written.isTrail
  rw [getLast?_core, Cursor.past_past] at stands
  exact stands

/-! ## Hits -/

/-- The form for the difficulty in front matches all but the difficulty behind. -/
theorem exists_leading_hit :
    ∃ hit, task.leadingForm.pattern.hitAt? (Cursor.front written.text) = some hit ∧
      hit.span = ⟨0, (written.lead ++ written.core).length⟩ ∧
        task.leadingForm.Makes hit written.leading := by
  obtain ⟨marks, others, sketched, fits⟩ := task.exists_leading_sketch
  have isTaken : Outline.WrittenAs written.numbers (Task.lead ++ task.core)
      (written.lead ++ written.core) :=
    written.isLead.append written.isCore
  have ends : (Task.lead ++ task.core).getLast? = some (.letter task.ending) := by
    rw [List.getLast?_append, getLast?_core, Option.some_or]
  have standing := written.standing
  rw [outline, ← List.append_assoc] at standing sketched
  obtain ⟨parts, isMarked, found⟩ :=
    exists_hitAt?_of_sure_text written.isRun standing sketched (by decide) ends
      task.isLower_ending isTaken written.isTrail (List.append_assoc _ _ _).symm
  refine ⟨_, found, rfl, ?_⟩
  exact makes written.isRun (written.short 0) isMarked fits (by cases task <;> rfl)
    (by cases task <;> rfl)

/-- The form for the difficulty behind matches all but the difficulty in front. -/
theorem exists_trailing_hit :
    ∃ hit, task.trailingForm.pattern.hitAt?
        ((Cursor.front written.text).past written.lead (written.core ++ written.trail)) =
          some hit ∧
      hit.span = ⟨written.lead.length, (written.core ++ written.trail).length⟩ ∧
        task.trailingForm.Makes hit written.trailing := by
  obtain ⟨taken, marks, others, sketched, fits⟩ := task.exists_trailing_sketch
  obtain ⟨parts, isMarked, found⟩ :=
    exists_hitAt?_of_sketch written.isRun written.standing_behind_lead sketched
  have start : (Cursor.front written.text).offset + written.lead.length = written.lead.length :=
    Nat.zero_add _
  rw [Cursor.past_offset, Cursor.past_rest, start] at found
  refine ⟨_, found, rfl, ?_⟩
  exact makes written.isRun (written.short 1) isMarked fits (by cases task <;> rfl)
    (by cases task <;> rfl)

/-! ## No other hits -/

theorem rivals :
    Rivals written.lead written.core written.trail task.leadingForm task.trailingForm := by
  constructor
  case front =>
    intro form listed
    refine (eq_or_mem_otherForms task.leadingForm_split listed).imp_right fun other => ?_
    exact hitAt?_eq_none_of_misses written.isRun written.standing (task.misses_outline other)
  case behindLead =>
    intro form listed
    refine (eq_or_mem_otherForms task.trailingForm_split listed).imp_right fun other => ?_
    exact hitAt?_eq_none_of_misses written.isRun written.standing_behind_lead
      (task.misses_core other)
  case inLead =>
    intro form listed opening closing split opened closed
    have passed := List.all_eq_true.1 (passes_lead (task.core ++ Task.trail)) form listed
    exact hitAt?_eq_none_further_on written.isRun rfl passed written.isLead written.isRest split
      opened closed
  case inTrail =>
    intro form listed opening closing split closed
    have passed := List.all_eq_true.1 task.passes_trail form listed
    have missed := hitAt?_eq_none_of_passes written.isRun written.standing_behind_core.behind passed
      written.isTrail (Outline.writtenAs_nil_iff.2 rfl)
      (by rw [Cursor.past_rest, List.append_nil]) split closed
    rw [Cursor.past_past, List.append_nil, List.append_assoc] at missed
    exact missed

/-- What is suggested: the task with the difficulty in front, or with the one behind if that takes
more room. -/
def reported : Suggestion :=
  if written.trail.length ≤ written.lead.length then written.leading else written.trailing

theorem suggestions_eq : suggestions (String.ofList written.text) = .ok [written.reported] := by
  obtain ⟨hit, found, span, makes⟩ := written.exists_leading_hit
  obtain ⟨otherHit, otherFound, otherSpan, otherMakes⟩ := written.exists_trailing_hit
  have split : (String.ofList written.text).toList =
      written.lead ++ (written.core ++ written.trail) := String.toList_ofList
  have fit : NumbersFit (String.ofList written.text).toList := by
    rw [String.toList_ofList]
    exact written.numbersFit
  have someLead : written.lead ≠ [] := written.isLead.ne_nil written.isRun (by decide)
  have someCore : written.core ≠ [] := by
    refine written.isCore.ne_nil written.isRun ?_
    intro empty
    have ends := task.getLast?_core
    rw [empty] at ends
    cases ends
  rw [List.length_append] at span otherSpan
  exact suggestions_of_rivals fit split written.rivals task.trailingForm_ne_leadingForm
    task.leadingForm_listed
    task.trailingForm_listed someLead someCore found span makes otherFound otherSpan otherMakes

end Written

/-! ## Plain spelling -/

/-- What stands between the difficulties, in small letters and with single blanks. -/
def plainCore : Task → List Char
  | .check short ability => (ability.word short).toList ++ " check".toList
  | .skillCheck short ability skill =>
      (ability.word short).toList ++ " (".toList ++ skill.name.toList ++ ") check".toList
  | .save short ability => (ability.word short).toList ++ " saving throw".toList

theorem plainCore_writes_core (task : Task) (numbers : Nat → List Char) :
    task.core.WrittenAs numbers task.plainCore := by
  cases task with
  | check short ability | save short ability =>
      exact (writtenAs_plain _).append (writtenAs_plain _)
  | skillCheck short ability skill =>
      exact (((writtenAs_plain _).append (writtenAs_plain _)).append (writtenAs_plain _)).append
        (writtenAs_plain _)

section

variable (task : Task) {first second : List Char} (firstRun : IsRun first)
  (secondRun : IsRun second) (firstShort : first.length ≤ digitLimit)
  (secondShort : second.length ≤ digitLimit)

/-- A task with two numbers as its difficulties, in small letters and with single blanks. -/
def plainly : task.Written where
  numbers index := if index = 0 then first else second
  lead := "dc ".toList ++ first ++ [' ']
  core := task.plainCore
  trail := " (dc ".toList ++ second ++ [')']
  isRun index := by
    split
    · exact firstRun
    · exact secondRun
  short index := by
    split
    · exact firstShort
    · exact secondShort
  isLead :=
    ((writtenAs_plain "dc ").append (Outline.writtenAs_numeral_iff.2 rfl)).append
      (writtenAs_plain " ")
  isCore := task.plainCore_writes_core _
  isTrail :=
    ((writtenAs_plain " (dc ").append (Outline.writtenAs_numeral_iff.2 rfl)).append
      (writtenAs_plain ")")

theorem trail_le_lead_plainly_iff :
    (task.plainly firstRun secondRun firstShort secondShort).trail.length ≤
        (task.plainly firstRun secondRun firstShort secondShort).lead.length ↔
      second.length + 2 ≤ first.length := by
  simp only [plainly, List.length_append, List.length_singleton]
  change 5 + second.length + 1 ≤ 3 + first.length + 1 ↔ _
  omega

/-- Between single blanks the number in front is reported if it has two digits more. -/
theorem difficulty_reported_plainly :
    (task.plainly firstRun secondRun firstShort secondShort).reported.difficulty =
      some (value (if second.length + 2 ≤ first.length then first else second) : Int) := by
  rw [Written.reported,
    if_congr (task.trail_le_lead_plainly_iff firstRun secondRun firstShort secondShort) rfl rfl]
  split
  · rfl
  · rfl

end

end Task

end Tabletop.Prompt
