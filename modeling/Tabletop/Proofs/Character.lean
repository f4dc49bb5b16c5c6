import Tabletop.Character
import Tabletop.Proofs.Names
import Tabletop.Proofs.Text.Lower

/-!
# Characters as they are read

Each part of a character is read from an entry of its own. Names are read into a set in which each
has its one spelling. The one spelling of a saving throw stays as it is when it is read once more,
so a character never has a saving throw under any other name than the full name of its ability.
-/

namespace Tabletop

open Text

/-! ## Readings of several parts -/

namespace Checked

variable {α β : Type}

theorem seq_eq_sound
    {functions : Checked (α → β)} {reading : Checked α} {value : β}
    (read : functions <*> reading = .sound value) :
    ∃ f part, functions = .sound f ∧ reading = .sound part ∧ f part = value := by
  cases functions with
  | stopped fault => cases read
  | flawed flaws => cases reading <;> cases read
  | sound f =>
      cases reading with
      | stopped fault => cases read
      | flawed flaws => cases read
      | sound part =>
          cases read
          exact ⟨f, part, rfl, rfl, rfl⟩

theorem map_eq_sound
    {f : α → β} {reading : Checked α} {value : β} (read : f <$> reading = .sound value) :
    ∃ part, reading = .sound part ∧ f part = value := by
  cases reading with
  | sound part =>
      cases read
      exact ⟨part, rfl, rfl⟩
  | flawed flaws => cases read
  | stopped fault => cases read

theorem within_eq_sound
    {step : Step} {reading : Checked α} {value : α} (read : reading.within step = .sound value) :
    reading = .sound value := by
  cases reading with
  | sound part => exact read
  | flawed flaws => cases read
  | stopped fault => cases read

theorem toExcept_eq_ok
    {reading : Checked α} {value : α} (read : reading.toExcept = .ok value) :
    reading = .sound value := by
  cases reading with
  | sound part =>
      cases read
      rfl
  | flawed flaws => cases read
  | stopped fault => cases read

end Checked

theorem Datum.fieldOr_eq_sound
    {α : Type} {source : Datum} {key : String} {fallback value : α} {read : Datum → Checked α}
    (sound : source.fieldOr key fallback read = .sound value) :
    source.get? key = none ∧ value = fallback ∨
      ∃ part, source.get? key = some part ∧ read part = .sound value := by
  rw [fieldOr] at sound
  split at sound
  · rename_i part found
    exact Or.inr ⟨part, found, Checked.within_eq_sound sound⟩
  · rename_i missing
    cases sound
    exact Or.inl ⟨missing, rfl⟩

theorem Datum.fieldOr_of_get?
    {α : Type} {source part : Datum} {key : String} {fallback value : α}
    {read : Datum → Checked α} (found : source.get? key = some part)
    (sound : read part = .sound value) :
    source.fieldOr key fallback read = .sound value := by
  rw [fieldOr, found]
  dsimp only
  rw [sound]
  rfl

/-! ## Sets of names -/

namespace NameSet

theorem mem_insertInto_iff {name other : String} {names : List String} :
    other ∈ insertInto name names ↔ other = name ∨ other ∈ names := by
  refine ⟨mem_insertInto, ?_⟩
  induction names with
  | nil => simp [insertInto]
  | cons head rest inductionHypothesis =>
      intro member
      unfold insertInto
      split
      · exact List.mem_cons.2 member
      · split
        · rw [List.mem_cons]
          rcases member with isName | listed
          · exact Or.inr (inductionHypothesis (Or.inl isName))
          · exact (List.mem_cons.1 listed).imp_right fun later => inductionHypothesis (Or.inr later)
        · rename_i notBefore notAfter
          have isHead : name = head := String.le_antisymm notAfter notBefore
          rcases member with rfl | listed
          · exact isHead ▸ List.mem_cons_self
          · exact listed

theorem toList_ofList_cons (name : String) (names : List String) :
    (ofList (name :: names)).toList = insertInto name (ofList names).toList :=
  rfl

theorem mem_ofList {names : List String} {name : String} :
    name ∈ (ofList names).toList ↔ name ∈ names := by
  induction names with
  | nil => rfl
  | cons head rest inductionHypothesis =>
      rw [toList_ofList_cons, mem_insertInto_iff, inductionHypothesis, List.mem_cons]

theorem insertInto_of_below
    {name : String} {names : List String} (below : ∀ other ∈ names, name < other) :
    insertInto name names = name :: names := by
  cases names with
  | nil => rfl
  | cons head rest => exact if_pos (below head List.mem_cons_self)

theorem toList_ofList {names : List String} (ascending : names.Pairwise (· < ·)) :
    (ofList names).toList = names := by
  induction names with
  | nil => rfl
  | cons head rest inductionHypothesis =>
      obtain ⟨below, restAscending⟩ := List.pairwise_cons.1 ascending
      rw [toList_ofList_cons, inductionHypothesis restAscending, insertInto_of_below below]

/-- A set is the set of its own names. -/
theorem ofList_toList (set : NameSet) : ofList set.toList = set := by
  obtain ⟨names, ascending⟩ := set
  rw [NameSet.mk.injEq]
  exact toList_ofList ascending

end NameSet

/-! ## Lists of names -/

namespace Character

theorem texts?_map_text (names : List String) : texts? (names.map .text) = some names := by
  induction names with
  | nil => rfl
  | cons name rest inductionHypothesis =>
      rw [List.map_cons, texts?, inductionHypothesis]
      rfl

theorem eq_map_text_of_texts?
    {items : List Datum} {names : List String} (read : texts? items = some names) :
    items = names.map .text := by
  induction items generalizing names with
  | nil =>
      cases read
      rfl
  | cons item rest inductionHypothesis =>
      cases item with
      | text name =>
          obtain ⟨others, restRead, rfl⟩ := Option.map_eq_some_iff.1 read
          rw [List.map_cons, ← inductionHypothesis restRead]
      | _ => cases read

/-- Names are read from a list of texts, each in its one spelling. -/
theorem readNames_eq_sound
    {form : String → String} {given : Datum} {set : NameSet}
    (read : readNames form given = .sound set) :
    ∃ names : List String,
      given = .list (names.map .text) ∧ set = NameSet.ofList (names.map form) := by
  unfold readNames at read
  split at read
  · split at read
    · rename_i names known
      cases read
      exact ⟨names, congrArg Datum.list (eq_map_text_of_texts? known), rfl⟩
    · cases read
  · cases read

/-- A set of names that have their one spelling is read as it was written. -/
theorem readNames_ofNames
    {form : String → String} {set : NameSet} (spelled : ∀ name ∈ set.toList, form name = name) :
    readNames form (.ofNames set) = .sound set := by
  have sameNames : set.toList.map form = set.toList :=
    (List.map_congr_left spelled).trans (List.map_id' set.toList)
  rw [Datum.ofNames, readNames, texts?_map_text]
  dsimp only
  rw [sameNames, NameSet.ofList_toList]

/-- What was read has its one spelling, if that stays as it is. -/
theorem spelled_of_readNames
    {form : String → String} (stays : ∀ name, form (form name) = form name) {given : Datum}
    {set : NameSet} (read : readNames form given = .sound set) :
    ∀ name ∈ set.toList, form name = name := by
  intro name member
  obtain ⟨names, -, rfl⟩ := readNames_eq_sound read
  obtain ⟨written, -, rfl⟩ := List.mem_map.1 (NameSet.mem_ofList.1 member)
  exact stays written

theorem spelled_of_fieldOr
    {form : String → String} (stays : ∀ name, form (form name) = form name) {source : Datum}
    {key : String} {set : NameSet}
    (read : source.fieldOr key .empty (readNames form) = .sound set) :
    ∀ name ∈ set.toList, form name = name := by
  rcases Datum.fieldOr_eq_sound read with ⟨-, rfl⟩ | ⟨part, -, partRead⟩
  · intro name member
    cases member
  · exact spelled_of_readNames stays partRead

end Character

/-! ## Parts of a character -/

/-- A character was read from a value: each of its parts from an entry of its own, or left open. -/
structure Character.ReadFrom (source : Datum) (character : Character) : Prop where
  scores : source.fieldOr "stats" {} (Scores.ofDatum ∘ withoutNulls) = .sound character.scores
  level : source.fieldOr "level" Level.first Level.ofDatum = .sound character.level
  proficiencyBonus :
    source.fieldOr "proficiency_bonus" none (Datum.toOption Datum.toInt) =
      .sound character.proficiencyBonus
  skills :
    source.fieldOr "skill_proficiencies" .empty (readNames Skill.normalForm) =
      .sound character.skills
  saves :
    source.fieldOr "saving_throw_proficiencies" .empty (readNames saveForm) =
      .sound character.saves
  equippedWeapon :
    source.fieldOr "equipped_weapon" none (Datum.toOption Datum.toText) =
      .sound character.equippedWeapon

namespace Character

theorem ofDatum_table_eq_sound_iff
    {entries : List (String × Datum)} {character : Character} :
    ofDatum (.table entries) = .sound character ↔ character.ReadFrom (.table entries) := by
  unfold ofDatum Datum.fields
  dsimp only
  constructor
  · intro sound
    obtain ⟨armed, weapon, upToSaves, weaponRead, rfl⟩ := Checked.seq_eq_sound sound
    obtain ⟨saving, saves, upToSkills, savesRead, rfl⟩ := Checked.seq_eq_sound upToSaves
    obtain ⟨skilled, skills, upToBonus, skillsRead, rfl⟩ := Checked.seq_eq_sound upToSkills
    obtain ⟨proficient, bonus, upToLevel, bonusRead, rfl⟩ := Checked.seq_eq_sound upToBonus
    obtain ⟨levelled, level, onlyScores, levelRead, rfl⟩ := Checked.seq_eq_sound upToLevel
    obtain ⟨scores, scoresRead, rfl⟩ := Checked.map_eq_sound onlyScores
    exact ⟨scoresRead, levelRead, bonusRead, skillsRead, savesRead, weaponRead⟩
  · intro parts
    rw [parts.scores, parts.level, parts.proficiencyBonus, parts.skills, parts.saves,
      parts.equippedWeapon]
    rfl

/-- Nothing is read as a table without entries would be. -/
theorem readFrom_of_coerce
    {given : Datum} {character : Character} (read : coerce given = .ok character) :
    character.ReadFrom given := by
  unfold coerce at read
  split at read
  · cases read
    exact ⟨rfl, rfl, rfl, rfl, rfl, rfl⟩
  · have sound := Checked.toExcept_eq_ok read
    cases given with
    | table entries => exact ofDatum_table_eq_sound_iff.1 sound
    | _ => cases sound

end Character

/-! ## One spelling -/

theorem Ability.ofName?_lower (text : String) : ofName? (lower text) = ofName? text := by
  have key :
      lower (String.ofList (trim (lower text).toList)) =
        lower (String.ofList (trim text.toList)) := by
    rw [trim_lower, String.ofList_toList, lower_lower]
  rw [ofName?, ofName?, key]

namespace Character

/-- The one spelling of a saving throw stands for what it was read from. -/
theorem ofName?_saveForm (name : String) :
    Ability.ofName? (saveForm name) = Ability.ofName? name := by
  rw [saveForm]
  cases known : Ability.ofName? name with
  | some ability => exact ability.ofName?_word false
  | none => exact (Ability.ofName?_lower name).trans known

theorem saveForm_saveForm (name : String) : saveForm (saveForm name) = saveForm name := by
  rw [saveForm, ofName?_saveForm]
  cases known : Ability.ofName? name with
  | some ability => rw [saveForm, known]
  | none =>
      rw [saveForm, known]
      exact lower_lower name

/-- The saving throws of a character that was read have their one spelling. -/
theorem saveForm_of_mem_saves
    {given : Datum} {character : Character} (read : coerce given = .ok character) :
    ∀ name ∈ character.saves.toList, saveForm name = name :=
  spelled_of_fieldOr saveForm_saveForm (readFrom_of_coerce read).saves

/-- Only the full name of an ability finds the proficiency in its saving throw. -/
theorem isProficientInSave_eq
    {given : Datum} {character : Character} (read : coerce given = .ok character)
    {ability : Ability} {name : String} (known : Ability.ofName? name = some ability) :
    character.isProficientInSave name =
      (name == ability.name && character.isProficientInSave ability.name) := by
  by_cases isFull : name = ability.name
  · rw [isFull, beq_self_eq_true, Bool.true_and]
  · have notFull : (name == ability.name) = false := beq_eq_false_iff_ne.2 isFull
    rw [notFull, Bool.false_and, isProficientInSave, NameSet.contains]
    apply Bool.eq_false_iff.2
    intro listed
    apply isFull
    have spelled := saveForm_of_mem_saves read name (List.contains_iff_mem.1 listed)
    rw [saveForm, known] at spelled
    exact spelled.symm

end Character

end Tabletop
