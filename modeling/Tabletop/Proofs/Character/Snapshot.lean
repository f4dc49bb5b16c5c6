import Tabletop.Proofs.Character
import Tabletop.Proofs.Results
import Tabletop.Proofs.Skill
import Tabletop.ScoreSheet

/-!
# Characters written and read again

A character that was read can be written as a table and read again without a change. It keeps what
it was read from: a skill that was listed is found under every spelling of its name, a saving throw
that was listed under any name of its ability is found under the full name, and the score of an
ability that was left open is ten.
-/

namespace Tabletop

/-! ## Scores -/

theorem Ability.ofFullName?_name (ability : Ability) :
    ofFullName? ability.name = some ability := by
  cases ability <;> decide

namespace Scores

theorem ofDatum_table_eq_sound_iff
    {entries : List (String × Datum)} {scores : Scores} :
    ofDatum (.table entries) = .sound scores ↔
      ∀ ability : Ability,
        Datum.fieldOr (.table entries) ability.name defaultScore Datum.toInt =
          .sound (scores.get ability) := by
  unfold ofDatum Datum.fields
  dsimp only
  constructor
  · intro sound
    obtain ⟨upToWisdom, charisma, wiser, charismaRead, rfl⟩ := Checked.seq_eq_sound sound
    obtain ⟨upToIntelligence, wisdom, brighter, wisdomRead, rfl⟩ := Checked.seq_eq_sound wiser
    obtain ⟨upToConstitution, intelligence, tougher, intelligenceRead, rfl⟩ :=
      Checked.seq_eq_sound brighter
    obtain ⟨upToDexterity, constitution, nimbler, constitutionRead, rfl⟩ :=
      Checked.seq_eq_sound tougher
    obtain ⟨onlyStrength, dexterity, stronger, dexterityRead, rfl⟩ := Checked.seq_eq_sound nimbler
    obtain ⟨strength, strengthRead, rfl⟩ := Checked.map_eq_sound stronger
    intro ability
    cases ability with
    | strength => exact strengthRead
    | dexterity => exact dexterityRead
    | constitution => exact constitutionRead
    | intelligence => exact intelligenceRead
    | wisdom => exact wisdomRead
    | charisma => exact charismaRead
  · intro parts
    rw [parts .strength, parts .dexterity, parts .constitution, parts .intelligence,
      parts .wisdom, parts .charisma]
    rfl

theorem get?_toDatum (scores : Scores) (ability : Ability) :
    scores.toDatum.get? ability.name = some (.whole (scores.get ability)) := by
  cases ability <;> rfl

/-- Scores that were written are read as they are. -/
theorem ofDatum_toDatum (scores : Scores) : ofDatum scores.toDatum = .sound scores := by
  apply ofDatum_table_eq_sound_iff.2
  intro ability
  refine Datum.fieldOr_of_get? (scores.get?_toDatum ability) ?_
  rfl

/-- A score under which nothing was given is ten. -/
theorem get_of_onlyNulls
    {entries : List (String × Datum)} {scores : Scores} {ability : Ability}
    (read : ofDatum (Character.withoutNulls (.table entries)) = .sound scores)
    (onlyNulls : ∀ value, (ability.name, value) ∈ entries → value = .null) :
    scores.get ability = defaultScore := by
  have missing : (Character.withoutNulls (.table entries)).get? ability.name = none := by
    rw [Character.withoutNulls, Datum.get?, List.lookup_eq_none_iff]
    rintro ⟨key, value⟩ kept
    obtain ⟨listed, given⟩ := List.mem_filter.1 kept
    rw [bne_iff_ne]
    rintro rfl
    rw [onlyNulls value listed] at given
    cases given
  have scoreRead := ofDatum_table_eq_sound_iff.1 read ability
  rcases Datum.fieldOr_eq_sound scoreRead with ⟨-, isTen⟩ | ⟨part, found, -⟩
  · exact isTen
  · rw [Character.withoutNulls] at missing
    rw [missing] at found
    cases found

end Scores

/-! ## Other parts -/

theorem Level.ofDatum_whole (level : Level) : ofDatum (.whole level.value) = .sound level := by
  rw [ofDatum, Datum.toInt, Checked.andThen, dif_pos level.one_le, dif_pos level.le_twenty]

namespace Datum

variable {α : Type} {read : Datum → Checked α}

theorem toOption_of_ne_null {value : Datum} (notNull : value ≠ .null) :
    toOption read value = some <$> read value := by
  cases value with
  | null => exact (notNull rfl).elim
  | _ => rfl

theorem toOption_ofOption
    {write : α → Datum} (notNull : ∀ value, write value ≠ .null)
    (readsBack : ∀ value, read (write value) = .sound value) (value : Option α) :
    toOption read (ofOption write value) = .sound value := by
  cases value with
  | none => rfl
  | some value =>
      rw [ofOption, toOption_of_ne_null (notNull value), readsBack]
      rfl

end Datum

namespace Character

/-- The parts of a character that was read are read from the character's own table. -/
theorem ReadFrom.toDatum
    {source : Datum} {character : Character} (read : character.ReadFrom source) :
    character.ReadFrom character.toDatum := by
  have skillsSpelled := spelled_of_fieldOr Skill.normalForm_normalForm read.skills
  have savesSpelled := spelled_of_fieldOr saveForm_saveForm read.saves
  have bonusRead :
      Datum.toOption Datum.toInt (.ofOption .whole character.proficiencyBonus) =
        .sound character.proficiencyBonus := by
    apply Datum.toOption_ofOption
    case notNull =>
      intro value isNull
      cases isNull
    case readsBack =>
      intro value
      rfl
  have weaponRead :
      Datum.toOption Datum.toText (.ofOption .text character.equippedWeapon) =
        .sound character.equippedWeapon := by
    apply Datum.toOption_ofOption
    case notNull =>
      intro value isNull
      cases isNull
    case readsBack =>
      intro value
      rfl
  constructor
  case scores => exact Datum.fieldOr_of_get? rfl character.scores.ofDatum_toDatum
  case level => exact Datum.fieldOr_of_get? rfl character.level.ofDatum_whole
  case proficiencyBonus => exact Datum.fieldOr_of_get? rfl bonusRead
  case skills => exact Datum.fieldOr_of_get? rfl (readNames_ofNames skillsSpelled)
  case saves => exact Datum.fieldOr_of_get? rfl (readNames_ofNames savesSpelled)
  case equippedWeapon => exact Datum.fieldOr_of_get? rfl weaponRead

end Character

/-! ## What a character keeps -/

/-- A value lists a name under a key. -/
def Datum.Lists (given : Datum) (key name : String) : Prop :=
  ∃ items, given.get? key = some (.list items) ∧ .text name ∈ items

/-- A value leaves the score of an ability open: it has no scores, or none of that ability, or
nothing in its place. -/
def Datum.LeavesOpen (given : Datum) (ability : Ability) : Prop :=
  ∀ entries value, given.get? "stats" = some (.table entries) →
    (ability.name, value) ∈ entries → value = .null

namespace Character

/-- What a character keeps of a value that stands for it. -/
structure Keeps (character : Character) (given : Datum) : Prop where
  /-- A listed skill is found under every name that has the same spelling. -/
  skills :
    ∀ name, given.Lists "skill_proficiencies" name →
      ∀ other, Skill.normalForm other = Skill.normalForm name →
        character.isProficientInSkill other = true
  /-- A saving throw listed under some name of an ability is found under its full name. -/
  saves :
    ∀ name ability, given.Lists "saving_throw_proficiencies" name →
      Ability.ofName? name = some ability → character.isProficientInSave ability.name = true
  /-- A score that was left open is ten. -/
  scores :
    ∀ ability, given.LeavesOpen ability →
      (ScoreSheet.record character.scores).score ability.name = .ok 10

theorem contains_of_lists
    {source : Datum} {key name : String} {form : String → String} {set : NameSet}
    (read : source.fieldOr key .empty (readNames form) = .sound set)
    (listed : source.Lists key name) :
    set.contains (form name) = true := by
  obtain ⟨items, found, member⟩ := listed
  rcases Datum.fieldOr_eq_sound read with ⟨missing, -⟩ | ⟨part, foundPart, partRead⟩
  · rw [missing] at found
    cases found
  · rw [found] at foundPart
    obtain rfl := Option.some.inj foundPart
    obtain ⟨names, areTexts, rfl⟩ := readNames_eq_sound partRead
    rw [Datum.list.inj areTexts] at member
    obtain ⟨other, isListed, isName⟩ := List.mem_map.1 member
    rw [Datum.text.inj isName] at isListed
    rw [NameSet.contains, List.contains_iff_mem, NameSet.mem_ofList]
    exact List.mem_map_of_mem isListed

theorem get_of_leavesOpen
    {source : Datum} {character : Character} {ability : Ability}
    (read : character.ReadFrom source) (leftOpen : source.LeavesOpen ability) :
    character.scores.get ability = defaultScore := by
  rcases Datum.fieldOr_eq_sound read.scores with ⟨-, areTens⟩ | ⟨sheet, found, sheetRead⟩
  · rw [areTens]
    cases ability <;> rfl
  · cases sheet with
    | table entries =>
        exact Scores.get_of_onlyNulls sheetRead fun value => leftOpen entries value found
    | _ => cases sheetRead

theorem ReadFrom.keeps
    {source : Datum} {character : Character} (read : character.ReadFrom source) :
    character.Keeps source := by
  constructor
  case skills =>
    intro name listed other sameSpelling
    rw [isProficientInSkill, sameSpelling]
    exact contains_of_lists read.skills listed
  case saves =>
    intro name ability listed known
    have spelled : saveForm name = ability.name := by rw [saveForm, known]
    rw [isProficientInSave, ← spelled]
    exact contains_of_lists read.saves listed
  case scores =>
    intro ability leftOpen
    rw [ScoreSheet.score, ability.ofFullName?_name, Option.map_some,
      get_of_leavesOpen read leftOpen]
    rfl

end Character

end Tabletop
