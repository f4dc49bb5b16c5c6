import Tabletop.Compendium.Standard
import Tabletop.Proofs.Outcome.Judgement
import Tabletop.Proofs.Outline.Boundaries
import Tabletop.Proofs.Outline.Keys
import Tabletop.Proofs.Referee.Agreement

/-!
# Numbers in described actions

A described action is read by its patterns and by the names of the compendium. That they hear an
action that gives its numbers is decided once for every spell and every weapon of the rules, on the
outline of its texts, so that it holds for all numbers and all ways to write the letters.
-/

namespace Tabletop

open Numeral Pattern Text

/-- The endings of ordinal numbers. -/
def ordinalEndings : List String := ["st", "nd", "rd", "th"]

/-- An action that gives its numbers: a spell that is cast at a level, or an attack with a weapon,
against an armor class. -/
inductive NumberedAction where
  /-- The level is given behind the word, or in front of it as an ordinal number with an ending. -/
  | cast (spell : Spell) (ending : Option String)
  | attack (weapon : Weapon)

namespace NumberedAction

/-- The name of the spell or the weapon in small letters. -/
def key : NumberedAction → String
  | .cast spell _ => Text.lower spell.name
  | .attack weapon => Text.lower weapon.name

/-- The words in front of the name. -/
def opening : NumberedAction → Outline
  | .cast _ _ => plain "cast "
  | .attack _ => plain "attack with "

/-- The words behind the name. -/
def closing : NumberedAction → Outline
  | .cast _ none => plain " at level " ++ .numeral 0 :: (plain " against ac " ++ [.numeral 1])
  | .cast _ (some ending) =>
      plain " at " ++ .numeral 0 :: (plain ending ++ (plain " level against ac " ++ [.numeral 1]))
  | .attack _ => plain " against ac " ++ [.numeral 1]

/-- What a text of the action leaves open: its numbers, the case of its letters and the white space
outside of the name. -/
def outline (action : NumberedAction) : Outline :=
  action.opening ++ (spelled action.key ++ action.closing)

/-- The action is about something in the compendium that comes with the rules. -/
def IsStandard : NumberedAction → Prop
  | .cast spell ending => spell ∈ Compendium.standardSpells ∧ ∀ word ∈ ending, word ∈ ordinalEndings
  | .attack weapon => weapon ∈ Compendium.standardWeapons

/-- In the texts of an action the name and the numbers are sure to be heard. -/
def isHeard (action : NumberedAction) : Bool :=
  Wording.armorClass.prospect none action.outline = .hit [((), [.numeral 1])] &&
    numbersApart action.outline &&
    match action with
    | .cast _ _ =>
        Wording.spellWord.prospect none action.outline = .hit [] &&
          Wording.slotLevel.prospect none action.outline = .hit [((), [.numeral 0])] &&
          singlesOut (Compendium.standardSpells.map fun spell => Text.lower spell.name)
            action.opening action.key action.closing
    | .attack _ =>
        Wording.spellWord.prospect none action.outline = .nothing &&
          Wording.weaponVerb.prospect none action.outline = .hit [] &&
          singlesOut (Compendium.standardWeapons.map fun weapon => Text.lower weapon.name)
            action.opening action.key action.closing

theorem isHeard_cast :
    ∀ spell ∈ Compendium.standardSpells, ∀ ending ∈ none :: ordinalEndings.map some,
      (cast spell ending).isHeard = true := by
  decide

theorem isHeard_attack :
    ∀ weapon ∈ Compendium.standardWeapons, (attack weapon).isHeard = true := by
  decide

theorem isHeard_of_isStandard {action : NumberedAction} (standard : action.IsStandard) :
    action.isHeard = true := by
  cases action with
  | cast spell ending =>
      obtain ⟨listed, known⟩ := standard
      refine isHeard_cast spell listed ending ?_
      cases ending with
      | none => exact List.mem_cons_self
      | some word => exact List.mem_cons_of_mem none (List.mem_map_of_mem (known word rfl))
  | attack weapon => exact isHeard_attack weapon standard

end NumberedAction

/-! ## Names of their own -/

theorem lastNamed?_spell :
    ∀ spell ∈ Compendium.standardSpells,
      Entries.lastNamed? Spell.name Compendium.standardSpells (Text.lower spell.name) =
        some spell := by
  decide

theorem lastNamed?_weapon :
    ∀ weapon ∈ Compendium.standardWeapons,
      Entries.lastNamed? Weapon.name Compendium.standardWeapons (Text.lower weapon.name) =
        some weapon := by
  decide

/-! ## What is resolved -/

section

variable {numbers : Nat → List Char} {text : String} (isRun : ∀ index, IsRun (numbers index))
variable (short : ∀ index, (numbers index).length ≤ digitLimit) (settings : Settings)
include isRun short

theorem resolveFree_of_cast
    {spell : Spell} {ending : Option String}
    (standard : (NumberedAction.cast spell ending).IsStandard)
    (written : (NumberedAction.cast spell ending).outline.WrittenAs numbers text.toList)
    (character : Character) (override : Option Int) :
    let referee : Referee := ⟨Compendium.standard, settings⟩
    referee.resolveFree text character override =
      CastRequest.resolve
        { spell := spell, description := text, slot := some (value (numbers 0))
          target := some (value (numbers 1)) }
        character (referee.proficiency character override) := by
  intro referee
  have heard := NumberedAction.isHeard_of_isStandard standard
  simp only [NumberedAction.isHeard, Bool.and_eq_true, decide_eq_true_eq] at heard
  obtain ⟨⟨isTarget, -⟩, ⟨speaksOfSpell, isSlot⟩, singles⟩ := heard
  have found : Compendium.standard.findSpell? text = some spell :=
    Entries.find?_ofNamed_eq_some_iff.2
      ⟨_, isBest_of_singlesOut isRun singles written, lastNamed?_spell spell standard.1⟩
  have casts : referee.spellIn? text = some spell :=
    referee.spellIn?_eq_some_iff.2 ⟨occursIn_of_prospect isRun written speaksOfSpell, found⟩
  rw [referee.resolveFree_of_spell casts,
    Wording.numberIn_of_prospect isRun (short 0) written isSlot,
    Wording.numberIn_of_prospect isRun (short 1) written isTarget]
  rfl

theorem resolveFree_of_attack
    {weapon : Weapon} (standard : (NumberedAction.attack weapon).IsStandard)
    (written : (NumberedAction.attack weapon).outline.WrittenAs numbers text.toList)
    (character : Character) (override : Option Int) :
    let referee : Referee := ⟨Compendium.standard, settings⟩
    let texts := [some text, character.equippedWeapon]
    AttackRequest.weaponIn Compendium.standard texts = (weapon, []) ∧
      referee.resolveFree text character override =
        AttackRequest.resolve
          { kind := .weaponAttack, description := text, target := some (value (numbers 1)) }
          Compendium.standard texts character (referee.proficiency character override) := by
  intro referee texts
  have heard := NumberedAction.isHeard_of_isStandard standard
  simp only [NumberedAction.isHeard, Bool.and_eq_true, decide_eq_true_eq] at heard
  obtain ⟨⟨isTarget, -⟩, ⟨noSpell, armed⟩, singles⟩ := heard
  have found : Compendium.standard.findWeapon? text = some weapon :=
    Entries.find?_ofNamed_eq_some_iff.2
      ⟨_, isBest_of_singlesOut isRun singles written, lastNamed?_weapon weapon standard⟩
  constructor
  · have someText : Text.nonEmpty? (some text) = some text := by
      have nonempty : text.toList ≠ [] := written.ne_nil isRun (List.cons_ne_nil _ _)
      have notEmpty : text.isEmpty = false := by
        rw [Bool.eq_false_iff, ne_eq, String.isEmpty_iff]
        rintro rfl
        exact nonempty rfl
      simp [Text.nonEmpty?, notEmpty]
    have texts : texts.filterMap Text.nonEmpty? =
        text :: [character.equippedWeapon].filterMap Text.nonEmpty? :=
      List.filterMap_cons_some someText
    rw [AttackRequest.weaponIn, texts, List.findSome?_cons, found]
  · rw [referee.resolveFree_of_no_spell (occursIn_eq_false_of_prospect isRun written noSpell),
      Referee.resolveArmed, if_pos (occursIn_of_prospect isRun written armed),
      Wording.numberIn_of_prospect isRun (short 1) written isTarget]
    rfl

end

/-! ## Outcomes -/

/-- The numbers of an action show in its outcome: the level gives the slot, as far as it may, and
the armor class decides on the success, if there is an attack to be rolled. -/
def NumberedAction.TakesEffect
    (action : NumberedAction) (numbers : Nat → List Char) (outcome : Outcome) : Prop :=
  match action with
  | .cast spell _ =>
      outcome.kind = .spellCast ∧ outcome.spell = some spell.name ∧
        outcome.slot = some (min (max (value (numbers 0) : Int) spell.level.value) 9) ∧
        outcome.success =
          if spell.needsAttackRoll then
            some (decide ((value (numbers 1) : Int) ≤ outcome.total))
          else none
  | .attack weapon =>
      outcome.kind = .weaponAttack ∧ outcome.weapon = some weapon.name ∧ outcome.notes = [] ∧
        outcome.success = some (decide ((value (numbers 1) : Int) ≤ outcome.total))

/-- Whatever the case of its letters, an action that gives its numbers comes to an outcome in which
they take effect. -/
theorem numbers_take_effect
    (action : NumberedAction) (standard : action.IsStandard) (numbers : Nat → List Char)
    {text : String} (isRun : ∀ index, IsRun (numbers index))
    (short : ∀ index, (numbers index).length ≤ digitLimit)
    (written : action.outline.WrittenAs numbers text.toList)
    (settings : Settings) (character : Character) (override : Option Int) :
    let work := Referee.resolveFree ⟨Compendium.standard, settings⟩ text character override
    (∀ tray : Tray, tray.BelowOne → ∃ outcome, (work tray).1 = .ok outcome) ∧
      work.Ensures (action.TakesEffect numbers) := by
  intro work
  constructor
  · intro tray below
    have heard := NumberedAction.isHeard_of_isStandard standard
    simp only [NumberedAction.isHeard, Bool.and_eq_true, decide_eq_true_eq] at heard
    have shortRuns : ∀ run, run <:+: text.toList → (∀ c ∈ run, isDigit c = true) →
        run.length ≤ digitLimit :=
      fun run inside digits => length_le_of_run isRun short heard.1.2 written inside digits
    obtain ⟨outcome, after, done, -⟩ :=
      described_actions_resolve ⟨Compendium.standard, settings⟩ text character override tray
        shortRuns Compendium.standard_moderate below
    exact ⟨outcome, congrArg Prod.fst done⟩
  · cases action with
    | cast spell ending =>
        have resolved :=
          resolveFree_of_cast isRun short settings standard written character override
        intro tray outcome done
        rw [show work = _ from resolved] at done
        obtain ⟨kind, isSpell, slot, judged⟩ :=
          CastRequest.ensures_judged _ character _ tray outcome done
        exact ⟨kind, isSpell, slot, judged⟩
    | attack weapon =>
        obtain ⟨named, resolved⟩ :=
          resolveFree_of_attack isRun short settings standard written character override
        intro tray outcome done
        rw [show work = _ from resolved] at done
        obtain ⟨kind, isWeapon, notes, judged⟩ :=
          AttackRequest.ensures_judged _ _ _ character _ tray outcome done
        rw [named] at isWeapon notes
        exact ⟨kind, isWeapon, notes, judged⟩

/-- A fire bolt in a slot that it does not need, and an attack with a longsword. -/
theorem numbers_take_effect_for_a_fire_bolt_and_a_longsword :
    (∃ spell ∈ Compendium.standardSpells, ∃ outcome,
      spell.name = "Fire Bolt" ∧
        (Referee.resolveFree ⟨Compendium.standard, {}⟩ "Cast FIRE bolt at 3rd level against AC 12"
          {} none ⟨Source.ofList [], 0⟩).1 = .ok outcome ∧
        outcome.slot = some 3 ∧ outcome.success = some (decide (12 ≤ outcome.total))) ∧
      ∃ weapon ∈ Compendium.standardWeapons, ∃ outcome,
        weapon.name = "Longsword" ∧
          (Referee.resolveFree ⟨Compendium.standard, {}⟩ "attack with longsword against AC 15"
            { equippedWeapon := some "club" } none ⟨Source.ofList [], 0⟩).1 = .ok outcome ∧
          outcome.weapon = some "Longsword" ∧
          outcome.success = some (decide (15 ≤ outcome.total)) := by
  have below : Tray.BelowOne ⟨Source.ofList [], 0⟩ := Source.belowOne_ofList (by simp)
  constructor
  · obtain ⟨spell, listed, isBolt, hits, isCantrip⟩ :
        ∃ spell ∈ Compendium.standardSpells,
          spell.name = "Fire Bolt" ∧ spell.needsAttackRoll = true ∧ spell.level.value = 0 := by
      decide +kernel
    have written :
        (NumberedAction.cast spell (some "rd")).outline.WrittenAs
          (fun index => if index = 0 then ['3'] else ['1', '2'])
          "Cast FIRE bolt at 3rd level against AC 12".toList := by
      rw [NumberedAction.outline, NumberedAction.key, isBolt, NumberedAction.opening,
        NumberedAction.closing]
      exact ⟨("Cast FIRE bolt at 3rd level against AC ".toList.map fun c => [c]) ++ [['1', '2']],
        by decide +kernel, by decide⟩
    obtain ⟨returns, ensured⟩ :=
      numbers_take_effect (.cast spell (some "rd")) ⟨listed, by decide⟩
        (fun index => if index = 0 then ['3'] else ['1', '2'])
        (fun index => by split <;> exact ⟨List.cons_ne_nil _ _, List.all_eq_true.1 (by decide)⟩)
        (fun index => by split <;> decide) written {} {} none
    obtain ⟨outcome, done⟩ := returns _ below
    obtain ⟨-, -, slot, judged⟩ := ensured _ outcome done
    rw [isCantrip] at slot
    rw [if_pos hits] at judged
    exact ⟨spell, listed, outcome, isBolt, done, slot, judged⟩
  · obtain ⟨weapon, listed, isSword⟩ :
        ∃ weapon ∈ Compendium.standardWeapons, weapon.name = "Longsword" := by
      decide +kernel
    have written :
        (NumberedAction.attack weapon).outline.WrittenAs (fun _ => ['1', '5'])
          "attack with longsword against AC 15".toList := by
      rw [NumberedAction.outline, NumberedAction.key, isSword, NumberedAction.opening,
        NumberedAction.closing]
      exact ⟨("attack with longsword against AC ".toList.map fun c => [c]) ++ [['1', '5']],
        by decide +kernel, by decide⟩
    obtain ⟨returns, ensured⟩ :=
      numbers_take_effect (.attack weapon) listed (fun _ => ['1', '5'])
        (fun _ => ⟨List.cons_ne_nil _ _, List.all_eq_true.1 (by decide)⟩) (fun _ => by decide)
        written {} { equippedWeapon := some "club" } none
    obtain ⟨outcome, done⟩ := returns _ below
    obtain ⟨-, named, -, judged⟩ := ensured _ outcome done
    rw [isSword] at named
    exact ⟨weapon, listed, outcome, isSword, done, named, judged⟩

end Tabletop
