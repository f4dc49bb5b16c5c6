import Tabletop.Compendium.Standard
import Tabletop.Proofs.Dice.Roll
import Tabletop.Proofs.Prompt.Damage
import Tabletop.Proofs.Prompt.Numbers
import Tabletop.Proofs.Span.Choice
import Tabletop.Referee

/-!
# Suggestions can be resolved

What a text suggests comes to an outcome with every character, every compendium whose weapons can
be rolled and all draws below one. The one exception are dice that the text itself calls for and
that are no dice: none at all, or dice without sides.
-/

namespace Tabletop

open Numeral Text

variable {Allowed : Fault → Prop}

/-! ## Weapons -/

theorem Entries.exists_mem_of_find?
    {α : Type} {table : Entries α} {text : String} {value : α}
    (found : table.find? text = some value) :
    ∃ entry ∈ table, entry.2 = value := by
  obtain ⟨entry, isEntry, rfl⟩ := Option.map_eq_some_iff.1 found
  exact ⟨entry, (perm_sortBy _ table).mem_iff.1 (List.mem_of_find?_eq_some isEntry), rfl⟩

/-- The weapons of a compendium can be rolled for damage. -/
def Compendium.Rollable (compendium : Compendium) : Prop :=
  ∀ entry ∈ compendium.weapons, entry.2.damage.dice.Rollable

theorem usual_weapons_rollable :
    Weapon.unarmedStrike.damage.dice.Rollable ∧
      ∀ entry ∈ Compendium.standard.weapons, entry.2.damage.dice.Rollable := by
  decide +kernel

theorem Weapon.unarmedStrike_rollable : Weapon.unarmedStrike.damage.dice.Rollable :=
  usual_weapons_rollable.1

theorem Compendium.standard_rollable : Compendium.standard.Rollable :=
  usual_weapons_rollable.2

theorem AttackRequest.weaponIn_rollable
    {compendium : Compendium} (rollable : compendium.Rollable) (texts : List (Option String)) :
    (weaponIn compendium texts).1.damage.dice.Rollable := by
  rw [weaponIn]
  split
  · rename_i weapon named
    obtain ⟨text, -, found⟩ := List.exists_of_findSome?_eq_some named
    obtain ⟨entry, listed, rfl⟩ := Entries.exists_mem_of_find? found
    exact rollable entry listed
  · exact Weapon.unarmedStrike_rollable

/-! ## Requests -/

theorem CheckRequest.failsOnly_resolve
    (request : CheckRequest) (character : Character) (proficiency : Int) :
    (request.resolve character proficiency).FailsOnly Allowed :=
  Rolling.failsOnly_bind (Test.failsOnly_roll _ _) fun _ => Rolling.failsOnly_pure _

/-- Damage in dice notation that is either refused with an allowed fault or makes dice that can be
rolled. -/
def DamageFails (damage : Option String) (Allowed : Fault → Prop) : Prop :=
  ∀ text, damage = some text →
    (∀ fault, Dice.parse text = .error fault → Allowed fault) ∧
      ∀ dice, Dice.parse text = .ok dice → dice.Rollable

/-- Reading narrated damage gives dice that can be rolled. -/
theorem DamageFails.failsOnly_parse
    {damage : Option String} {text : String}
    (fails : DamageFails damage Allowed) (narrated : nonEmpty? damage = some text) :
    (Rolling.lift (Dice.parse text)).FailsOnly Allowed ∧
      (Rolling.lift (Dice.parse text)).Ensures Dice.Rollable := by
  obtain ⟨allowed, rollable⟩ := fails text (Option.eq_some_of_filter_eq_some narrated)
  exact ⟨Rolling.failsOnly_lift allowed, Rolling.ensures_lift rollable⟩

theorem AttackRequest.failsOnly_rollFor
    {request : AttackRequest} {weapon : Weapon}
    (fails : DamageFails request.damage Allowed) (rollable : weapon.damage.dice.Rollable)
    (modifier : Int) (critical : Bool) :
    (request.rollFor weapon modifier critical).FailsOnly Allowed := by
  rw [rollFor]
  split
  · rename_i text narrated
    obtain ⟨parses, known⟩ := fails.failsOnly_parse narrated
    refine parses.bind known fun dice isRollable => ?_
    exact failsOnly_rollDamage (by simpa using isRollable) 0 critical
  · exact failsOnly_rollDamage (by simpa using rollable) modifier critical

theorem AttackRequest.failsOnly_resolve
    {request : AttackRequest} {compendium : Compendium}
    (fails : DamageFails request.damage Allowed) (rollable : compendium.Rollable)
    (texts : List (Option String)) (character : Character) (proficiency : Int) :
    (request.resolve compendium texts character proficiency).FailsOnly Allowed := by
  have weaponRollable := weaponIn_rollable rollable texts
  rw [resolve]
  split
  rename_i weapon fallbackNotes found
  rw [found] at weaponRollable
  split
  rename_i ability modifier bonus _
  refine Rolling.failsOnly_bind (Test.failsOnly_roll _ _) fun test => ?_
  by_cases mayHit : test.mayHit = true
  · simp only [mayHit, if_true]
    have rolls := failsOnly_rollFor fails weaponRollable modifier test.isCritical
    exact Rolling.failsOnly_bind (rolls.map some) fun _ => Rolling.failsOnly_pure _
  · simp only [mayHit]
    exact Rolling.failsOnly_pure _

theorem failsOnly_resolveSpellAttack
    {suggestion : Suggestion} (fails : DamageFails suggestion.damage Allowed)
    (character : Character) (proficiency : Int) (target : Option Int) :
    (resolveSpellAttack suggestion character proficiency target).FailsOnly Allowed := by
  rw [resolveSpellAttack]
  refine Rolling.failsOnly_bind (Test.failsOnly_roll _ _) fun test => ?_
  split
  · rename_i text narrated
    by_cases mayHit : test.mayHit = true
    · simp only [mayHit, if_true]
      obtain ⟨parses, known⟩ := fails.failsOnly_parse narrated
      refine parses.bind known fun dice isRollable => ?_
      have rolls : (rollDamage [dice] 0 test.isCritical).FailsOnly Allowed :=
        failsOnly_rollDamage (by simpa using isRollable) 0 test.isCritical
      exact Rolling.failsOnly_bind (rolls.map some) fun _ => Rolling.failsOnly_pure _
    · simp only [mayHit]
      exact Rolling.failsOnly_pure _
  · exact Rolling.failsOnly_pure _

theorem Referee.failsOnly_resolve
    {referee : Referee} {suggestion : Suggestion}
    (fails : DamageFails suggestion.damage Allowed) (rollable : referee.compendium.Rollable)
    (character : Character) (options : Options) :
    (referee.resolve suggestion character options).FailsOnly Allowed := by
  rw [resolve]
  cases suggestion.kind with
  | attack =>
      by_cases casts : suggestion.mode = some "spell"
      · simp only [casts, if_true]
        exact failsOnly_resolveSpellAttack fails character _ _
      · simp only [casts, if_false]
        exact AttackRequest.failsOnly_resolve fails rollable _ character _
  | skill => exact CheckRequest.failsOnly_resolve _ character _
  | save => exact CheckRequest.failsOnly_resolve _ character _

/-! ## Suggestions of a text -/

/-- The fault of a suggestion that calls for no dice or for dice without sides. -/
def Suggestion.CallsForNoDice (suggestion : Suggestion) (fault : Fault) : Prop :=
  ∃ damage count sides,
    suggestion.damage = some damage ∧ Dice.parse damage = .error fault ∧
      fault = .nonPositiveDice count sides ∧ (count = 0 ∨ sides = 0)

/-- What the damage of a suggestion is, if no run of digits of the text is too long. -/
theorem Prompt.Form.Proposes.parse_damage
    {form : Form} {text : List Char} {suggestion : Suggestion} {damage : String}
    (listed : form ∈ Form.all) (proposed : form.Proposes text suggestion)
    (short : ∀ run, run <:+: text → (∀ c ∈ run, isDigit c = true) → run.length ≤ digitLimit)
    (does : suggestion.damage = some damage) :
    (∃ dice, Dice.parse damage = .ok dice ∧ dice.Writable) ∨
      ∃ fault, Dice.parse damage = .error fault ∧ suggestion.CallsForNoDice fault := by
  obtain ⟨parts, proper, rfl, inside⟩ := proposed.exists_parts listed does
  have runsShort : ∀ run ∈ parts.runs, run.length ≤ digitLimit :=
    fun run member => short run (inside run member) (proper run member).all
  rcases Dice.parse_text_cases proper runsShort with made | ⟨count, sides, failed, none⟩
  · exact Or.inl made
  · exact Or.inr ⟨_, failed, _, count, sides, does, failed, rfl, none⟩

/-- Suggestions of a text without overlong numbers are found, and each of them comes to an outcome
or calls for no dice. -/
theorem found_suggestions_resolve
    (text : String)
    (short : ∀ run, run <:+: text.toList → (∀ c ∈ run, isDigit c = true) →
      run.length ≤ digitLimit) :
    ∃ found, suggestions text = .ok found ∧ ∀ suggestion ∈ found,
      (∀ damage, suggestion.damage = some damage →
        (∃ dice, Dice.parse damage = .ok dice) ∨
          ∃ fault, Dice.parse damage = .error fault ∧ suggestion.CallsForNoDice fault) ∧
      ∀ (referee : Referee) (character : Character) (options : Referee.Options) (tray : Tray),
        referee.compendium.Rollable →
        (∀ damage dice, suggestion.damage = some damage → Dice.parse damage = .ok dice →
          FitsBinary dice.sides) →
        tray.BelowOne →
        (∃ outcome, (referee.resolve suggestion character options tray).1 = .ok outcome) ∨
          ∃ fault, (referee.resolve suggestion character options tray).1 = .error fault ∧
            suggestion.CallsForNoDice fault := by
  obtain ⟨found, done⟩ := Prompt.exists_suggestions (Prompt.numbersFit_of_short_runs short)
  refine ⟨found, done, fun suggestion member => ?_⟩
  obtain ⟨all, allDone, rfl⟩ := suggestions_eq_ok_iff.1 done
  obtain ⟨form, listed, proposed⟩ :=
    (Prompt.mem_candidates_iff allDone).1 (mem_of_mem_chooseDisjoint member)
  constructor
  · intro damage does
    rcases proposed.parse_damage listed short does with ⟨dice, made, -⟩ | failed
    · exact Or.inl ⟨dice, made⟩
    · exact Or.inr failed
  · intro referee character options tray rollable fits below
    have fails : DamageFails suggestion.damage suggestion.CallsForNoDice := by
      intro damage does
      rcases proposed.parse_damage listed short does with
        ⟨dice, made, writable⟩ | ⟨fault, failed, noDice⟩
      · rw [made]
        refine ⟨fun fault failed => (by cases failed), ?_⟩
        rintro other ⟨⟩
        exact ⟨fits damage dice does made, writable.count, writable.modifier⟩
      · rw [failed]
        refine ⟨?_, fun dice made => (by cases made)⟩
        rintro other ⟨⟩
        exact noDice
    exact (Referee.failsOnly_resolve fails rollable character options).cases below

/-- Damage without dice, and a weapon with a modifier too long to be written. -/
theorem no_dice_and_overlong_modifiers_fail :
    (∃ suggestion,
      suggestions "make an attack roll dealing 0d6 damage" = .ok [suggestion] ∧
        suggestion.damage = some "0d6" ∧ Dice.parse "0d6" = .error (.nonPositiveDice 0 6) ∧
        (Referee.resolve ⟨Compendium.standard, {}⟩ suggestion {} {} ⟨Source.ofList [], 0⟩).1 =
          .error (.nonPositiveDice 0 6)) ∧
    ∃ suggestion,
      suggestions "make an attack roll" = .ok [suggestion] ∧
        (Referee.resolve
          ⟨⟨[("club", {
            name := "club"
            damage := { dice := Dice.of 1 4 (Nat.pow 10 digitLimit) } })], []⟩, {}⟩
          suggestion { equippedWeapon := some "club" } {} ⟨Source.ofList [], 0⟩).1 =
            .error .tooLongToWrite := by
  constructor
  · refine ⟨{
      kind := .attack
      damage := some "0d6"
      span := ⟨0, 38⟩
      description := "make an attack roll dealing 0d6 damage"
      form := "requested_attack" }, ?_, rfl, ?_, ?_⟩ <;>
      decide +kernel
  · refine ⟨{
      kind := .attack
      span := ⟨0, 19⟩
      description := "make an attack roll"
      form := "requested_attack" }, ?_, ?_⟩ <;>
      decide +kernel

theorem found_suggestions_resolve_two_dice :
    ∃ suggestion outcome,
      suggestions "make an attack roll dealing 2d6 damage" = .ok [suggestion] ∧
        (Referee.resolve ⟨Compendium.standard, {}⟩ suggestion {} {} ⟨Source.ofList [], 0⟩).1 =
          .ok outcome := by
  have short :
      ∀ run, run <:+: "make an attack roll dealing 2d6 damage".toList →
        (∀ c ∈ run, isDigit c = true) → run.length ≤ digitLimit := by
    intro run inside _
    have text : "make an attack roll dealing 2d6 damage".toList.length ≤ digitLimit := by
      decide
    exact inside.length_le.trans text
  obtain ⟨found, done, resolve⟩ := found_suggestions_resolve _ short
  have isFound :
      suggestions "make an attack roll dealing 2d6 damage" = .ok [{
        kind := .attack
        damage := some "2d6"
        span := ⟨0, 38⟩
        description := "make an attack roll dealing 2d6 damage"
        form := "requested_attack" }] := by
    decide
  rw [isFound] at done
  obtain rfl := Except.ok.inj done
  have fits :
      ∀ damage dice, some "2d6" = some damage → Dice.parse damage = .ok dice →
        FitsBinary dice.sides := by
    rintro damage dice ⟨⟩ made
    have isDice : Dice.parse "2d6" = .ok (Dice.of 2 6) := by decide
    rw [isDice] at made
    obtain rfl := Except.ok.inj made
    decide
  obtain ⟨-, come⟩ := resolve _ (List.mem_singleton_self _)
  have below : Tray.BelowOne ⟨Source.ofList [], 0⟩ := Source.belowOne_ofList (by simp)
  rcases come ⟨Compendium.standard, {}⟩ {} {} ⟨Source.ofList [], 0⟩ Compendium.standard_rollable
      fits below with ⟨outcome, came⟩ | ⟨fault, -, damage, count, sides, does, failed, -⟩
  · exact ⟨_, outcome, isFound, came⟩
  · obtain rfl := Option.some.inj does
    have isDice : Dice.parse "2d6" = .ok (Dice.of 2 6) := by decide
    rw [isDice] at failed
    cases failed

end Tabletop
