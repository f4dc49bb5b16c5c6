import Tabletop.Compendium.Standard
import Tabletop.Proofs.Draw.Account
import Tabletop.Proofs.Outcome.Coherence

/-!
# Outcomes and their draws

Every draw that is taken for an outcome shows in it: first the die of twenty sides, then the dice of
the damage, which a critical success has rolled twice, then those of the healing.
-/

namespace Tabletop

open Rolling

/-- The dice that the damage and the healing of an outcome are made of. -/
structure Pools where
  harm : List Dice := []
  relief : List Dice := []

namespace Outcome

/-- Draws are those of an outcome: one for the die of twenty sides if it was rolled, then one for
each face of the damage and one for each face of the healing, all in their order. -/
def AccountsFor (outcome : Outcome) (pools : Pools) (draws : List Draw) : Prop :=
  ∃ tested harmed relieved,
    draws = tested ++ (harmed ++ relieved) ∧
      Faces tested (outcome.face.toList.map fun _ => 20) outcome.face.toList ∧
      Faces harmed
        (if outcome.damage.isSome then
          poolSides (outcome.critical == some .success) pools.harm
        else [])
        outcome.damageFaces ∧
      Faces relieved
        (if outcome.healing.isSome then poolSides false pools.relief else [])
        outcome.healingFaces

end Outcome

/-- What was rolled in a stage that may be left out, with the draws that it took. -/
def Roll.TakenFor (roll : Option Roll) (sides : List Int) (draws : List Draw) : Prop :=
  Faces draws (if roll.isSome then sides else []) ((roll.map Roll.faces).getD [])

theorem Roll.takenFor_none (sides : List Int) : Roll.TakenFor none sides [] :=
  Faces.nothing

theorem accounts_some
    {work : Rolling Roll} {sides : List Int}
    (accounts : work.Accounts fun roll draws => Faces draws sides roll.faces) :
    (some <$> work).Accounts fun roll draws => Roll.TakenFor roll sides draws :=
  Rolling.Accounts.map accounts

/-- What was rolled for a test that may be left out. -/
def Test.TakenFor (test : Option Test) (draws : List Draw) : Prop :=
  Faces draws ((test.map Test.face).toList.map fun _ => 20) (test.map Test.face).toList

/-- An outcome accounts for the draws of the rolls that were made for it. -/
theorem Outcome.accountsFor_withRolls
    {outcome : Outcome} {test : Option Test} {harm relief : Option Roll} {pools : Pools}
    {tested harmed relieved : List Draw}
    (blank : outcome.Blank)
    (testTaken : Test.TakenFor test tested)
    (harmTaken : Roll.TakenFor harm (poolSides (test.any Test.isCritical) pools.harm) harmed)
    (reliefTaken : Roll.TakenFor relief (poolSides false pools.relief) relieved) :
    (outcome.withRolls test harm relief).AccountsFor pools (tested ++ (harmed ++ relieved)) := by
  have twice : (test.bind Test.critical == some .success) = test.any Test.isCritical := by
    cases test <;> rfl
  rw [blank.withRolls_eq]
  refine ⟨tested, harmed, relieved, rfl, testTaken, ?_, ?_⟩
  · simpa only [Roll.TakenFor, Option.isSome_map, twice] using harmTaken
  · simpa only [Roll.TakenFor, Option.isSome_map] using reliefTaken

/-- An outcome of an attack accounts for the draws of its test and of its damage. -/
theorem Outcome.accounts_withDamage
    {outcome : Outcome} {test : Test} {harm : Option Roll} {pools : Pools}
    {tested harmed : List Draw}
    (blank : outcome.Blank) (rolled : Faces tested [20] [test.face])
    (taken : Roll.TakenFor harm (poolSides test.isCritical pools.harm) harmed) :
    Accounts (pure ((outcome.withTest test).withDamage harm)) fun shown more =>
      shown.AccountsFor pools (tested ++ (harmed ++ more)) := by
  refine accounts_pure ?_
  have accounted :
      (outcome.withRolls (some test) harm none).AccountsFor pools (tested ++ (harmed ++ [])) :=
    accountsFor_withRolls blank rolled taken (Roll.takenFor_none _)
  exact accounted

/-! ## Checks and attacks -/

theorem CheckRequest.accounts_resolve
    (request : CheckRequest) (character : Character) (proficiency : Int) :
    (request.resolve character proficiency).Accounts fun outcome draws =>
      outcome.AccountsFor {} draws := by
  rw [CheckRequest.resolve]
  refine (Test.accounts_roll _ _).bind fun test draws rolled => accounts_pure ?_
  exact ⟨draws, [], [], by simp, rolled, Faces.nothing, Faces.nothing⟩

/-- The dice that a text notes, if it is there and notes any. -/
def diceNoted (text : Option String) : Option (List Dice) :=
  (Text.nonEmpty? text).map fun text => (Dice.parse text).toOption.toList

theorem accounts_parseAndRoll (text : String) (critical : Bool) :
    Accounts (lift (Dice.parse text) >>= fun dice => rollDamage [dice] 0 critical)
      fun roll draws =>
        Faces draws (poolSides critical (Dice.parse text).toOption.toList) roll.faces := by
  refine accounts_bind_lift fun dice parsed => ?_
  rw [parsed]
  exact accounts_rollDamage [dice] 0 critical

namespace AttackRequest

variable (request : AttackRequest)

/-- The dice of an attack: the dice it brings, or those of the weapon. -/
def pools (weapon : Weapon) : Pools where
  harm := (diceNoted request.damage).getD [weapon.damage.dice]

theorem accounts_rollFor (weapon : Weapon) (modifier : Int) (critical : Bool) :
    (request.rollFor weapon modifier critical).Accounts fun roll draws =>
      Faces draws (poolSides critical (request.pools weapon).harm) roll.faces := by
  rw [rollFor, pools, diceNoted]
  cases Text.nonEmpty? request.damage with
  | some text => exact accounts_parseAndRoll text critical
  | none => exact accounts_rollDamage [weapon.damage.dice] modifier critical

theorem accounts_resolve
    (compendium : Compendium) (texts : List (Option String)) (character : Character)
    (proficiency : Int) :
    (request.resolve compendium texts character proficiency).Accounts fun outcome draws =>
      outcome.AccountsFor (request.pools (weaponIn compendium texts).1) draws := by
  rw [resolve]
  split
  rename_i weapon fallbackNotes found
  rw [found]
  split
  rename_i ability modifier bonus _
  refine (Test.accounts_roll _ _).bind fun test tested rolled => ?_
  let base : Outcome := {
    kind := request.kind
    description := request.description
    suggestion := request.suggestion
    ability := some ability.name
    weapon := some weapon.name
    damageType := some weapon.damage.type
    notes := request.notes ++ fallbackNotes }
  have blank : base.Blank := ⟨rfl, rfl, rfl, rfl, rfl, rfl, rfl, rfl, rfl, rfl⟩
  by_cases mayHit : test.mayHit = true
  · simp only [mayHit, if_true]
    have rolls := request.accounts_rollFor weapon modifier test.isCritical
    exact (accounts_some rolls).bind fun harm harmed taken =>
      Outcome.accounts_withDamage blank rolled taken
  · simp only [mayHit]
    exact Outcome.accounts_withDamage blank rolled (Roll.takenFor_none _)

end AttackRequest

theorem accounts_resolveSpellAttack
    (suggestion : Suggestion) (character : Character) (proficiency : Int) (target : Option Int) :
    (resolveSpellAttack suggestion character proficiency target).Accounts fun outcome draws =>
      outcome.AccountsFor { harm := (diceNoted suggestion.damage).getD [] } draws := by
  rw [resolveSpellAttack]
  generalize character.scores.bestSpellAbility = ability
  refine (Test.accounts_roll _ _).bind fun test tested rolled => ?_
  let base : Outcome := {
    kind := .attackRoll
    description := suggestion.description
    suggestion := some suggestion
    ability := some ability.name }
  have blank : base.Blank := ⟨rfl, rfl, rfl, rfl, rfl, rfl, rfl, rfl, rfl, rfl⟩
  rw [diceNoted]
  cases Text.nonEmpty? suggestion.damage with
  | none => exact Outcome.accounts_withDamage blank rolled (Roll.takenFor_none _)
  | some text =>
      by_cases mayHit : test.mayHit = true
      · simp only [mayHit, if_true]
        refine accounts_bind_lift fun dice parsed => ?_
        have pool : (((some text).map fun text => (Dice.parse text).toOption.toList).getD []) =
            [dice] := by
          simp [parsed]
          rfl
        rw [pool]
        have rolls := accounts_rollDamage [dice] 0 test.isCritical
        exact (accounts_some rolls).bind fun harm harmed taken =>
          Outcome.accounts_withDamage blank rolled taken
      · simp only [mayHit]
        exact Outcome.accounts_withDamage blank rolled (Roll.takenFor_none _)

/-! ## Spells -/

/-- The dice of a spell in a slot. -/
def Spell.poolsAt (spell : Spell) (slot casterLevel : Int) : Pools where
  harm :=
    match spell.damage with
    | some damage => spell.poolAt damage.dice damage.scaling slot casterLevel
    | none => []
  relief :=
    match spell.healing with
    | some healing => spell.poolAt healing.dice healing.scaling slot casterLevel
    | none => []

namespace CastRequest

variable (request : CastRequest)

theorem accounts_rollToHit (score proficiency : Int) :
    (request.rollToHit score proficiency).Accounts Test.TakenFor := by
  rw [rollToHit]
  split
  · exact Rolling.Accounts.map (Test.accounts_roll _ _)
  · exact accounts_pure Faces.nothing

theorem accounts_rollHarm (test : Option Test) (modifier level : Int) :
    (request.rollHarm test modifier level).Accounts fun harm draws =>
      Roll.TakenFor harm
        (poolSides (test.any Test.isCritical) (request.spell.poolsAt request.slotTaken level).harm)
        draws := by
  rw [rollHarm, Spell.poolsAt]
  cases request.spell.damage with
  | none => exact accounts_pure (Roll.takenFor_none _)
  | some damage =>
      simp only
      split
      · exact accounts_some (accounts_rollDamage _ _ _)
      · exact accounts_pure (Roll.takenFor_none _)

theorem accounts_rollRelief (modifier level : Int) :
    (request.rollRelief modifier level).Accounts fun relief draws =>
      Roll.TakenFor relief
        (poolSides false (request.spell.poolsAt request.slotTaken level).relief) draws := by
  rw [rollRelief, Spell.poolsAt]
  cases request.spell.healing with
  | none => exact accounts_pure (Roll.takenFor_none _)
  | some healing => exact accounts_some (accounts_rollHealing _ _ _)

theorem accounts_resolve (character : Character) (proficiency : Int) :
    (request.resolve character proficiency).Accounts fun outcome draws =>
      outcome.AccountsFor (request.spell.poolsAt request.slotTaken character.level.value)
        draws := by
  rw [resolve]
  refine (request.accounts_rollToHit _ _).bind fun test tested testTaken => ?_
  refine (request.accounts_rollHarm test _ _).bind fun harm harmed harmTaken => ?_
  refine (request.accounts_rollRelief _ _).bind fun relief relieved reliefTaken => ?_
  refine accounts_pure ?_
  rw [List.append_nil]
  exact Outcome.accountsFor_withRolls (request.blank_announced _ _) testTaken harmTaken reliefTaken

end CastRequest

/-! ## Suggestions and described actions -/

namespace Referee

variable (referee : Referee)

/-- The dice that a suggestion calls for: for an attack those that the text notes, or else those of
the weapon in hand unless the attack is made with a spell. -/
def poolsFor (suggestion : Suggestion) (character : Character) : Pools :=
  let weapon := (AttackRequest.weaponIn referee.compendium [character.equippedWeapon]).1
  match suggestion.kind with
  | .attack => {
      harm := (diceNoted suggestion.damage).getD
        (if suggestion.mode = some "spell" then [] else [weapon.damage.dice]) }
  | .skill | .save => {}

/-- The dice that a described action calls for: those of the spell that it names in the slot that
it names, or else those of the weapon if it speaks of an attack. -/
def poolsIn (text : String) (character : Character) : Except Fault Pools :=
  let spell :=
    if Wording.spellWord.occursIn text.toList then referee.compendium.findSpell? text else none
  match spell with
  | some spell =>
      (fun slot => spell.poolsAt (spell.slotFor slot) character.level.value) <$>
        Wording.numberIn Wording.slotLevel text.toList
  | none =>
      let weapon :=
        (AttackRequest.weaponIn referee.compendium [some text, character.equippedWeapon]).1
      .ok (if Wording.weaponVerb.occursIn text.toList then { harm := [weapon.damage.dice] } else {})

theorem accounts_resolve (suggestion : Suggestion) (character : Character) (options : Options) :
    (referee.resolve suggestion character options).Accounts fun outcome draws =>
      outcome.AccountsFor (referee.poolsFor suggestion character) draws := by
  rw [resolve, poolsFor]
  cases suggestion.kind with
  | attack =>
      by_cases casts : suggestion.mode = some "spell"
      · simp only [casts, if_true]
        exact accounts_resolveSpellAttack suggestion character _ _
      · simp only [casts, if_false]
        exact AttackRequest.accounts_resolve _ _ _ character _
  | skill => exact CheckRequest.accounts_resolve _ character _
  | save => exact CheckRequest.accounts_resolve _ character _

theorem accounts_resolveNamed
    (text : String) (character : Character) (proficiency : Int) (notes : List String) :
    (resolveNamed text character proficiency notes).Accounts fun outcome draws =>
      outcome.AccountsFor {} draws := by
  rw [resolveNamed]
  split
  · exact accounts_pure ⟨[], [], [], rfl, Faces.nothing, Faces.nothing, Faces.nothing⟩
  · exact accounts_bind_lift fun difficulty _ =>
      CheckRequest.accounts_resolve _ character proficiency

theorem accounts_resolveArmed
    (text : String) (character : Character) (proficiency : Int) (notes : List String) :
    (referee.resolveArmed text character proficiency notes).Accounts fun outcome draws =>
      outcome.AccountsFor
        (if Wording.weaponVerb.occursIn text.toList then {
          harm := [(AttackRequest.weaponIn referee.compendium
            [some text, character.equippedWeapon]).1.damage.dice] }
        else {})
        draws := by
  rw [resolveArmed]
  split
  · exact accounts_bind_lift fun target _ =>
      AttackRequest.accounts_resolve _ _ _ character proficiency
  · exact accounts_resolveNamed text character proficiency notes

theorem accounts_resolveFree
    (text : String) (character : Character) (override : Option Int) :
    (referee.resolveFree text character override).Accounts fun outcome draws =>
      ∃ pools, referee.poolsIn text character = .ok pools ∧ outcome.AccountsFor pools draws := by
  have armed :
      ∀ proficiency notes,
        referee.poolsIn text character = .ok
          (if Wording.weaponVerb.occursIn text.toList then {
            harm := [(AttackRequest.weaponIn referee.compendium
              [some text, character.equippedWeapon]).1.damage.dice] }
          else {}) →
        (referee.resolveArmed text character proficiency notes).Accounts fun outcome draws =>
          ∃ pools, referee.poolsIn text character = .ok pools ∧
            outcome.AccountsFor pools draws := by
    intro proficiency notes known tray outcome done
    obtain ⟨draws, taken, accounted⟩ :=
      referee.accounts_resolveArmed text character proficiency notes tray outcome done
    exact ⟨draws, taken, _, known, accounted⟩
  rw [resolveFree]
  by_cases speaksOfSpell : Wording.spellWord.occursIn text.toList = true
  · simp only [speaksOfSpell, if_true]
    cases found : referee.compendium.findSpell? text with
    | none =>
        apply armed
        simp only [poolsIn, speaksOfSpell, if_true, found]
    | some spell =>
        refine accounts_bind_lift fun slot named => accounts_bind_lift fun target _ => ?_
        have known :
            referee.poolsIn text character =
              .ok (spell.poolsAt (spell.slotFor slot) character.level.value) := by
          simp only [poolsIn, speaksOfSpell, if_true, found, named]
          rfl
        intro tray outcome done
        obtain ⟨draws, taken, accounted⟩ :=
          CastRequest.accounts_resolve _ character _ tray outcome done
        exact ⟨draws, taken, _, known, accounted⟩
  · simp only [speaksOfSpell]
    apply armed
    simp only [poolsIn, speaksOfSpell]
    rfl

end Referee

/-- The draws that are taken for an outcome, of a suggestion or of a described action, are those
that it accounts for, with none before, between or after them. -/
theorem draws_are_accounted_for
    (referee : Referee) (character : Character) (tray : Tray) (outcome : Outcome) :
    (∀ suggestion options,
      (referee.resolve suggestion character options tray).1 = .ok outcome →
        ∃ draws, tray.HandsOut draws (referee.resolve suggestion character options tray).2 ∧
          outcome.AccountsFor (referee.poolsFor suggestion character) draws) ∧
    (∀ text override,
      (referee.resolveFree text character override tray).1 = .ok outcome →
        ∃ draws, tray.HandsOut draws (referee.resolveFree text character override tray).2 ∧
          ∃ pools, referee.poolsIn text character = .ok pools ∧
            outcome.AccountsFor pools draws) := by
  constructor
  · intro suggestion options done
    exact referee.accounts_resolve suggestion character options tray outcome done
  · intro text override done
    exact referee.accounts_resolveFree text character override tray outcome done

/-- A greatsword swung with a twenty: its two dice fall twice. -/
theorem draws_are_accounted_for_with_a_twenty :
    let tray : Tray := ⟨Source.ofList [.finite false 31 (-5), .finite false 1 (-1)], 0⟩
    let action := Referee.resolveFree ⟨Compendium.standard, {}⟩ "I swing my greatsword" {} none
    ∃ outcome draws,
      (action tray).1 = .ok outcome ∧ outcome.face = some 20 ∧
        tray.HandsOut draws (action tray).2 ∧
        outcome.AccountsFor { harm := [Dice.of 2 6] } draws ∧
        outcome.damageFaces = [4, 4, 4, 4] := by
  intro tray action
  have shown :
      (action tray).1.toOption.any (fun outcome =>
        outcome.face == some 20 && outcome.damageFaces == [4, 4, 4, 4]) = true := by
    decide +kernel
  obtain ⟨outcome, isOutcome, shows⟩ := Option.any_eq_true _ _ |>.1 shown
  have done : (action tray).1 = .ok outcome := by
    cases result : (action tray).1 with
    | error fault =>
        rw [result] at isOutcome
        cases isOutcome
    | ok found =>
        rw [result] at isOutcome
        cases isOutcome
        rfl
  rw [Bool.and_eq_true, beq_iff_eq, beq_iff_eq] at shows
  obtain ⟨draws, taken, pools, known, accounted⟩ :=
    (draws_are_accounted_for ⟨Compendium.standard, {}⟩ {} tray outcome).2 _ _ done
  have isSword :
      Referee.poolsIn ⟨Compendium.standard, {}⟩ "I swing my greatsword" {} =
        .ok { harm := [Dice.of 2 6] } := by
    rfl
  rw [isSword] at known
  obtain rfl := Except.ok.inj known
  exact ⟨outcome, draws, done, shows.1, taken, accounted, shows.2⟩

end Tabletop
