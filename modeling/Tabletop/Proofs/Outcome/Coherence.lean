import Tabletop.Compendium.Standard
import Tabletop.Proofs.Results
import Tabletop.Proofs.Rolling
import Tabletop.Referee

/-!
# Coherent outcomes

The fields of an outcome agree with each other, however it came about: what was not rolled is left
blank, and what was rolled adds up. Every outcome is a blank one with the rolls that were made for
it, so it is enough to know how the rolls relate.
-/

namespace Tabletop

/-! ## Rolls -/

/-- A test that adds up, against the threshold if there is one. -/
structure Test.AddsUp (test : Test) (threshold : Option Int) : Prop where
  total : test.total = test.face + test.modifier
  critical : test.critical = Critical.ofFace? test.face
  success : test.success = threshold.map fun threshold => decide (threshold ≤ test.total)

/-- A roll that does at least one point of damage or healing. -/
def Roll.Counts (roll : Roll) : Prop :=
  roll.total = max 1 (sumInts roll.faces + roll.modifier)

theorem Roll.counts_withBonus (roll : Roll) (bonus : Int) : (roll.withBonus bonus).Counts :=
  rfl

theorem Roll.Counts.pos {roll : Roll} (counts : roll.Counts) : 1 ≤ roll.total := by
  rw [counts]
  exact Int.le_max_left 1 _

theorem Critical.ofFace?_eq_success_iff (face : Int) :
    Critical.ofFace? face = some .success ↔ face = 20 := by
  rw [Critical.ofFace?]
  split
  · simp [*]
  · split <;> simp [*]

theorem Critical.ofFace?_eq_failure_iff (face : Int) :
    Critical.ofFace? face = some .failure ↔ face = 1 := by
  rw [Critical.ofFace?]
  split
  · simp [*]
  · split <;> simp [*]

theorem Test.isCritical_iff
    {test : Test} {threshold : Option Int} (adds : test.AddsUp threshold) :
    test.isCritical = true ↔ test.face = 20 := by
  rw [Test.isCritical, adds.critical, beq_iff_eq, Critical.ofFace?_eq_success_iff]

theorem Test.mayHit_iff
    {test : Test} {threshold : Option Int} (adds : test.AddsUp threshold) :
    test.mayHit = true ↔ test.success ≠ some false ∨ test.face = 20 := by
  rw [Test.mayHit, Bool.or_eq_true, Test.isCritical_iff adds, bne_iff_ne]

theorem Test.ensures_roll (bonus : Int) (threshold : Option Int) :
    (Test.roll bonus threshold).Ensures fun test => test.AddsUp threshold := by
  have adds :
      (rollD20 bonus).Ensures fun roll => roll.total = roll.faces.headD 0 + bonus :=
    Rolling.ensures_bind fun roll => Rolling.ensures_pure rfl
  exact adds.bind fun roll total => Rolling.ensures_pure ⟨total, rfl, rfl⟩

theorem ensures_rollDamage (pool : List Dice) (bonus : Int) (critical : Bool) :
    (rollDamage pool bonus critical).Ensures Roll.Counts :=
  Rolling.Ensures.map fun _ roll _ => roll.counts_withBonus bonus

theorem ensures_rollHealing (pool : List Dice) (bonus modifier : Int) :
    (rollHealing pool bonus modifier).Ensures Roll.Counts :=
  Rolling.Ensures.map fun _ roll _ => roll.counts_withBonus (bonus + modifier)

/-! ## Outcomes -/

namespace Outcome

/-- An outcome whose fields agree with each other. The threshold of its test is known if the test
was rolled. -/
structure Coherent (outcome : Outcome) (threshold : Except Fault (Option Int)) : Prop where
  unrolled : outcome.face = none →
    outcome.modifier = 0 ∧ outcome.total = 0 ∧ outcome.success = none ∧ outcome.critical = none
  rolled : ∀ face, outcome.face = some face →
    outcome.saveDifficulty = none ∧ outcome.total = face + outcome.modifier ∧
      (outcome.critical = some .success ↔ face = 20) ∧
      (outcome.critical = some .failure ↔ face = 1)
  judged : outcome.face ≠ none →
    ∃ known, threshold = .ok known ∧
      outcome.success = known.map fun known => decide (known ≤ outcome.total)
  unharmed : outcome.damage = none → outcome.damageFaces = [] ∧ outcome.damageBonus = 0
  harmed : ∀ damage, outcome.damage = some damage →
    damage = max 1 (sumInts outcome.damageFaces + outcome.damageBonus) ∧
      ∀ face, outcome.face = some face → outcome.success ≠ some false ∨ face = 20
  armed : outcome.weapon ≠ none →
    (outcome.damage = none ↔ outcome.success = some false ∧ outcome.face ≠ some 20)
  unhealed : outcome.healing = none → outcome.healingFaces = []
  healed : ∀ healing, outcome.healing = some healing → 1 ≤ healing

/-- An outcome for which nothing was rolled yet. -/
structure Blank (outcome : Outcome) : Prop where
  face : outcome.face = none
  modifier : outcome.modifier = 0
  total : outcome.total = 0
  success : outcome.success = none
  critical : outcome.critical = none
  damage : outcome.damage = none
  damageFaces : outcome.damageFaces = []
  damageBonus : outcome.damageBonus = 0
  healing : outcome.healing = none
  healingFaces : outcome.healingFaces = []

/-- An outcome with the test, the damage and the healing that were rolled for it, if they were. -/
def withRolls (outcome : Outcome) (test : Option Test) (harm relief : Option Roll) : Outcome :=
  let tested :=
    match test with
    | some test => outcome.withTest test
    | none => outcome
  let harmed := tested.withDamage harm
  match relief with
  | some roll => { harmed with healing := some roll.total, healingFaces := roll.faces }
  | none => harmed

/-- What was rolled fits together: damage only with a test that may hit, and a weapon does damage
just then. -/
structure FitTogether (outcome : Outcome) (test : Option Test) (harm relief : Option Roll)
    (threshold : Except Fault (Option Int)) : Prop where
  tested : ∀ rolled, test = some rolled →
    outcome.saveDifficulty = none ∧ ∃ known, threshold = .ok known ∧ rolled.AddsUp known
  harmed : ∀ roll, harm = some roll →
    roll.Counts ∧ ∀ rolled, test = some rolled → rolled.mayHit = true
  armed : outcome.weapon ≠ none →
    ∃ rolled, test = some rolled ∧ (rolled.mayHit = true → harm ≠ none)
  relieved : ∀ roll, relief = some roll → roll.Counts

theorem Blank.withRolls_eq
    {outcome : Outcome} (blank : outcome.Blank) (test : Option Test) (harm relief : Option Roll) :
    outcome.withRolls test harm relief =
      { outcome with
        face := test.map Test.face
        modifier := (test.map Test.modifier).getD 0
        total := (test.map Test.total).getD 0
        success := test.bind Test.success
        critical := test.bind Test.critical
        damage := harm.map Roll.total
        damageFaces := (harm.map Roll.faces).getD []
        damageBonus := (harm.map Roll.modifier).getD 0
        healing := relief.map Roll.total
        healingFaces := (relief.map Roll.faces).getD [] } := by
  cases outcome
  obtain ⟨rfl, rfl, rfl, rfl, rfl, rfl, rfl, rfl, rfl, rfl⟩ := blank
  cases test <;> cases harm <;> cases relief <;>
    rfl

theorem coherent_withRolls
    {outcome : Outcome} {test : Option Test} {harm relief : Option Roll}
    {threshold : Except Fault (Option Int)}
    (blank : outcome.Blank) (fit : outcome.FitTogether test harm relief threshold) :
    (outcome.withRolls test harm relief).Coherent threshold := by
  rw [blank.withRolls_eq]
  constructor
  case unrolled =>
    intro unrolled
    cases test with
    | none => exact ⟨rfl, rfl, rfl, rfl⟩
    | some rolled => cases unrolled
  case rolled =>
    intro face shown
    cases test with
    | none => cases shown
    | some rolled =>
        obtain ⟨noSave, known, -, adds⟩ := fit.tested rolled rfl
        cases shown
        have critical : (some rolled).bind Test.critical = Critical.ofFace? rolled.face :=
          adds.critical
        rw [critical]
        exact ⟨noSave, adds.total, Critical.ofFace?_eq_success_iff rolled.face,
          Critical.ofFace?_eq_failure_iff rolled.face⟩
  case judged =>
    intro isRolled
    cases test with
    | none => exact absurd rfl isRolled
    | some rolled =>
        obtain ⟨-, known, isKnown, adds⟩ := fit.tested rolled rfl
        exact ⟨known, isKnown, adds.success⟩
  case unharmed =>
    intro unharmed
    cases harm with
    | none => exact ⟨rfl, rfl⟩
    | some roll => cases unharmed
  case harmed =>
    intro damage done
    cases harm with
    | none => cases done
    | some roll =>
        obtain ⟨counts, mayHit⟩ := fit.harmed roll rfl
        cases done
        refine ⟨counts, fun face shown => ?_⟩
        cases test with
        | none => cases shown
        | some rolled =>
            obtain ⟨-, known, -, adds⟩ := fit.tested rolled rfl
            cases shown
            exact (Test.mayHit_iff adds).1 (mayHit rolled rfl)
  case armed =>
    intro isArmed
    obtain ⟨rolled, rfl, hits⟩ := fit.armed isArmed
    obtain ⟨-, known, -, adds⟩ := fit.tested rolled rfl
    have mayHit := Test.mayHit_iff adds
    cases harm with
    | none =>
        have missed : ¬rolled.mayHit = true := fun mayHit => hits mayHit rfl
        rw [mayHit, not_or, Decidable.not_not] at missed
        simpa using missed
    | some roll =>
        have hit := mayHit.1 ((fit.harmed roll rfl).2 rolled rfl)
        constructor
        · intro unharmed
          cases unharmed
        · rintro ⟨missed, notTwenty⟩
          rcases hit with notMissed | twenty
          · exact absurd missed notMissed
          · exact absurd (congrArg some twenty) notTwenty
  case unhealed =>
    intro unhealed
    cases relief with
    | none => rfl
    | some roll => cases unhealed
  case healed =>
    intro healing done
    cases relief with
    | none => cases done
    | some roll =>
        cases done
        exact (fit.relieved roll rfl).pos

/-- An outcome with a test, and with the damage that the test allows. -/
theorem coherent_of_test
    {outcome : Outcome} {test : Test} {harm : Option Roll} {threshold : Option Int}
    (blank : outcome.Blank) (noSave : outcome.saveDifficulty = none)
    (adds : test.AddsUp threshold)
    (harmed : ∀ roll, harm = some roll → roll.Counts ∧ test.mayHit = true)
    (armed : outcome.weapon ≠ none → test.mayHit = true → harm ≠ none) :
    ((outcome.withTest test).withDamage harm).Coherent (.ok threshold) := by
  have fit : outcome.FitTogether (some test) harm none (.ok threshold) := by
    constructor
    case tested =>
      rintro rolled ⟨⟩
      exact ⟨noSave, threshold, rfl, adds⟩
    case harmed =>
      intro roll rolled
      obtain ⟨counts, mayHit⟩ := harmed roll rolled
      refine ⟨counts, ?_⟩
      rintro rolled ⟨⟩
      exact mayHit
    case armed => exact fun isArmed => ⟨test, rfl, armed isArmed⟩
    case relieved => simp
  exact coherent_withRolls blank fit

end Outcome

/-! ## Checks and attacks -/

theorem CheckRequest.ensures_resolve
    (request : CheckRequest) (character : Character) (proficiency : Int) :
    (request.resolve character proficiency).Ensures fun outcome =>
      outcome.Coherent (.ok request.difficulty) := by
  rw [CheckRequest.resolve]
  generalize (Ability.governing? request.key).map Ability.name = ability
  refine (Test.ensures_roll _ _).bind fun test adds => Rolling.ensures_pure ?_
  let base : Outcome := {
    kind := request.kind
    description := request.description
    suggestion := request.suggestion
    ability := ability
    skill := request.skill
    notes := request.notes }
  have blank : base.Blank := ⟨rfl, rfl, rfl, rfl, rfl, rfl, rfl, rfl, rfl, rfl⟩
  have coherent : ((base.withTest test).withDamage none).Coherent (.ok request.difficulty) :=
    Outcome.coherent_of_test blank rfl adds (by simp) (by simp [base])
  exact coherent

theorem AttackRequest.ensures_rollFor
    (request : AttackRequest) (weapon : Weapon) (modifier : Int) (critical : Bool) :
    (request.rollFor weapon modifier critical).Ensures Roll.Counts := by
  rw [AttackRequest.rollFor]
  split
  · exact Rolling.ensures_bind fun dice => ensures_rollDamage [dice] 0 critical
  · exact ensures_rollDamage [weapon.damage.dice] modifier critical

/-- The roll of some work, if it has a value, is one that counts. -/
theorem ensures_some
    {work : Rolling Roll} (counts : work.Ensures Roll.Counts) :
    Rolling.Ensures (some <$> work) fun harm => ∃ roll, harm = some roll ∧ roll.Counts :=
  Rolling.Ensures.map fun tray roll done => ⟨roll, rfl, counts tray roll done⟩

theorem AttackRequest.ensures_resolve
    (request : AttackRequest) (compendium : Compendium) (texts : List (Option String))
    (character : Character) (proficiency : Int) :
    (request.resolve compendium texts character proficiency).Ensures fun outcome =>
      outcome.Coherent (.ok request.target) := by
  rw [AttackRequest.resolve]
  split
  rename_i weapon fallbackNotes _
  split
  rename_i ability modifier bonus _
  refine (Test.ensures_roll _ _).bind fun test adds => ?_
  let base : Outcome := {
    kind := request.kind
    description := request.description
    suggestion := request.suggestion
    ability := some ability.name
    weapon := some weapon.name
    damageType := some weapon.damage.type
    notes := request.notes ++ fallbackNotes }
  have blank : base.Blank := ⟨rfl, rfl, rfl, rfl, rfl, rfl, rfl, rfl, rfl, rfl⟩
  by_cases mayHit : test.mayHit = true
  · simp only [mayHit, if_true]
    refine (ensures_some (request.ensures_rollFor weapon modifier test.isCritical)).bind ?_
    rintro harm ⟨roll, rfl, counts⟩
    exact Rolling.ensures_pure
      (Outcome.coherent_of_test blank rfl adds (by simp [mayHit, counts]) (by simp))
  · simp only [mayHit]
    exact Rolling.ensures_pure
      (Outcome.coherent_of_test blank rfl adds (by simp) (by simp [mayHit]))

theorem ensures_resolveSpellAttack
    (suggestion : Suggestion) (character : Character) (proficiency : Int) (target : Option Int) :
    (resolveSpellAttack suggestion character proficiency target).Ensures fun outcome =>
      outcome.Coherent (.ok target) := by
  rw [resolveSpellAttack]
  generalize character.scores.bestSpellAbility = ability
  refine (Test.ensures_roll _ _).bind fun test adds => ?_
  let base : Outcome := {
    kind := .attackRoll
    description := suggestion.description
    suggestion := some suggestion
    ability := some ability.name }
  have blank : base.Blank := ⟨rfl, rfl, rfl, rfl, rfl, rfl, rfl, rfl, rfl, rfl⟩
  have missed : ((base.withTest test).withDamage none).Coherent (.ok target) :=
    Outcome.coherent_of_test blank rfl adds (by simp) (by simp [base])
  split
  · rename_i text _
    by_cases mayHit : test.mayHit = true
    · simp only [mayHit, if_true]
      refine Rolling.ensures_bind fun dice => ?_
      refine (ensures_some (ensures_rollDamage [dice] 0 test.isCritical)).bind ?_
      rintro harm ⟨roll, rfl, counts⟩
      exact Rolling.ensures_pure
        (Outcome.coherent_of_test blank rfl adds (by simp [mayHit, counts]) (by simp))
    · simp only [mayHit]
      exact Rolling.ensures_pure missed
  · exact Rolling.ensures_pure missed

/-! ## Spells -/

namespace CastRequest

variable (request : CastRequest)

/-- A test is rolled just for a spell that allows no saving throw. -/
theorem ensures_rollToHit (score proficiency : Int) :
    (request.rollToHit score proficiency).Ensures fun test =>
      ∀ rolled, test = some rolled →
        request.spell.savingThrow = none ∧ rolled.AddsUp request.target := by
  rw [rollToHit]
  by_cases needed : request.spell.needsAttackRoll = true
  · rw [if_pos needed]
    refine Rolling.Ensures.map fun tray test done => ?_
    rintro rolled ⟨⟩
    have noSave : request.spell.savingThrow = none := by
      simp only [Spell.needsAttackRoll, Bool.and_eq_true, Option.isNone_iff_eq_none] at needed
      exact needed.1.2
    exact ⟨noSave, Test.ensures_roll _ _ tray test done⟩
  · rw [if_neg needed]
    exact Rolling.ensures_pure (by simp)

theorem ensures_rollHarm (test : Option Test) (modifier level : Int) :
    (request.rollHarm test modifier level).Ensures fun harm =>
      ∀ roll, harm = some roll →
        roll.Counts ∧ ∀ rolled, test = some rolled → rolled.mayHit = true := by
  rw [rollHarm]
  split
  · split
    · rename_i mayHit
      refine Rolling.Ensures.map fun tray roll done => ?_
      rintro harm ⟨⟩
      refine ⟨ensures_rollDamage _ _ _ tray roll done, ?_⟩
      rintro rolled rfl
      exact mayHit
    · exact Rolling.ensures_pure (by simp)
  · exact Rolling.ensures_pure (by simp)

theorem ensures_rollRelief (modifier level : Int) :
    (request.rollRelief modifier level).Ensures fun relief =>
      ∀ roll, relief = some roll → roll.Counts := by
  rw [rollRelief]
  split
  · refine Rolling.Ensures.map fun tray roll done => ?_
    rintro relief ⟨⟩
    exact ensures_rollHealing _ _ _ tray roll done
  · exact Rolling.ensures_pure (by simp)

theorem blank_announced (score proficiency : Int) :
    (request.announced score proficiency).Blank := by
  rw [announced]
  cases request.spell.savingThrow <;>
    exact ⟨rfl, rfl, rfl, rfl, rfl, rfl, rfl, rfl, rfl, rfl⟩

theorem announced_weapon (score proficiency : Int) :
    (request.announced score proficiency).weapon = none := by
  rw [announced]
  cases request.spell.savingThrow <;>
    rfl

theorem announced_saveDifficulty
    (noSave : request.spell.savingThrow = none) (score proficiency : Int) :
    (request.announced score proficiency).saveDifficulty = none := by
  rw [announced, noSave]

theorem ensures_resolve (character : Character) (proficiency : Int) :
    (request.resolve character proficiency).Ensures fun outcome =>
      outcome.Coherent (.ok request.target) := by
  rw [resolve]
  refine (request.ensures_rollToHit _ _).bind fun test tested => ?_
  refine (request.ensures_rollHarm test _ _).bind fun harm harmed => ?_
  refine (request.ensures_rollRelief _ _).bind fun relief relieved => Rolling.ensures_pure ?_
  generalize character.scores.get request.spell.ability.toAbility = score
  have fit : (request.announced score proficiency).FitTogether
      test harm relief (.ok request.target) := by
    constructor
    case tested =>
      intro rolled isRolled
      obtain ⟨noSave, adds⟩ := tested rolled isRolled
      exact ⟨request.announced_saveDifficulty noSave score proficiency, request.target, rfl, adds⟩
    case harmed => exact harmed
    case armed => simp [request.announced_weapon]
    case relieved => exact relieved
  exact Outcome.coherent_withRolls (request.blank_announced score proficiency) fit

end CastRequest

/-! ## Suggestions and described actions -/

/-- The number that the total of a suggestion's test has to reach. -/
def Suggestion.threshold (suggestion : Suggestion) (options : Referee.Options) : Option Int :=
  match suggestion.kind with
  | .attack => options.armorClass.or suggestion.armorClass
  | .skill | .save => suggestion.difficulty

namespace Referee

variable (referee : Referee)

/-- The number that the total of a described action's test has to reach, as the text has it: an
armor class for spells and attacks, else a difficulty. -/
def thresholdIn (text : String) : Except Fault (Option Int) :=
  let casts := Wording.spellWord.occursIn text.toList &&
    (referee.compendium.findSpell? text).isSome
  if casts || Wording.weaponVerb.occursIn text.toList then
    Wording.numberIn Wording.armorClass text.toList
  else Wording.numberIn Wording.difficulty text.toList

theorem ensures_resolve (suggestion : Suggestion) (character : Character) (options : Options) :
    (referee.resolve suggestion character options).Ensures fun outcome =>
      outcome.Coherent (.ok (suggestion.threshold options)) := by
  rw [resolve, Suggestion.threshold]
  cases suggestion.kind with
  | attack =>
      by_cases casts : suggestion.mode = some "spell"
      · simp only [casts, if_true]
        exact ensures_resolveSpellAttack suggestion character _ _
      · simp only [casts, if_false]
        exact AttackRequest.ensures_resolve _ _ _ character _
  | skill => exact CheckRequest.ensures_resolve _ character _
  | save => exact CheckRequest.ensures_resolve _ character _

theorem ensures_resolveNamed
    (text : String) (character : Character) (proficiency : Int) (notes : List String) :
    (resolveNamed text character proficiency notes).Ensures fun outcome =>
      outcome.Coherent (Wording.numberIn Wording.difficulty text.toList) := by
  rw [resolveNamed]
  split
  · refine Rolling.ensures_pure ?_
    let unresolved : Outcome := {
      kind := .unresolved
      description := text
      notes := notes ++ ["No ability, skill, weapon or spell recognized"] }
    have blank : unresolved.Blank := ⟨rfl, rfl, rfl, rfl, rfl, rfl, rfl, rfl, rfl, rfl⟩
    have fit : unresolved.FitTogether none none none
        (Wording.numberIn Wording.difficulty text.toList) :=
      ⟨by simp, by simp, by simp [unresolved], by simp⟩
    exact Outcome.coherent_withRolls blank fit
  · refine (Rolling.ensures_lift fun known isKnown => isKnown).bind fun difficulty isKnown => ?_
    rw [isKnown]
    exact CheckRequest.ensures_resolve _ character proficiency

theorem ensures_resolveArmed
    (text : String) (character : Character) (proficiency : Int) (notes : List String) :
    (referee.resolveArmed text character proficiency notes).Ensures fun outcome =>
      outcome.Coherent
        (if Wording.weaponVerb.occursIn text.toList then
          Wording.numberIn Wording.armorClass text.toList
        else Wording.numberIn Wording.difficulty text.toList) := by
  rw [resolveArmed]
  split
  · refine (Rolling.ensures_lift fun known isKnown => isKnown).bind fun target isKnown => ?_
    rw [isKnown]
    exact AttackRequest.ensures_resolve _ _ _ character proficiency
  · exact ensures_resolveNamed text character proficiency notes

theorem ensures_resolveFree
    (text : String) (character : Character) (override : Option Int) :
    (referee.resolveFree text character override).Ensures fun outcome =>
      outcome.Coherent (referee.thresholdIn text) := by
  rw [resolveFree, thresholdIn]
  by_cases speaksOfSpell : Wording.spellWord.occursIn text.toList = true
  · simp only [speaksOfSpell, if_true, Bool.true_and]
    cases referee.compendium.findSpell? text with
    | none => exact referee.ensures_resolveArmed text character _ _
    | some spell =>
        refine Rolling.ensures_bind fun slot => ?_
        refine (Rolling.ensures_lift fun known isKnown => isKnown).bind fun target isKnown => ?_
        simp only [Option.isSome_some, Bool.true_or, if_true]
        rw [isKnown]
        exact CastRequest.ensures_resolve _ character _
  · simp only [speaksOfSpell, Bool.false_and, Bool.false_or]
    exact referee.ensures_resolveArmed text character _ _

end Referee

/-- All outcomes are coherent, those of suggestions and those of described actions. -/
theorem outcomes_cohere
    (referee : Referee) (character : Character) (tray : Tray) (outcome : Outcome) :
    (∀ suggestion options,
      (referee.resolve suggestion character options tray).1 = .ok outcome →
        outcome.Coherent (.ok (suggestion.threshold options))) ∧
    (∀ text override,
      (referee.resolveFree text character override tray).1 = .ok outcome →
        outcome.Coherent (referee.thresholdIn text)) := by
  constructor
  · intro suggestion options done
    exact referee.ensures_resolve suggestion character options tray outcome done
  · intro text override done
    exact referee.ensures_resolveFree text character override tray outcome done

/-- A longsword swung with draws of one half. -/
theorem outcomes_cohere_for_a_longsword :
    ∃ outcome,
      (Referee.resolveFree ⟨Compendium.standard, {}⟩ "I attack with my longsword vs AC 12" {} none
        ⟨Source.ofList [], 0⟩).1 = .ok outcome ∧
      outcome.Coherent
        (Referee.thresholdIn ⟨Compendium.standard, {}⟩ "I attack with my longsword vs AC 12") := by
  have isSome :
      (Referee.resolveFree ⟨Compendium.standard, {}⟩ "I attack with my longsword vs AC 12" {} none
        ⟨Source.ofList [], 0⟩).1.toOption.isSome = true := by
    decide +kernel
  obtain ⟨outcome, done⟩ := exists_of_isSome_toOption isSome
  exact ⟨outcome, done, (outcomes_cohere _ _ _ outcome).2 _ _ done⟩

end Tabletop
