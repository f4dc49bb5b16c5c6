import Tabletop.Proofs.Dice.Pools
import Tabletop.Proofs.Outcome.Account
import Tabletop.Proofs.Outcome.Stages

/-!
# Spells that grow

A spell rolls its base dice, more for each slot level above its own and, if it is a cantrip, more
for each step of its caster. The number of dice and the modifier of a roll grow by the same rule,
which is a sum over the pool. An outcome shows both, the dice twice after a twenty, so a higher slot
or a higher level never takes dice away.
-/

namespace Tabletop

/-! ## Sums over pools -/

namespace Spell

variable {measure : Dice → Int}

/-- What a spell rolls in a slot by some measure of dice, such as their number: that of its base
dice, that of the dice gained for each slot level above its own and, for a cantrip, that of the dice
gained at levels 5, 11 and 17 of the caster. -/
def grown (spell : Spell) (measure : Dice → Int) (base : Dice) (scaling : Option Scaling)
    (slot casterLevel : Int) : Int :=
  let gained (dice : Option Dice) : Int := (dice.map measure).getD 0
  let steps : Int := ([5, 11, 17] : List Int).countP (· ≤ casterLevel)
  measure base + gained (scaling.bind Scaling.perSlot) * (slot - spell.level.value) +
    (if spell.level.value = 0 then gained (scaling.bind Scaling.perStep) * steps else 0)

section Sums

variable
  (multiplies : ∀ dice times positive,
    measure (Dice.repeated dice times positive) = measure dice * times)

include multiplies in
theorem sumInts_map_extraDice {times : Int} (nonnegative : 0 ≤ times) (gained : Option Dice) :
    sumInts ((extraDice gained times).map measure) = (gained.map measure).getD 0 * times := by
  cases gained with
  | none => simp [extraDice]
  | some dice =>
      rw [extraDice]
      by_cases positive : 0 < times
      · rw [dif_pos positive, List.map_singleton, sumInts_cons, multiplies,
          Int.toNat_of_nonneg nonnegative]
        simp
      · have zero : times = 0 := by omega
        simp [zero]

include multiplies in
theorem sumInts_map_poolAt
    {spell : Spell} {slot : Int} (above : spell.level.value ≤ slot)
    (base : Dice) (scaling : Option Scaling) (casterLevel : Int) :
    sumInts ((spell.poolAt base scaling slot casterLevel).map measure) =
      spell.grown measure base scaling slot casterLevel := by
  cases scaling with
  | none => simp [poolAt, grown]
  | some scaling =>
      have slots := sumInts_map_extraDice multiplies (Int.sub_nonneg_of_le above) scaling.perSlot
      have steps := sumInts_map_extraDice multiplies
        (Int.natCast_nonneg (cantripSteps casterLevel)) scaling.perStep
      rw [poolAt, List.map_cons, List.map_append, sumInts_cons, sumInts_append, slots, grown]
      by_cases isCantrip : spell.level.value = 0
      · have flag : spell.isCantrip = true := beq_iff_eq.2 isCantrip
        rw [if_pos flag, if_pos isCantrip, steps, ← Int.add_assoc]
        rfl
      · have flag : ¬spell.isCantrip = true := fun is => isCantrip (beq_iff_eq.1 is)
        rw [if_neg flag, if_neg isCantrip, ← Int.add_assoc]
        rfl

end Sums

/-- A higher slot and a higher caster have at least as much by a measure that is never negative. -/
theorem grown_le_grown
    (nonnegative : ∀ dice, 0 ≤ measure dice) (spell : Spell) (base : Dice)
    (scaling : Option Scaling) {slot higherSlot casterLevel higherLevel : Int}
    (slotRises : slot ≤ higherSlot) (levelRises : casterLevel ≤ higherLevel) :
    spell.grown measure base scaling slot casterLevel ≤
      spell.grown measure base scaling higherSlot higherLevel := by
  have gained : ∀ dice : Option Dice, 0 ≤ (dice.map measure).getD 0 := by
    intro dice
    cases dice with
    | none => exact Int.le_refl 0
    | some dice => exact nonnegative dice
  have slots := Int.mul_le_mul_of_nonneg_left
    (Int.sub_le_sub_right slotRises spell.level.value) (gained (scaling.bind Scaling.perSlot))
  have moreSteps : ([5, 11, 17] : List Int).countP (· ≤ casterLevel) ≤
      ([5, 11, 17] : List Int).countP (· ≤ higherLevel) :=
    List.countP_mono_left fun step _ reached =>
      decide_eq_true (Int.le_trans (of_decide_eq_true reached) levelRises)
  have steps := Int.mul_le_mul_of_nonneg_left
    (Int.ofNat_le.2 moreSteps) (gained (scaling.bind Scaling.perStep))
  simp only [grown]
  split
  · exact Int.add_le_add (Int.add_le_add_left slots _) steps
  · exact Int.add_le_add_right (Int.add_le_add_left slots _) _

theorem level_le_slotFor (spell : Spell) (asked : Option Int) :
    spell.level.value ≤ spell.slotFor asked := by
  have level := spell.level.le_nine
  cases asked with
  | none => exact Int.le_refl _
  | some slot =>
      simp only [slotFor, highestSlot]
      omega

end Spell

/-- A roll is a critical success just with a twenty. -/
theorem Outcome.Coherent.critical_iff
    {outcome : Outcome} {threshold : Except Fault (Option Int)}
    (coherent : outcome.Coherent threshold) :
    outcome.critical = some .success ↔ outcome.face = some 20 := by
  cases shown : outcome.face with
  | none => simp [(coherent.unrolled shown).2.2.2]
  | some face => simp [(coherent.rolled face shown).2.2.1]

theorem Faces.length_eq
    {draws : List Draw} {sides faces : List Int} (rolled : Faces draws sides faces) :
    faces.length = sides.length := by
  induction rolled with
  | nothing => rfl
  | next _ _ inductionHypothesis => exact congrArg Nat.succ inductionHypothesis

/-! ## Modifiers of rolls -/

theorem ensures_rollPool_modifier (pool : List Dice) (twice : Bool) :
    (rollPool pool twice).Ensures fun roll => roll.modifier = sumInts (pool.map Dice.modifier) :=
  Rolling.ensures_bind fun _ => Rolling.ensures_bind fun _ => Rolling.ensures_pure rfl

theorem ensures_rollDamage_modifier (pool : List Dice) (bonus : Int) (critical : Bool) :
    (rollDamage pool bonus critical).Ensures fun roll =>
      roll.modifier = sumInts (pool.map Dice.modifier) + bonus :=
  Rolling.Ensures.map fun tray roll done =>
    congrArg (· + bonus) (ensures_rollPool_modifier pool critical tray roll done)

theorem ensures_rollHealing_modifier (pool : List Dice) (bonus modifier : Int) :
    (rollHealing pool bonus modifier).Ensures fun roll =>
      roll.modifier = sumInts (pool.map Dice.modifier) + (bonus + modifier) :=
  Rolling.Ensures.map fun tray roll done =>
    congrArg (· + (bonus + modifier)) (ensures_rollPool_modifier pool false tray roll done)

namespace CastRequest

variable (request : CastRequest)

theorem level_le_slotTaken : request.spell.level.value ≤ request.slotTaken :=
  request.spell.level_le_slotFor request.slot

/-- The modifier of what a spell rolls at a level of its caster. -/
theorem sumInts_modifier_poolAt (base : Dice) (scaling : Option Scaling) (level : Int) :
    sumInts ((request.spell.poolAt base scaling request.slotTaken level).map Dice.modifier) =
      request.spell.grown Dice.modifier base scaling request.slotTaken level :=
  Spell.sumInts_map_poolAt (fun _ _ _ => rfl) request.level_le_slotTaken _ _ _

/-- The number of faces of what a spell rolls at a level of its caster. -/
theorem length_poolSides_poolAt
    (twice : Bool) (base : Dice) (scaling : Option Scaling) (level : Int) :
    ((poolSides twice (request.spell.poolAt base scaling request.slotTaken level)).length : Int) =
      (if twice then 2 else 1) *
        request.spell.grown (fun dice => dice.count) base scaling request.slotTaken level := by
  rw [length_poolSides, Spell.sumInts_map_poolAt _ request.level_le_slotTaken]
  intro dice times positive
  exact Int.natCast_mul dice.count times

theorem ensures_rollHarm_modifier (test : Option Test) (modifier level : Int) :
    (request.rollHarm test modifier level).Ensures fun harm =>
      ∀ roll, harm = some roll → ∃ damage, request.spell.damage = some damage ∧
        roll.modifier =
          request.spell.grown Dice.modifier damage.dice damage.scaling request.slotTaken level +
            (if damage.addsModifier then modifier else 0) := by
  rw [rollHarm]
  cases request.spell.damage with
  | none => exact Rolling.ensures_pure (by simp)
  | some damage =>
      simp only
      split
      · refine Rolling.Ensures.map fun tray roll done => ?_
        rintro harm ⟨⟩
        refine ⟨damage, rfl, ?_⟩
        rw [ensures_rollDamage_modifier _ _ _ tray roll done, sumInts_modifier_poolAt]
      · exact Rolling.ensures_pure (by simp)

theorem ensures_rollRelief_modifier (modifier level : Int) :
    (request.rollRelief modifier level).Ensures fun relief =>
      (request.spell.healing = none → relief = none) ∧
        ∀ healing, request.spell.healing = some healing → ∃ roll, relief = some roll ∧
          roll.Counts ∧ roll.modifier =
            request.spell.grown Dice.modifier healing.dice healing.scaling request.slotTaken level +
              (healing.bonus + modifier) := by
  rw [rollRelief]
  cases request.spell.healing with
  | none => exact Rolling.ensures_pure (by simp)
  | some healing =>
      refine Rolling.Ensures.map fun tray roll done => ⟨by simp, ?_⟩
      rintro _ ⟨⟩
      refine ⟨roll, rfl, ensures_rollHealing _ _ _ tray roll done, ?_⟩
      rw [ensures_rollHealing_modifier _ _ _ tray roll done, sumInts_modifier_poolAt]

end CastRequest

/-! ## Outcomes -/

namespace CastRequest

/-- How the numbers of an outcome follow from the spell that was cast, its slot, the score of the
caster and the caster's level. -/
structure Grows (request : CastRequest) (score level : Int) (outcome : Outcome) : Prop where
  slot : outcome.slot = some request.slotTaken
  asked : request.slotTaken =
    match request.slot with
    | none => (request.spell.level.value : Int)
    | some asked => min (max asked request.spell.level.value) 9
  harmed : outcome.damage ≠ none → ∃ damage, request.spell.damage = some damage ∧
    outcome.damageFaces.length = (if outcome.face = some 20 then 2 else 1) *
      request.spell.grown (fun dice => dice.count) damage.dice damage.scaling
        request.slotTaken level ∧
    outcome.damageBonus =
      request.spell.grown Dice.modifier damage.dice damage.scaling request.slotTaken level +
        (if damage.addsModifier then scoreModifier score else 0)
  relieved : ∀ healing, request.spell.healing = some healing →
    outcome.healingFaces.length =
      request.spell.grown (fun dice => dice.count) healing.dice healing.scaling
        request.slotTaken level ∧
    outcome.healing = some (max 1 (sumInts outcome.healingFaces +
      request.spell.grown Dice.modifier healing.dice healing.scaling request.slotTaken level +
        healing.bonus + scoreModifier score))
  unrelieved : request.spell.healing = none → outcome.healing = none ∧ outcome.healingFaces = []

variable (request : CastRequest)

theorem announced_slot (score proficiency : Int) :
    (request.announced score proficiency).slot = some request.slotTaken := by
  rw [announced]
  cases request.spell.savingThrow <;> rfl

/-- The bonus of the damage and the amount of the healing. -/
theorem ensures_bonuses (character : Character) (proficiency : Int) :
    (request.resolve character proficiency).Ensures fun outcome =>
      let modifier := scoreModifier (character.scores.get request.spell.ability.toAbility)
      (outcome.damage ≠ none → ∃ damage, request.spell.damage = some damage ∧
        outcome.damageBonus =
          request.spell.grown Dice.modifier damage.dice damage.scaling request.slotTaken
              character.level.value +
            (if damage.addsModifier then modifier else 0)) ∧
      (request.spell.healing = none → outcome.healing = none) ∧
      ∀ healing, request.spell.healing = some healing →
        outcome.healing = some (max 1 (sumInts outcome.healingFaces +
          (request.spell.grown Dice.modifier healing.dice healing.scaling request.slotTaken
              character.level.value +
            (healing.bonus + modifier)))) := by
  rw [resolve_eq]
  refine Rolling.ensures_bind fun test => ?_
  refine (request.ensures_rollHarm_modifier test _ _).bind fun harm harmed => ?_
  refine (request.ensures_rollRelief_modifier _ _).bind fun relief relieved =>
    Rolling.ensures_pure ?_
  rw [(request.blank_announced _ proficiency).withRolls_eq]
  obtain ⟨unrelieved, relieved⟩ := relieved
  refine ⟨fun isHarmed => ?_, fun noHealing => ?_, fun healing heals => ?_⟩
  · cases harm with
    | none => exact absurd rfl isHarmed
    | some roll => exact harmed roll rfl
  · rw [unrelieved noHealing]
    rfl
  · obtain ⟨roll, rfl, counts, modifier⟩ := relieved healing heals
    rw [← modifier]
    exact congrArg some counts

theorem ensures_grows (character : Character) (proficiency : Int) :
    (request.resolve character proficiency).Ensures
      (request.Grows (character.scores.get request.spell.ability.toAbility)
        character.level.value) := by
  intro tray outcome done
  obtain ⟨bonus, unhealed, healed⟩ :=
    request.ensures_bonuses character proficiency tray outcome done
  obtain ⟨draws, -, tested, harmed, relieved, -, -, harmFaces, reliefFaces⟩ :=
    request.accounts_resolve character proficiency tray outcome done
  have coherent := request.ensures_resolve character proficiency tray outcome done
  have unrolled := request.ensures_unrolled character proficiency tray outcome done
  have twice : (outcome.critical == some .success) = true ↔ outcome.face = some 20 := by
    rw [beq_iff_eq]
    exact coherent.critical_iff
  constructor
  case slot => exact (congrArg Outcome.slot unrolled).trans (request.announced_slot _ proficiency)
  case asked =>
    rw [slotTaken]
    cases request.slot <;> rfl
  case harmed =>
    intro isHarmed
    obtain ⟨damage, does, isBonus⟩ := bonus isHarmed
    refine ⟨damage, does, ?_, isBonus⟩
    rw [if_pos (Option.isSome_iff_ne_none.2 isHarmed), Spell.poolsAt, does] at harmFaces
    rw [harmFaces.length_eq, length_poolSides_poolAt]
    simp only [twice]
  case relieved =>
    intro healing heals
    have isHealing := healed healing heals
    have isHealed : outcome.healing.isSome = true := by rw [isHealing, Option.isSome_some]
    rw [if_pos isHealed, Spell.poolsAt, heals] at reliefFaces
    refine ⟨?_, ?_⟩
    · rw [reliefFaces.length_eq, length_poolSides_poolAt, if_neg Bool.false_ne_true, Int.one_mul]
    · rw [isHealing, Int.add_assoc, Int.add_assoc]
  case unrelieved =>
    intro noHealing
    exact ⟨unhealed noHealing, coherent.unhealed (unhealed noHealing)⟩

section Comparison

variable {request higher : CastRequest} {score otherScore level higherLevel : Int}
  {outcome better : Outcome}

theorem Grows.length_damageFaces_le
    (grows : request.Grows score level outcome)
    (growsHigher : higher.Grows otherScore higherLevel better)
    (same : higher.spell = request.spell) (slotRises : request.slotTaken ≤ higher.slotTaken)
    (levelRises : level ≤ higherLevel)
    (isHarmed : outcome.damage ≠ none) (isBetterHarmed : better.damage ≠ none)
    (alike : outcome.face = some 20 ↔ better.face = some 20) :
    outcome.damageFaces.length ≤ better.damageFaces.length := by
  obtain ⟨damage, does, faces, -⟩ := grows.harmed isHarmed
  obtain ⟨others, doesOthers, betterFaces, -⟩ := growsHigher.harmed isBetterHarmed
  rw [same, does] at doesOthers
  obtain rfl := Option.some.inj doesOthers
  have moreDice := Spell.grown_le_grown (fun dice => Int.natCast_nonneg dice.count) request.spell
    damage.dice damage.scaling slotRises levelRises
  apply Int.ofNat_le.1
  rw [faces, betterFaces, same]
  simp only [alike]
  exact Int.mul_le_mul_of_nonneg_left moreDice (by split <;> decide)

theorem Grows.length_healingFaces_le
    (grows : request.Grows score level outcome)
    (growsHigher : higher.Grows otherScore higherLevel better)
    (same : higher.spell = request.spell) (slotRises : request.slotTaken ≤ higher.slotTaken)
    (levelRises : level ≤ higherLevel) :
    outcome.healingFaces.length ≤ better.healingFaces.length := by
  cases heals : request.spell.healing with
  | none =>
      rw [(grows.unrelieved heals).2]
      exact Nat.zero_le _
  | some healing =>
      have moreDice := Spell.grown_le_grown (fun dice => Int.natCast_nonneg dice.count)
        request.spell healing.dice healing.scaling slotRises levelRises
      have healsHigher : higher.spell.healing = some healing := by rw [same, heals]
      apply Int.ofNat_le.1
      rw [(grows.relieved healing heals).1, (growsHigher.relieved healing healsHigher).1, same]
      exact moreDice

end Comparison

end CastRequest

/-- A spell is cast in the slot that was asked for, within the limits of the spell and of slots, and
shows as many dice and as great a modifier as the slot and the level of its caster give it. The same
spell in a slot no lower by a caster of no lower level shows no fewer dice, be it of damage, after a
twenty in both cases or in neither, or of healing. -/
theorem cast_spells_grow
    (request : CastRequest) (character : Character) (proficiency : Int) (tray : Tray)
    (outcome : Outcome) (done : (request.resolve character proficiency tray).1 = .ok outcome) :
    request.Grows (character.scores.get request.spell.ability.toAbility) character.level.value
        outcome ∧
      ∀ (higher : CastRequest) (veteran : Character) (theirs : Int) (theirTray : Tray)
        (better : Outcome), (higher.resolve veteran theirs theirTray).1 = .ok better →
        higher.spell = request.spell → request.slotTaken ≤ higher.slotTaken →
        character.level.value ≤ veteran.level.value →
          (outcome.damage ≠ none → better.damage ≠ none →
            (outcome.face = some 20 ↔ better.face = some 20) →
            outcome.damageFaces.length ≤ better.damageFaces.length) ∧
          outcome.healingFaces.length ≤ better.healingFaces.length := by
  have grows := request.ensures_grows character proficiency tray outcome done
  refine ⟨grows, ?_⟩
  intro higher veteran theirs theirTray better theirsDone same slotRises levelRises
  have growsHigher := higher.ensures_grows veteran theirs theirTray better theirsDone
  exact ⟨grows.length_damageFaces_le growsHigher same slotRises levelRises,
    grows.length_healingFaces_le growsHigher same slotRises levelRises⟩

/-- A cantrip that gains dice by slots and by levels: two dice after a twenty in its own slot, and
twice five by a caster of the fifth level in the second. -/
theorem cast_spells_grow_for_a_cantrip :
    let harm : SpellDamage := {
      dice := Dice.of 1 8 (-1)
      type := "cold"
      scaling := some { perSlot := some (Dice.of 1 6 1), perStep := some (Dice.of 2 4 (-2)) }
      addsModifier := true }
    let relief : SpellHealing := { dice := Dice.of 3 4, bonus := -20 }
    let spell : Spell := { name := "Frost", damage := some harm, healing := some relief }
    let plain : CastRequest := ⟨spell, "", none, none⟩
    let higher : CastRequest := ⟨spell, "", some 2, none⟩
    let veteran : Character := { level := ⟨5, by decide, by decide⟩ }
    let tray : Tray := ⟨Source.ofList [.finite false 31 (-5), .finite false 1 (-1)], 0⟩
    ∃ outcome better,
      (plain.resolve {} 2 tray).1 = .ok outcome ∧ (higher.resolve veteran 3 tray).1 = .ok better ∧
        plain.Grows 10 1 outcome ∧ higher.spell = plain.spell ∧
        plain.slotTaken ≤ higher.slotTaken ∧ (1 : Int) ≤ veteran.level.value ∧
        outcome.damageFaces.length ≤ better.damageFaces.length ∧
        outcome.damageFaces.length = 2 ∧ better.damageFaces.length = 10 ∧
        better.damageBonus = -1 ∧ better.healing = some 1 := by
  intro harm relief spell plain higher veteran tray
  have shown :
      (plain.resolve {} 2 tray).1.toOption.map (fun outcome =>
        (outcome.face, outcome.damage.isSome, outcome.damageFaces.length)) =
          some (some 20, true, 2) := by
    decide +kernel
  have shownHigher :
      (higher.resolve veteran 3 tray).1.toOption.map (fun better =>
        (better.face, better.damage.isSome, better.damageFaces.length, better.damageBonus,
          better.healing)) =
            some (some 20, true, 10, -1, some 1) := by
    decide +kernel
  have isSome : (plain.resolve {} 2 tray).1.toOption.isSome = true := by
    rw [← Option.isSome_map, shown, Option.isSome_some]
  have isSomeHigher : (higher.resolve veteran 3 tray).1.toOption.isSome = true := by
    rw [← Option.isSome_map, shownHigher, Option.isSome_some]
  obtain ⟨outcome, done⟩ := exists_of_isSome_toOption isSome
  obtain ⟨better, doneHigher⟩ := exists_of_isSome_toOption isSomeHigher
  rw [done] at shown
  rw [doneHigher] at shownHigher
  simp only [Except.toOption, Option.map_some, Option.some.injEq, Prod.mk.injEq]
    at shown shownHigher
  obtain ⟨face, isHarmed, faces⟩ := shown
  obtain ⟨betterFace, isBetterHarmed, betterFaces, bonus, healing⟩ := shownHigher
  have slotRises : plain.slotTaken ≤ higher.slotTaken := by decide
  have levelRises : (1 : Int) ≤ veteran.level.value := by decide
  obtain ⟨grows, comparison⟩ := cast_spells_grow plain {} 2 tray outcome done
  have fewer := (comparison higher veteran 3 tray better doneHigher rfl slotRises levelRises).1
    (Option.isSome_iff_ne_none.1 isHarmed) (Option.isSome_iff_ne_none.1 isBetterHarmed)
    (iff_of_true face betterFace)
  exact ⟨outcome, better, done, doneHigher, grows, rfl, slotRises, levelRises, fewer, faces,
    betterFaces, bonus, healing⟩

end Tabletop
