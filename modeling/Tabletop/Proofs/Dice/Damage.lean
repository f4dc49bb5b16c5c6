import Tabletop.Casting
import Tabletop.Proofs.Dice.Pools
import Tabletop.Proofs.Draw.Faces

/-!
# The range of damage

Damage that is rolled with a pool shows one face for each die of the pool, two after a critical
success, and adds all modifiers once. It lies between what it comes to if all dice show a one and
what it comes to if they show their highest faces, which is one at least in either case. The least
damage can be rolled unless a die has too many sides for the binary format; the greatest can if
each die has a draw for its highest face. A roll of healing is one of damage without a critical
success.
-/

namespace Tabletop

open Rolling

/-! ## Faces in range -/

/-- Faces that dice with these sides may show. -/
def InRange (sides faces : List Int) : Prop :=
  List.Forall₂ (fun face die => 1 ≤ face ∧ face ≤ die) faces sides

section InRange

variable {sides faces : List Int}

theorem InRange.length_eq (inRange : InRange sides faces) : faces.length = sides.length :=
  List.Forall₂.length_eq inRange

theorem InRange.length_le_sum (inRange : InRange sides faces) :
    (faces.length : Int) ≤ sumInts faces := by
  induction inRange with
  | nil => exact Int.le_refl 0
  | cons shown _ inductionHypothesis =>
      rw [List.length_cons, sumInts_cons, Nat.cast_succ]
      omega

theorem InRange.sum_le_sum (inRange : InRange sides faces) : sumInts faces ≤ sumInts sides := by
  induction inRange with
  | nil => exact Int.le_refl 0
  | cons shown _ inductionHypothesis =>
      rw [sumInts_cons, sumInts_cons]
      omega

/-- Only the highest faces have the greatest sum. -/
theorem InRange.eq_of_sum_eq (inRange : InRange sides faces)
    (same : sumInts faces = sumInts sides) : faces = sides := by
  induction inRange with
  | nil => rfl
  | cons shown others inductionHypothesis =>
      rw [sumInts_cons, sumInts_cons] at same
      have rest := InRange.sum_le_sum others
      rw [inductionHypothesis (by omega)]
      congr 1
      omega

theorem inRange_map {f : Int → Int} (within : ∀ die ∈ sides, 1 ≤ f die ∧ f die ≤ die) :
    InRange sides (sides.map f) :=
  List.forall₂_map_left_iff.2 (List.forall₂_same.2 within)

theorem sumInts_of_ones (ones : ∀ face ∈ faces, face = 1) : sumInts faces = faces.length := by
  induction faces with
  | nil => rfl
  | cons face rest inductionHypothesis =>
      have later := inductionHypothesis
        fun other member => ones other (List.mem_cons_of_mem face member)
      rw [sumInts_cons, later, ones face (by simp), List.length_cons, Nat.cast_succ, Int.add_comm]

end InRange

/-! ## Sides of a pool -/

section PoolSides

variable {twice : Bool} {pool : List Dice}

theorem mem_poolSides_iff {die : Int} :
    die ∈ poolSides twice pool ↔ ∃ dice ∈ pool, die = dice.sides := by
  rw [poolSides, List.mem_flatMap]
  refine exists_congr fun dice => and_congr_right fun _ => ?_
  have some : dice.count ≠ 0 := dice.count_pos.ne'
  cases twice <;> simp [Dice.sidesRolled, some]

theorem pos_of_mem_poolSides {die : Int} (member : die ∈ poolSides twice pool) : 0 < die := by
  obtain ⟨dice, -, rfl⟩ := mem_poolSides_iff.1 member
  have := dice.sides_pos
  omega

theorem sumInts_poolSides (twice : Bool) (pool : List Dice) :
    sumInts (poolSides twice pool) =
      (if twice then 2 else 1) *
        sumInts (pool.map fun dice => (dice.count * dice.sides : Int)) := by
  have sum := sumInts_map_poolSides id twice pool
  rwa [List.map_id] at sum

end PoolSides

/-! ## Trays for given faces -/

/-- A sequence hands out the draws that stand in it from its position on. -/
theorem handsOut_sequence (passed draws : List Draw) (taken : Nat) :
    ∃ after, Tray.HandsOut
      ⟨.sequence (fun position => (passed ++ draws).getD position Source.half) passed.length, taken⟩
      draws after := by
  induction draws generalizing passed taken with
  | nil => exact ⟨_, Tray.HandsOut.nothing _⟩
  | cons draw rest inductionHypothesis =>
      obtain ⟨after, handsOut⟩ := inductionHypothesis (passed ++ [draw]) (taken + 1)
      rw [List.append_assoc, List.singleton_append, List.length_append, List.length_singleton]
        at handsOut
      have first : (passed ++ draw :: rest).getD passed.length Source.half = draw := by simp
      refine ⟨after, ?_⟩
      nth_rewrite 2 [← first]
      exact Tray.HandsOut.next handsOut

/-- Faces that some draws give are shown by some tray. -/
theorem exists_shows
    {sides : List Int} {f : Int → Int}
    (can : ∀ die ∈ sides, ∃ draw : Draw, draw.face die = .ok (f die)) :
    ∃ tray after : Tray, tray.Shows sides (sides.map f) after := by
  have made : ∃ draws, Faces draws sides (sides.map f) := by
    induction sides with
    | nil => exact ⟨[], Faces.nothing⟩
    | cons die rest inductionHypothesis =>
        obtain ⟨draw, isFace⟩ := can die (by simp)
        obtain ⟨draws, others⟩ := inductionHypothesis
          fun other member => can other (List.mem_cons_of_mem die member)
        exact ⟨draw :: draws, Faces.next isFace others⟩
  obtain ⟨draws, makes⟩ := made
  obtain ⟨after, handsOut⟩ := handsOut_sequence [] draws 0
  exact ⟨_, after, draws, handsOut, makes⟩

/-- Each face is made by a draw. -/
theorem Faces.forall₂
    {draws : List Draw} {sides faces : List Int} (makes : Faces draws sides faces) :
    List.Forall₂ (fun face die => ∃ draw : Draw, draw.face die = .ok face) faces sides := by
  induction makes with
  | nothing => exact List.Forall₂.nil
  | next isFace _ inductionHypothesis =>
      exact List.Forall₂.cons ⟨_, isFace⟩ inductionHypothesis

/-- Dice that show faces fit the format. -/
theorem Faces.fits
    {draws : List Draw} {sides faces : List Int} (makes : Faces draws sides faces) :
    ∀ die ∈ sides, FitsBinary die := by
  induction makes with
  | nothing => simp
  | @next draw _ die face _ _ isFace _ inductionHypothesis =>
      intro other member
      rcases List.mem_cons.1 member with rfl | member
      · by_contra tooMany
        rw [Draw.face_of_not_fits tooMany] at isFace
        cases isFace
      · exact inductionHypothesis other member

/-! ## Damage -/

/-- What is added to the faces of damage, once. -/
def damageModifier (pool : List Dice) (bonus : Int) : Int :=
  sumInts (pool.map Dice.modifier) + bonus

/-- The number of faces that damage shows. -/
def damageDice (pool : List Dice) (critical : Bool) : Int :=
  (if critical then 2 else 1) * sumInts (pool.map fun dice => (dice.count : Int))

/-- The sum of the highest faces that damage may show. -/
def damageSides (pool : List Dice) (critical : Bool) : Int :=
  (if critical then 2 else 1) * sumInts (pool.map fun dice => (dice.count * dice.sides : Int))

/-- The least damage: all dice show a one. -/
def leastDamage (pool : List Dice) (bonus : Int) (critical : Bool) : Int :=
  max 1 (damageDice pool critical + damageModifier pool bonus)

/-- The greatest damage: all dice show their highest faces. -/
def greatestDamage (pool : List Dice) (bonus : Int) (critical : Bool) : Int :=
  max 1 (damageSides pool critical + damageModifier pool bonus)

/-- What a roll of damage with a pool is like. -/
structure Roll.IsDamage (roll : Roll) (pool : List Dice) (bonus : Int) (critical : Bool) :
    Prop where
  count : roll.faces.length = damageDice pool critical
  inRange : InRange (poolSides critical pool) roll.faces
  modifier : roll.modifier = damageModifier pool bonus
  total : roll.total = max 1 (sumInts roll.faces + roll.modifier)
  atLeast : leastDamage pool bonus critical ≤ roll.total
  atMost : roll.total ≤ greatestDamage pool bonus critical
  lowest : (∀ face ∈ roll.faces, face = 1) → roll.total = leastDamage pool bonus critical
  highest : roll.faces = poolSides critical pool →
    roll.total = greatestDamage pool bonus critical

/-- Damage comes to a total on some tray, with faces in range. -/
def DamageReaches (pool : List Dice) (bonus : Int) (critical : Bool) (total : Int) : Prop :=
  ∃ (tray : Tray) (roll : Roll),
    (rollDamage pool bonus critical tray).1 = .ok roll ∧
      InRange (poolSides critical pool) roll.faces ∧ roll.total = total

/-- Some draw gives the highest face of the dice of an expression. -/
def Dice.ReachesHighest (dice : Dice) : Prop :=
  ∃ draw : Draw, draw.face dice.sides = .ok (dice.sides : Int)

theorem Dice.reachesHighest_of_le {dice : Dice} (few : dice.sides ≤ 2 ^ 53) :
    dice.ReachesHighest := by
  have positive : (0 : Int) < dice.sides := Int.natCast_pos.2 dice.sides_pos
  exact Draw.exists_highest positive (by exact_mod_cast few)

/-- The notation apart, damage is what the faces of its pool come to, with the bonus. -/
theorem bare_rollDamage (pool : List Dice) (bonus : Int) (critical : Bool) :
    Roll.bare <$> rollDamage pool bonus critical =
      (fun faces => (Roll.tally pool faces).withBonus bonus) <$> poolFaces critical pool := by
  have late :
      Roll.bare <$> rollDamage pool bonus critical =
        (·.withBonus bonus) <$> (Roll.bare <$> rollPool pool critical) := by
    rw [rollDamage, Functor.map_map, Functor.map_map]
    rfl
  rw [late, bare_rollPool, Functor.map_map]

section Damage

variable {pool : List Dice} {bonus : Int} {critical : Bool}

/-- A roll of damage with faces in range is what damage is like. -/
theorem isDamage_of_inRange
    {tray : Tray} {roll : Roll} (rolled : (rollDamage pool bonus critical tray).1 = .ok roll)
    (inRange : InRange (poolSides critical pool) roll.faces) :
    roll.IsDamage pool bonus critical := by
  have bare := congrArg Prod.fst (congrFun (bare_rollDamage pool bonus critical) tray)
  rw [map_run, map_run, rolled] at bare
  obtain ⟨faces, -, same⟩ := map_eq_ok_iff.1 bare.symm
  have isFaces : roll.faces = faces := congrArg Roll.faces same.symm
  have isModifier : roll.modifier = damageModifier pool bonus := congrArg Roll.modifier same.symm
  have isTotal : roll.total = max 1 (sumInts roll.faces + damageModifier pool bonus) := by
    rw [isFaces]
    exact congrArg Roll.total same.symm
  have count : roll.faces.length = damageDice pool critical := by
    rw [inRange.length_eq]
    exact length_poolSides critical pool
  have least := inRange.length_le_sum
  have most := inRange.sum_le_sum
  have sides : sumInts (poolSides critical pool) = damageSides pool critical :=
    sumInts_poolSides critical pool
  constructor
  case count => exact count
  case inRange => exact inRange
  case modifier => exact isModifier
  case total => rw [isTotal, isModifier]
  case atLeast =>
    rw [isTotal, leastDamage]
    omega
  case atMost =>
    rw [isTotal, greatestDamage]
    omega
  case lowest =>
    intro ones
    rw [isTotal, leastDamage, sumInts_of_ones ones, count]
  case highest =>
    intro highest
    rw [isTotal, greatestDamage, highest, sides]

theorem exists_rollDamage_of_shows
    {tray after : Tray} {faces : List Int} (writable : ∀ dice ∈ pool, dice.Writable)
    (shows : tray.Shows (poolSides critical pool) faces after) :
    ∃ roll, rollDamage pool bonus critical tray = (.ok roll, after) ∧ roll.faces = faces := by
  have ran : poolFaces critical pool tray = (.ok faces, after) := by
    rw [poolFaces_eq_rollEach writable]
    exact shows.rollEach_eq
  have bare := congrFun (bare_rollDamage pool bonus critical) tray
  rw [map_run, map_run, ran] at bare
  cases rolled : rollDamage pool bonus critical tray with
  | mk result left =>
      rw [rolled] at bare
      obtain ⟨sameResult, rfl⟩ := Prod.mk.inj bare
      obtain ⟨roll, rfl, same⟩ := map_eq_ok_iff.1 sameResult
      exact ⟨roll, rfl, congrArg Roll.faces same⟩

/-- Faces in range that draws can give make damage on some tray. -/
theorem exists_isDamage
    {f : Int → Int} (writable : ∀ dice ∈ pool, dice.Writable)
    (can : ∀ die ∈ poolSides critical pool, ∃ draw : Draw, draw.face die = .ok (f die))
    (within : ∀ die ∈ poolSides critical pool, 1 ≤ f die ∧ f die ≤ die) :
    ∃ (tray : Tray) (roll : Roll),
      (rollDamage pool bonus critical tray).1 = .ok roll ∧
        roll.faces = (poolSides critical pool).map f ∧ roll.IsDamage pool bonus critical := by
  obtain ⟨tray, after, shows⟩ := exists_shows can
  obtain ⟨roll, rolled, isFaces⟩ := exists_rollDamage_of_shows writable shows
  have ran := congrArg Prod.fst rolled
  refine ⟨tray, roll, ran, isFaces, isDamage_of_inRange ran ?_⟩
  rw [isFaces]
  exact inRange_map within

/-! ## The ends of the range -/

theorem DamageReaches.fits
    {total : Int} (reaches : DamageReaches pool bonus critical total) :
    ∀ dice ∈ pool, FitsBinary dice.sides := by
  obtain ⟨tray, roll, rolled, -, -⟩ := reaches
  obtain ⟨draws, -, makes⟩ := accounts_rollDamage pool bonus critical tray roll rolled
  intro dice member
  exact makes.fits _ (mem_poolSides_iff.2 ⟨dice, member, rfl⟩)

/-- Dice that fit the format may all show a one. -/
theorem exists_lowest_damage
    (writable : ∀ dice ∈ pool, dice.Writable) (fits : ∀ dice ∈ pool, FitsBinary dice.sides) :
    ∃ (tray : Tray) (roll : Roll),
      (rollDamage pool bonus critical tray).1 = .ok roll ∧
        (∀ face ∈ roll.faces, face = 1) ∧ roll.IsDamage pool bonus critical := by
  have can : ∀ die ∈ poolSides critical pool, ∃ draw : Draw, draw.face die = .ok 1 := by
    intro die member
    obtain ⟨dice, listed, rfl⟩ := mem_poolSides_iff.1 member
    exact Draw.exists_lowest (pos_of_mem_poolSides member) (fits dice listed)
  have within : ∀ die ∈ poolSides critical pool, (1 : Int) ≤ 1 ∧ 1 ≤ die :=
    fun die member => ⟨Int.le_refl 1, pos_of_mem_poolSides member⟩
  obtain ⟨tray, roll, rolled, isFaces, isDamage⟩ := exists_isDamage writable can within
  refine ⟨tray, roll, rolled, ?_, isDamage⟩
  intro face member
  rw [isFaces] at member
  obtain ⟨die, -, rfl⟩ := List.mem_map.1 member
  rfl

theorem damageReaches_least_iff (writable : ∀ dice ∈ pool, dice.Writable) :
    DamageReaches pool bonus critical (leastDamage pool bonus critical) ↔
      ∀ dice ∈ pool, FitsBinary dice.sides := by
  constructor
  · intro reaches
    exact reaches.fits
  · intro fits
    obtain ⟨tray, roll, rolled, ones, isDamage⟩ := exists_lowest_damage writable fits
    exact ⟨tray, roll, rolled, isDamage.inRange, isDamage.lowest ones⟩

/-- Damage that comes to more than one and is the greatest shows the highest faces. -/
theorem DamageReaches.reachesHighest
    (reaches : DamageReaches pool bonus critical (greatestDamage pool bonus critical))
    (more : greatestDamage pool bonus critical ≠ 1) :
    ∀ dice ∈ pool, dice.ReachesHighest := by
  obtain ⟨tray, roll, rolled, inRange, isTotal⟩ := reaches
  obtain ⟨draws, -, makes⟩ := accounts_rollDamage pool bonus critical tray roll rolled
  have isDamage := isDamage_of_inRange rolled inRange
  have highest : roll.faces = poolSides critical pool := by
    apply inRange.eq_of_sum_eq
    have total := isDamage.total
    have sides : sumInts (poolSides critical pool) = damageSides pool critical :=
      sumInts_poolSides critical pool
    rw [isTotal, isDamage.modifier] at total
    rw [greatestDamage] at total more
    omega
  have each := makes.forall₂
  rw [highest, List.forall₂_same] at each
  intro dice member
  exact each _ (mem_poolSides_iff.2 ⟨dice, member, rfl⟩)

theorem damageReaches_greatest_iff (writable : ∀ dice ∈ pool, dice.Writable) :
    DamageReaches pool bonus critical (greatestDamage pool bonus critical) ↔
      (∀ dice ∈ pool, dice.ReachesHighest) ∨
        (∀ dice ∈ pool, FitsBinary dice.sides) ∧ greatestDamage pool bonus critical = 1 := by
  constructor
  · intro reaches
    by_cases one : greatestDamage pool bonus critical = 1
    · exact Or.inr ⟨reaches.fits, one⟩
    · exact Or.inl (reaches.reachesHighest one)
  · rintro (highest | ⟨fits, one⟩)
    · have can : ∀ die ∈ poolSides critical pool, ∃ draw : Draw, draw.face die = .ok (id die) := by
        intro die member
        obtain ⟨dice, listed, rfl⟩ := mem_poolSides_iff.1 member
        exact highest dice listed
      have within : ∀ die ∈ poolSides critical pool, 1 ≤ id die ∧ id die ≤ die :=
        fun die member => ⟨pos_of_mem_poolSides member, Int.le_refl die⟩
      obtain ⟨tray, roll, rolled, isFaces, isDamage⟩ := exists_isDamage writable can within
      rw [List.map_id] at isFaces
      exact ⟨tray, roll, rolled, isDamage.inRange, isDamage.highest isFaces⟩
    · obtain ⟨tray, roll, rolled, -, isDamage⟩ := exists_lowest_damage writable fits
      refine ⟨tray, roll, rolled, isDamage.inRange, ?_⟩
      have atMost := isDamage.atMost
      have total := isDamage.total
      omega

end Damage

/-- Damage that is rolled with a pool of dice that can be written, on draws that give faces in
range, shows these faces, one for each die or two after a critical success, each between one and
the sides of its own die. It adds the modifiers of the pool and the bonus once, and its total is
between the least damage and the greatest. All ones come to the least and all highest faces to the
greatest. The least damage is reached exactly if all sides fit the binary format; the greatest is
exactly if each die can show its highest face, as those of up to `2 ^ 53` sides can, or if it is
one whatever the dice show. Healing is damage without a critical success. -/
theorem damage_and_healing_stay_in_range
    {pool : List Dice} (writable : ∀ dice ∈ pool, dice.Writable) (bonus : Int) (critical : Bool) :
    (∀ (tray after : Tray) (faces : List Int),
      tray.Shows (poolSides critical pool) faces after →
        InRange (poolSides critical pool) faces →
          ∃ roll, rollDamage pool bonus critical tray = (.ok roll, after) ∧
            roll.faces = faces ∧ roll.IsDamage pool bonus critical) ∧
    (DamageReaches pool bonus critical (leastDamage pool bonus critical) ↔
      ∀ dice ∈ pool, FitsBinary dice.sides) ∧
    (DamageReaches pool bonus critical (greatestDamage pool bonus critical) ↔
      (∀ dice ∈ pool, dice.ReachesHighest) ∨
        (∀ dice ∈ pool, FitsBinary dice.sides) ∧ greatestDamage pool bonus critical = 1) ∧
    (∀ dice : Dice, dice.sides ≤ 2 ^ 53 → dice.ReachesHighest) ∧
    ∀ modifier, rollHealing pool bonus modifier = rollDamage pool (bonus + modifier) false := by
  refine ⟨?_, damageReaches_least_iff writable, damageReaches_greatest_iff writable,
    fun dice few => Dice.reachesHighest_of_le few, fun modifier => rfl⟩
  intro tray after faces shows inRange
  obtain ⟨roll, rolled, rfl⟩ := exists_rollDamage_of_shows writable shows
  exact ⟨roll, rolled, rfl, isDamage_of_inRange (congrArg Prod.fst rolled) inRange⟩

/-- A critical success with two expressions, one of which takes something away. -/
theorem damage_and_healing_stay_in_range_after_a_critical :
    let pool := [Dice.of 2 6 3, Dice.of 1 4 (-1)]
    let tray : Tray := ⟨Source.ofList [.finite false 1 (-1)], 0⟩
    (∀ dice ∈ pool, dice.Writable) ∧
      InRange (poolSides true pool) [4, 4, 4, 4, 3, 3] ∧
      (∃ roll, (rollDamage pool 2 true tray).1 = .ok roll ∧
        roll.faces = [4, 4, 4, 4, 3, 3] ∧ roll.total = 26 ∧ roll.IsDamage pool 2 true) ∧
      DamageReaches pool 2 true 10 ∧ DamageReaches pool 2 true 36 := by
  intro pool tray
  have writable : ∀ dice ∈ pool, dice.Writable := by
    intro dice member
    simp only [pool, List.mem_cons, List.not_mem_nil, or_false] at member
    rcases member with rfl | rfl
    · exact ⟨by decide +kernel, by decide +kernel, by decide +kernel⟩
    · exact ⟨by decide +kernel, by decide +kernel, by decide +kernel⟩
  have fits : ∀ dice ∈ pool, FitsBinary dice.sides := by decide +kernel
  have rolled :
      (rollEach (poolSides true pool) tray).1 = .ok [4, 4, 4, 4, 3, 3] := by
    decide +kernel
  have inRange : InRange (poolSides true pool) [4, 4, 4, 4, 3, 3] := by
    simp [InRange, poolSides, Dice.sidesRolled, pool, Dice.of]
  have shows := accounts_rollEach (poolSides true pool) tray _ rolled
  obtain ⟨ranges, least, greatest, highest, -⟩ := damage_and_healing_stay_in_range writable 2 true
  obtain ⟨roll, run, isFaces, isDamage⟩ := ranges tray _ _ shows inRange
  have isTotal : roll.total = 26 := by
    rw [isDamage.total, isDamage.modifier, isFaces]
    rfl
  have reachesHighest : ∀ dice ∈ pool, dice.ReachesHighest := by
    have few : ∀ dice ∈ pool, dice.sides ≤ 2 ^ 53 := by decide
    exact fun dice member => highest dice (few dice member)
  exact ⟨writable, inRange, ⟨roll, congrArg Prod.fst run, isFaces, isTotal, isDamage⟩,
    least.2 fits, greatest.2 (Or.inl reachesHighest)⟩

/-- No draw gives the highest face of a die with `2 ^ 53 + 2` sides. -/
theorem highest_damage_may_be_out_of_reach :
    let pool := [Dice.of 1 9007199254740994]
    (∀ dice ∈ pool, dice.Writable ∧ FitsBinary dice.sides) ∧
      greatestDamage pool 0 false = 9007199254740994 ∧
      ¬DamageReaches pool 0 false (greatestDamage pool 0 false) := by
  intro pool
  have greatest : greatestDamage pool 0 false = 9007199254740994 := by decide
  refine ⟨?_, greatest, ?_⟩
  · intro dice member
    rw [List.mem_singleton.1 member]
    exact ⟨⟨by decide +kernel, by decide +kernel, by decide +kernel⟩, by decide +kernel⟩
  · intro reaches
    have more : greatestDamage pool 0 false ≠ 1 := by
      rw [greatest]
      decide
    obtain ⟨draw, isFace⟩ := reaches.reachesHighest more _ (List.mem_singleton.2 rfl)
    have odd := Draw.face_odd isFace (by decide)
    revert odd
    decide

end Tabletop
