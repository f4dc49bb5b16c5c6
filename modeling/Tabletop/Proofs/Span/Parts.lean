import Tabletop.Proofs.Span.Choice

/-!
# Choices in parts of a text

Items that end before some place of a text and items that start behind it are chosen apart from one
another, in whatever order they are given. A choice does not depend on where the text begins.
-/

namespace Tabletop

variable {α β : Type} {spanOf : α → Span}

/-! ## Before and behind a place -/

/-- Whether an item starts before a place. -/
def startsBefore (spanOf : α → Span) (bound : Nat) (item : α) : Bool :=
  (spanOf item).start < bound

theorem insertBy_append_of_startsBefore
    {bound : Nat} {item : α} {first second : List α}
    (before : startsBefore spanOf bound item = true)
    (behind : ∀ other ∈ second, startsBefore spanOf bound other = false) :
    insertBy (fun one other => (spanOf one).start ≤ (spanOf other).start) item (first ++ second) =
      insertBy (fun one other => (spanOf one).start ≤ (spanOf other).start) item first ++
        second := by
  induction first with
  | nil =>
      cases second with
      | nil => rfl
      | cons other second =>
          have later := behind other (by simp)
          simp only [startsBefore, decide_eq_true_eq, decide_eq_false_iff_not] at before later
          have precedes : (spanOf item).start ≤ (spanOf other).start := by omega
          simp [insertBy, precedes]
  | cons head first inductionHypothesis =>
      by_cases precedes : (spanOf item).start ≤ (spanOf head).start <;>
        simp [insertBy, precedes, inductionHypothesis]

theorem insertBy_append_of_not_startsBefore
    {bound : Nat} {item : α} {first second : List α}
    (behind : startsBefore spanOf bound item = false)
    (before : ∀ other ∈ first, startsBefore spanOf bound other = true) :
    insertBy (fun one other => (spanOf one).start ≤ (spanOf other).start) item (first ++ second) =
      first ++
        insertBy (fun one other => (spanOf one).start ≤ (spanOf other).start) item second := by
  induction first with
  | nil => rfl
  | cons head first inductionHypothesis =>
      have earlier := before head (by simp)
      simp only [startsBefore, decide_eq_true_eq, decide_eq_false_iff_not] at behind earlier
      have notFirst : ¬ (spanOf item).start ≤ (spanOf head).start := by omega
      have step := inductionHypothesis fun other member => before other (by simp [member])
      simp [insertBy, notFirst, step]

/-- Sorting puts the items before a place in front of those behind it and sorts each of the two. -/
theorem sortByStart_eq_append (spanOf : α → Span) (bound : Nat) (items : List α) :
    sortByStart spanOf items =
      sortByStart spanOf (items.filter (startsBefore spanOf bound)) ++
        sortByStart spanOf (items.filter fun item => !startsBefore spanOf bound item) := by
  induction items with
  | nil => rfl
  | cons item items inductionHypothesis =>
      have sortedCons (rest : List α) :
          sortByStart spanOf (item :: rest) =
            insertBy (fun one other => (spanOf one).start ≤ (spanOf other).start) item
              (sortByStart spanOf rest) := rfl
      rw [sortedCons, inductionHypothesis]
      cases side : startsBefore spanOf bound item with
      | true =>
          rw [List.filter_cons_of_pos side, List.filter_cons_of_neg (by simp [side]), sortedCons]
          apply insertBy_append_of_startsBefore side
          intro other member
          simpa using (List.mem_filter.1 (mem_sortByStart_iff.1 member)).2
      | false =>
          rw [List.filter_cons_of_neg (by simp [side]), List.filter_cons_of_pos (by simp [side]),
            sortedCons]
          apply insertBy_append_of_not_startsBefore side
          intro other member
          exact (List.mem_filter.1 (mem_sortByStart_iff.1 member)).2

/-- Of items that end before the next one starts, the last chosen one is kept for good. -/
theorem chooseAfter_append
    {kept next : α} {first second : List α}
    (apart : ∀ item ∈ kept :: first, (spanOf item).stop ≤ (spanOf next).start) :
    chooseAfter spanOf kept (first ++ next :: second) =
      chooseAfter spanOf kept first ++ chooseAfter spanOf next second := by
  induction first generalizing kept with
  | nil => simp [chooseAfter, apart kept (by simp)]
  | cons item first inductionHypothesis =>
      have later :
          chooseAfter spanOf item (first ++ next :: second) =
            chooseAfter spanOf item first ++ chooseAfter spanOf next second :=
        inductionHypothesis fun other member => apart other (List.mem_cons_of_mem kept member)
      have onward :
          chooseAfter spanOf kept (first ++ next :: second) =
            chooseAfter spanOf kept first ++ chooseAfter spanOf next second := by
        apply inductionHypothesis
        intro other member
        rcases List.mem_cons.1 member with rfl | member
        · exact apart other (by simp)
        · exact apart other (by simp [member])
      simp only [List.cons_append, chooseAfter, later, onward]
      split
      · rfl
      · split <;> rfl

/-- Items on the two sides of a place are chosen apart from one another. -/
theorem chooseDisjoint_eq_append
    {bound : Nat} {items : List α}
    (apart : ∀ item ∈ items, startsBefore spanOf bound item = true → (spanOf item).stop ≤ bound) :
    chooseDisjoint spanOf items =
      chooseDisjoint spanOf (items.filter (startsBefore spanOf bound)) ++
        chooseDisjoint spanOf (items.filter fun item => !startsBefore spanOf bound item) := by
  have sorted := sortByStart_eq_append spanOf bound items
  have ends :
      ∀ item ∈ sortByStart spanOf (items.filter (startsBefore spanOf bound)),
        (spanOf item).stop ≤ bound := by
    intro item member
    obtain ⟨listed, before⟩ := List.mem_filter.1 (mem_sortByStart_iff.1 member)
    exact apart item listed before
  have begins :
      ∀ item ∈ sortByStart spanOf (items.filter fun item => !startsBefore spanOf bound item),
        bound ≤ (spanOf item).start := by
    intro item member
    obtain ⟨-, behind⟩ := List.mem_filter.1 (mem_sortByStart_iff.1 member)
    simpa [startsBefore] using behind
  unfold chooseDisjoint
  rw [sorted]
  cases first : sortByStart spanOf (items.filter (startsBefore spanOf bound)) with
  | nil => rfl
  | cons kept first =>
      cases second : sortByStart spanOf
          (items.filter fun item => !startsBefore spanOf bound item) with
      | nil => simp
      | cons next second =>
          rw [first] at ends
          rw [second] at begins
          have start := begins next (by simp)
          exact chooseAfter_append fun item member => Nat.le_trans (ends item member) start

/-! ## Lists of both kinds -/

theorem filter_flatten_zipWith_append
    {side : α → Bool} {firsts seconds : List (List α)}
    (same : firsts.length = seconds.length)
    (before : ∀ item ∈ firsts.flatten, side item = true)
    (behind : ∀ item ∈ seconds.flatten, side item = false) :
    (List.zipWith (· ++ ·) firsts seconds).flatten.filter side = firsts.flatten ∧
      (List.zipWith (· ++ ·) firsts seconds).flatten.filter (fun item => !side item) =
        seconds.flatten := by
  induction firsts generalizing seconds with
  | nil =>
      obtain rfl := List.eq_nil_of_length_eq_zero same.symm
      exact ⟨rfl, rfl⟩
  | cons first firsts inductionHypothesis =>
      cases seconds with
      | nil => cases same
      | cons second seconds =>
          simp only [List.flatten_cons, List.mem_append] at before behind
          have later := inductionHypothesis (Nat.succ.inj same)
            (fun item member => before item (Or.inr member))
            (fun item member => behind item (Or.inr member))
          have firstBefore : first.filter side = first :=
            List.filter_eq_self.2 fun item member => before item (Or.inl member)
          have firstNot : first.filter (fun item => !side item) = [] :=
            List.filter_eq_nil_iff.2 fun item member => by simp [before item (Or.inl member)]
          have secondNot : second.filter side = [] :=
            List.filter_eq_nil_iff.2 fun item member => by simp [behind item (Or.inl member)]
          have secondBehind : second.filter (fun item => !side item) = second :=
            List.filter_eq_self.2 fun item member => by simp [behind item (Or.inl member)]
          simp [firstBefore, firstNot, secondNot, secondBehind, later]

/-- Items that are given list by list, in each list first those before a place and then those
behind it, are chosen as if those before the place had all been given first. -/
theorem chooseDisjoint_flatten_zipWith
    {bound : Nat} {firsts seconds : List (List α)}
    (same : firsts.length = seconds.length)
    (ends : ∀ item ∈ firsts.flatten, (spanOf item).stop < bound)
    (begins : ∀ item ∈ seconds.flatten, bound ≤ (spanOf item).start) :
    chooseDisjoint spanOf (List.zipWith (· ++ ·) firsts seconds).flatten =
      chooseDisjoint spanOf firsts.flatten ++ chooseDisjoint spanOf seconds.flatten := by
  have before : ∀ item ∈ firsts.flatten, startsBefore spanOf bound item = true := by
    intro item member
    have stop := ends item member
    simp only [Span.stop] at stop
    exact decide_eq_true (by omega)
  have behind : ∀ item ∈ seconds.flatten, startsBefore spanOf bound item = false :=
    fun item member => decide_eq_false (Nat.not_lt.2 (begins item member))
  obtain ⟨firstSide, secondSide⟩ := filter_flatten_zipWith_append same before behind
  have apart :
      ∀ item ∈ (List.zipWith (· ++ ·) firsts seconds).flatten,
        startsBefore spanOf bound item = true → (spanOf item).stop ≤ bound := by
    intro item member early
    have listed : item ∈ firsts.flatten := by
      rw [← firstSide]
      exact List.mem_filter.2 ⟨member, early⟩
    exact Nat.le_of_lt (ends item listed)
  rw [chooseDisjoint_eq_append apart, firstSide, secondSide]

/-! ## Items further on -/

/-- A stretch that is further on in a text. -/
def Span.later (places : Nat) (span : Span) : Span :=
  ⟨span.start + places, span.length⟩

section Later

variable {places : Nat} {onward : α → β} {spanOfLater : β → Span}

theorem insertBy_map
    (spans : ∀ item, spanOfLater (onward item) = (spanOf item).later places)
    (item : α) (items : List α) :
    insertBy (fun one other => (spanOfLater one).start ≤ (spanOfLater other).start)
        (onward item) (items.map onward) =
      (insertBy (fun one other => (spanOf one).start ≤ (spanOf other).start) item items).map
        onward := by
  induction items with
  | nil => rfl
  | cons head rest inductionHypothesis =>
      simp only [List.map_cons, insertBy, spans, Span.later, Nat.add_le_add_iff_right]
      split
      · rfl
      · rw [inductionHypothesis, List.map_cons]

theorem sortByStart_map
    (spans : ∀ item, spanOfLater (onward item) = (spanOf item).later places) (items : List α) :
    sortByStart spanOfLater (items.map onward) = (sortByStart spanOf items).map onward := by
  induction items with
  | nil => rfl
  | cons item items inductionHypothesis =>
      have step := insertBy_map spans item (sortByStart spanOf items)
      rw [← inductionHypothesis] at step
      exact step

theorem chooseAfter_map
    (spans : ∀ item, spanOfLater (onward item) = (spanOf item).later places)
    (kept : α) (items : List α) :
    chooseAfter spanOfLater (onward kept) (items.map onward) =
      (chooseAfter spanOf kept items).map onward := by
  induction items generalizing kept with
  | nil => rfl
  | cons item items inductionHypothesis =>
      have stop (item : α) :
          (spanOfLater (onward item)).stop = (spanOf item).stop + places := by
        simp only [spans, Span.later, Span.stop, Nat.add_right_comm]
      have start (item : α) :
          (spanOfLater (onward item)).start = (spanOf item).start + places := by
        rw [spans, Span.later]
      have length (item : α) : (spanOfLater (onward item)).length = (spanOf item).length := by
        rw [spans, Span.later]
      simp only [List.map_cons, chooseAfter, stop, start, length, Nat.add_le_add_iff_right,
        Nat.add_lt_add_iff_right, inductionHypothesis]
      split
      · rfl
      · split <;> rfl

/-- A choice does not depend on where the text begins. -/
theorem chooseDisjoint_map
    (spans : ∀ item, spanOfLater (onward item) = (spanOf item).later places) (items : List α) :
    chooseDisjoint spanOfLater (items.map onward) = (chooseDisjoint spanOf items).map onward := by
  unfold chooseDisjoint
  rw [sortByStart_map spans]
  cases sortByStart spanOf items with
  | nil => rfl
  | cons first rest => exact chooseAfter_map spans first rest

end Later

/-- Items that are given list by list, in each list first those of a text and then those of another
text behind it, are chosen in each text apart. -/
theorem chooseDisjoint_parted
    {places : Nat} {onward : α → α} {firsts seconds : List (List α)}
    (spans : ∀ item, spanOf (onward item) = (spanOf item).later places)
    (same : firsts.length = seconds.length)
    (ends : ∀ item ∈ firsts.flatten, (spanOf item).stop < places) :
    chooseDisjoint spanOf
        (List.zipWith (· ++ ·) firsts (seconds.map (List.map onward))).flatten =
      chooseDisjoint spanOf firsts.flatten ++
        (chooseDisjoint spanOf seconds.flatten).map onward := by
  have begins :
      ∀ item ∈ (seconds.map (List.map onward)).flatten, places ≤ (spanOf item).start := by
    intro item member
    rw [← List.map_flatten] at member
    obtain ⟨original, -, rfl⟩ := List.mem_map.1 member
    rw [spans]
    exact Nat.le_add_left _ _
  have sameLater : firsts.length = (seconds.map (List.map onward)).length := by
    rw [List.length_map, same]
  rw [chooseDisjoint_flatten_zipWith sameLater ends begins, ← List.map_flatten,
    chooseDisjoint_map spans]

end Tabletop
