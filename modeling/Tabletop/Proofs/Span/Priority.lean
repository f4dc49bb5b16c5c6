import Tabletop.Proofs.Span.Cascade

/-!
# Longer items win

Sorting by starts keeps items with one start in the order in which they were given. In this order
the first of the longest items meets only shorter ones before it, so it is kept when its turn comes,
and nothing behind it is long enough to replace it. Every item that is left out is linked to a
chosen one by items that are no shorter from one to the next.
-/

namespace Tabletop

variable {α : Type} {spanOf : α → Span}

/-! ## The order of equal starts -/

/-- An item starts before another one, or with it and is in front of it. -/
def StartsFirst (spanOf : α → Span) (inFront : α → α → Prop) (one other : α) : Prop :=
  (spanOf one).start < (spanOf other).start ∨
    (spanOf one).start = (spanOf other).start ∧ inFront one other

section Sorting

variable {inFront : α → α → Prop}

theorem StartsFirst.le
    {one other : α} (startsFirst : StartsFirst spanOf inFront one other) :
    (spanOf one).start ≤ (spanOf other).start := by
  rcases startsFirst with earlier | ⟨together, -⟩
  · exact Nat.le_of_lt earlier
  · exact Nat.le_of_eq together

theorem StartsFirst.asymm
    {places : Nat} {spanOf : Fin places → Span} {one other : Fin places}
    (startsFirst : StartsFirst spanOf (· < ·) one other) :
    ¬StartsFirst spanOf (· < ·) other one := by
  intro reversed
  have together := Nat.le_antisymm startsFirst.le reversed.le
  rcases startsFirst with earlier | ⟨-, inFront⟩
  · exact Nat.ne_of_lt earlier together
  · rcases reversed with later | ⟨-, behind⟩
    · exact Nat.ne_of_gt later together
    · exact Nat.lt_asymm inFront behind

/-- Sorting by starts leaves items that start together in their order. -/
theorem pairwise_startsFirst_sortByStart
    {items : List α} (inOrder : items.Pairwise inFront) :
    (sortByStart spanOf items).Pairwise (StartsFirst spanOf inFront) := by
  refine List.Pairwise.imp ?_ (pairwise_sortByStart inOrder)
  rintro one other ⟨le, inFrontOfTied⟩
  rcases Nat.lt_or_eq_of_le le with earlier | together
  · exact Or.inl earlier
  · exact Or.inr ⟨together, inFrontOfTied (Nat.le_of_eq together.symm)⟩

end Sorting

/-! ## The longest item -/

theorem kept_mem_chooseAfter
    {kept : α} {items : List α} (ascending : Ascending spanOf (kept :: items))
    (positive : ∀ item ∈ items, 0 < (spanOf item).length)
    (longest : ∀ item ∈ items, (spanOf item).length ≤ (spanOf kept).length) :
    kept ∈ chooseAfter spanOf kept items := by
  induction items with
  | nil => exact List.mem_singleton_self kept
  | cons item rest inductionHypothesis =>
      obtain ⟨keptFirst, -⟩ := List.pairwise_cons.1 ascending
      obtain ⟨itemPositive, restPositive⟩ := List.forall_mem_cons.1 positive
      obtain ⟨itemLonger, restLonger⟩ := List.forall_mem_cons.1 longest
      rcases chooseAfter_cons_cases rest (keptFirst item List.mem_cons_self) itemPositive with
        apart | ⟨replaced, -⟩ | ⟨-, isChoice⟩
      · rw [apart]
        exact List.mem_cons_self
      · exact absurd replaced.length (Nat.not_lt.2 itemLonger)
      · rw [isChoice]
        exact inductionHypothesis ascending.without_second restPositive restLonger

/-- An item is chosen if those before it are shorter and those behind it are no longer. -/
theorem mem_chooseAfter_of_longest
    {kept longest : α} {before behind : List α}
    (ascending : Ascending spanOf (kept :: (before ++ longest :: behind)))
    (positive : ∀ item ∈ before ++ longest :: behind, 0 < (spanOf item).length)
    (keptShorter : (spanOf kept).length < (spanOf longest).length)
    (shorter : ∀ item ∈ before, (spanOf item).length < (spanOf longest).length)
    (notLonger : ∀ item ∈ behind, (spanOf item).length ≤ (spanOf longest).length) :
    longest ∈ chooseAfter spanOf kept (before ++ longest :: behind) := by
  induction before generalizing kept with
  | nil =>
      obtain ⟨keptFirst, tailAscending⟩ := List.pairwise_cons.1 ascending
      obtain ⟨longestPositive, behindPositive⟩ := List.forall_mem_cons.1 positive
      have lasts := kept_mem_chooseAfter tailAscending behindPositive notLonger
      rcases chooseAfter_cons_cases behind (keptFirst longest List.mem_cons_self)
          longestPositive with
        apart | ⟨-, isChoice⟩ | ⟨givesWay, -⟩
      · rw [List.nil_append, apart]
        exact List.mem_cons_of_mem kept lasts
      · rw [List.nil_append, isChoice]
        exact lasts
      · exact absurd givesWay.2 (Nat.not_le.2 keptShorter)
  | cons item rest inductionHypothesis =>
      obtain ⟨keptFirst, tailAscending⟩ := List.pairwise_cons.1 ascending
      obtain ⟨itemPositive, restPositive⟩ := List.forall_mem_cons.1 positive
      obtain ⟨itemShorter, restShorter⟩ := List.forall_mem_cons.1 shorter
      have afterItem := inductionHypothesis tailAscending restPositive itemShorter restShorter
      rcases chooseAfter_cons_cases (rest ++ longest :: behind)
          (keptFirst item List.mem_cons_self) itemPositive with
        apart | ⟨-, isChoice⟩ | ⟨-, isChoice⟩
      · rw [List.cons_append, apart]
        exact List.mem_cons_of_mem kept afterItem
      · rw [List.cons_append, isChoice]
        exact afterItem
      · rw [List.cons_append, isChoice]
        exact inductionHypothesis ascending.without_second restPositive keptShorter restShorter

section Positions

variable {items : List α}

/-- A position of an item as long as any that comes before all others so long, by where they start
and then by their positions. -/
structure Leads (spanOf : α → Span) (items : List α) (position : Fin items.length) : Prop where
  longest : ∀ other,
    (spanAt spanOf items other).length ≤ (spanAt spanOf items position).length
  first : ∀ other, other ≠ position →
    (spanAt spanOf items other).length = (spanAt spanOf items position).length →
      StartsFirst (spanAt spanOf items) (· < ·) position other

/-- Among items in order the first of the longest ones leads the others. -/
theorem exists_leader
    {inFront : α → α → Prop} {places : List α} (nonempty : places ≠ [])
    (sorted : places.Pairwise (StartsFirst spanOf inFront)) :
    ∃ leader ∈ places,
      (∀ other ∈ places, (spanOf other).length ≤ (spanOf leader).length) ∧
        ∀ other ∈ places, other ≠ leader → (spanOf other).length = (spanOf leader).length →
          StartsFirst spanOf inFront leader other := by
  induction places with
  | nil => exact absurd rfl nonempty
  | cons place rest inductionHypothesis =>
      obtain ⟨placeFirst, restSorted⟩ := List.pairwise_cons.1 sorted
      by_cases leads : ∀ other ∈ rest, (spanOf other).length ≤ (spanOf place).length
      · refine ⟨place, List.mem_cons_self, ?_, ?_⟩
        · exact List.forall_mem_cons.2 ⟨Nat.le_refl _, leads⟩
        · intro other member different _
          exact placeFirst other ((List.mem_cons.1 member).resolve_left different)
      · -- a longer one comes later, so the leader of the others leads this one too
        push Not at leads
        obtain ⟨longer, listed, isLonger⟩ := leads
        obtain ⟨leader, member, longest, first⟩ :=
          inductionHypothesis (List.ne_nil_of_mem listed) restSorted
        have placeShorter : (spanOf place).length < (spanOf leader).length :=
          Nat.lt_of_lt_of_le isLonger (longest longer listed)
        refine ⟨leader, List.mem_cons_of_mem place member, ?_, ?_⟩
        · exact List.forall_mem_cons.2 ⟨Nat.le_of_lt placeShorter, longest⟩
        · refine List.forall_mem_cons.2 ⟨?_, first⟩
          intro _ asLong
          exact absurd asLong (Nat.ne_of_lt placeShorter)

theorem pairwise_startsFirst_positions (spanOf : α → Span) (items : List α) :
    (sortByStart (spanAt spanOf items) (List.finRange items.length)).Pairwise
      (StartsFirst (spanAt spanOf items) (· < ·)) :=
  pairwise_startsFirst_sortByStart (List.pairwise_lt_finRange items.length)

theorem mem_sortByStart_positions (spanOf : α → Span) (position : Fin items.length) :
    position ∈ sortByStart (spanAt spanOf items) (List.finRange items.length) :=
  mem_sortByStart_iff.2 (List.mem_finRange position)

theorem exists_leads (nonempty : items ≠ []) : ∃ position, Leads spanOf items position := by
  let front : Fin items.length := ⟨0, List.length_pos_iff.2 nonempty⟩
  have somePlace : sortByStart (spanAt spanOf items) (List.finRange items.length) ≠ [] :=
    List.ne_nil_of_mem (mem_sortByStart_positions spanOf front)
  obtain ⟨leader, -, longest, first⟩ :=
    exists_leader somePlace (pairwise_startsFirst_positions spanOf items)
  refine ⟨leader, fun other => ?_, fun other => ?_⟩
  · exact longest other (mem_sortByStart_positions spanOf other)
  · exact first other (mem_sortByStart_positions spanOf other)

theorem Leads.mem_chosenPositions
    {position : Fin items.length} (leads : Leads spanOf items position)
    (positive : ∀ item ∈ items, 0 < (spanOf item).length) :
    position ∈ chosenPositions spanOf items := by
  have ascending := ascending_sortByStart (spanAt spanOf items) (List.finRange items.length)
  have sorted := pairwise_startsFirst_positions spanOf items
  have positionsPositive (other : Fin items.length) : 0 < (spanAt spanOf items other).length :=
    positive _ (List.get_mem items other)
  obtain ⟨before, behind, split⟩ :=
    List.append_of_mem (mem_sortByStart_positions spanOf position)
  rw [split] at ascending sorted
  -- what is as long comes behind, so all that comes before is shorter
  have shorter : ∀ other ∈ before,
      (spanAt spanOf items other).length < (spanAt spanOf items position).length := by
    intro other isBefore
    have otherFirst : StartsFirst (spanAt spanOf items) (· < ·) other position :=
      (List.pairwise_append.1 sorted).2.2 other isBefore position List.mem_cons_self
    apply Nat.lt_of_le_of_ne (leads.longest other)
    intro asLong
    have different : other ≠ position := by
      rintro rfl
      exact otherFirst.asymm otherFirst
    exact otherFirst.asymm (leads.first other different asLong)
  unfold chosenPositions chooseDisjoint
  rw [split]
  cases before with
  | nil =>
      exact kept_mem_chooseAfter ascending (fun other _ => positionsPositive other)
        fun other _ => leads.longest other
  | cons head rest =>
      obtain ⟨headShorter, restShorter⟩ := List.forall_mem_cons.1 shorter
      exact mem_chooseAfter_of_longest ascending (fun other _ => positionsPositive other)
        headShorter restShorter fun other _ => leads.longest other

end Positions

/-- Unless there are no items, there is a first of the longest ones, which is chosen, and every item
that is left out gives way to another one, which may give way in turn, until a chosen one is
reached. -/
theorem longer_items_win
    (spanOf : α → Span) (items : List α) (positive : ∀ item ∈ items, 0 < (spanOf item).length) :
    (chosenPositions spanOf items).map items.get = chooseDisjoint spanOf items ∧
    (items ≠ [] → ∃ position, Leads spanOf items position) ∧
    (∀ position, Leads spanOf items position → position ∈ chosenPositions spanOf items) ∧
    ∀ position, position ∉ chosenPositions spanOf items →
      ∃ winner ∈ chosenPositions spanOf items,
        Relation.TransGen
          (fun one other => (spanAt spanOf items one).GivesWayTo (spanAt spanOf items other))
          position winner := by
  refine ⟨map_get_chosenPositions spanOf items, exists_leads,
    fun position leads => leads.mem_chosenPositions positive, fun position leftOut => ?_⟩
  obtain ⟨rival, givesWay, winner, chosen, cascade⟩ :=
    exists_rival_of_not_mem_chosenPositions positive leftOut
  refine ⟨winner, chosen, Relation.TransGen.head' givesWay ?_⟩
  exact Relation.ReflTransGen.mono (fun _ _ replaced => replaced.givesWayTo) _ _ cascade

/-- Of five stretches the third is as long as any and comes first of those; the second gives way to
it. -/
theorem longer_items_win_of_five :
    let spans : List Span := [⟨0, 4⟩, ⟨2, 6⟩, ⟨5, 9⟩, ⟨12, 9⟩, ⟨30, 1⟩]
    (∀ span ∈ spans, 0 < (id span).length) ∧
      (∃ position, Leads id spans position) ∧
      Leads id spans (2 : Fin 5) ∧ (2 : Fin 5) ∈ chosenPositions id spans ∧
      (3 : Fin 5) ∉ chosenPositions id spans ∧
      ∃ winner ∈ chosenPositions id spans,
        Relation.TransGen
          (fun one other => (spanAt id spans one).GivesWayTo (spanAt id spans other))
          (3 : Fin 5) winner := by
  intro spans
  have positive : ∀ span ∈ spans, 0 < (id span).length := by decide
  have longest : ∀ other : Fin 5,
      (spanAt id spans other).length ≤ (spanAt id spans (2 : Fin 5)).length := by
    decide
  have first : ∀ other : Fin 5, other ≠ 2 →
      (spanAt id spans other).length = (spanAt id spans (2 : Fin 5)).length →
        (spanAt id spans (2 : Fin 5)).start < (spanAt id spans other).start := by
    decide
  have leads : Leads id spans (2 : Fin 5) :=
    ⟨longest, fun other different asLong => Or.inl (first other different asLong)⟩
  have leftOut : (3 : Fin 5) ∉ chosenPositions id spans := by decide
  obtain ⟨-, someLeads, wins, gaveWay⟩ := longer_items_win id spans positive
  exact ⟨positive, someLeads (by decide), leads, wins 2 leads, leftOut, gaveWay 3 leftOut⟩

end Tabletop
