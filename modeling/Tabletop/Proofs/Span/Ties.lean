import Tabletop.Proofs.Span.Priority

/-!
# Order decides ties only

Of items that start together only the longest is of any account, so items that start together may
be given in any order. The order in which items are given therefore has no bearing on which
stretches are chosen. Of the items with a chosen stretch it is the first one that stands for it, and
a choice leaves nothing to be chosen again.
-/

namespace Tabletop

variable {α : Type} {spanOf : α → Span}

/-! ## Items that start together -/

theorem chooseAfter_of_apart
    {kept item : α} (apart : (spanOf kept).stop ≤ (spanOf item).start) (rest : List α) :
    chooseAfter spanOf kept (item :: rest) = kept :: chooseAfter spanOf item rest := by
  rw [chooseAfter, if_pos apart]

theorem chooseAfter_of_replaced
    {kept item : α} (near : (spanOf item).start < (spanOf kept).stop)
    (further : (spanOf kept).stop < (spanOf item).stop)
    (longer : (spanOf kept).length < (spanOf item).length) (rest : List α) :
    chooseAfter spanOf kept (item :: rest) = chooseAfter spanOf item rest := by
  rw [chooseAfter, if_neg (Nat.not_le.2 near), decide_eq_true further, decide_eq_true longer]
  rfl

theorem chooseAfter_of_weaker
    {kept item : α} (near : (spanOf item).start < (spanOf kept).stop)
    (weaker : (spanOf item).stop ≤ (spanOf kept).stop ∨
      (spanOf item).length ≤ (spanOf kept).length)
    (rest : List α) :
    chooseAfter spanOf kept (item :: rest) = chooseAfter spanOf kept rest := by
  rw [chooseAfter, if_neg (Nat.not_le.2 near), if_neg]
  rw [Bool.and_eq_true, decide_eq_true_eq, decide_eq_true_eq]
  omega

section Together

variable {kept one other : α} (together : (spanOf one).start = (spanOf other).start)
include together

/-- Behind an item that starts with it, one that is no longer is of no account. -/
theorem chooseAfter_without_second
    (positive : 0 < (spanOf other).length)
    (notLonger : (spanOf one).length ≤ (spanOf other).length) (rest : List α) :
    chooseAfter spanOf kept (other :: one :: rest) = chooseAfter spanOf kept (other :: rest) := by
  have near : (spanOf one).start < (spanOf other).stop := by
    rw [Span.stop]
    omega
  have afterOther := chooseAfter_of_weaker near (Or.inr notLonger) rest
  by_cases apart : (spanOf kept).stop ≤ (spanOf other).start
  · rw [chooseAfter_of_apart apart, chooseAfter_of_apart apart, afterOther]
  · have otherNear := Nat.lt_of_not_le apart
    by_cases beaten :
        (spanOf kept).stop < (spanOf other).stop ∧ (spanOf kept).length < (spanOf other).length
    · rw [chooseAfter_of_replaced otherNear beaten.1 beaten.2,
        chooseAfter_of_replaced otherNear beaten.1 beaten.2, afterOther]
    · -- what does not beat the kept item leaves no chance to what is shorter
      have otherWeaker : (spanOf other).stop ≤ (spanOf kept).stop ∨
          (spanOf other).length ≤ (spanOf kept).length := by
        omega
      have oneWeaker : (spanOf one).stop ≤ (spanOf kept).stop ∨
          (spanOf one).length ≤ (spanOf kept).length := by
        simp only [Span.stop] at otherWeaker ⊢
        omega
      have oneNear : (spanOf one).start < (spanOf kept).stop := together ▸ otherNear
      rw [chooseAfter_of_weaker otherNear otherWeaker, chooseAfter_of_weaker oneNear oneWeaker,
        chooseAfter_of_weaker otherNear otherWeaker]

/-- In front of a longer item that starts with it, an item is of no account. -/
theorem chooseAfter_without_first
    (positive : 0 < (spanOf one).length)
    (shorter : (spanOf one).length < (spanOf other).length) (rest : List α) :
    chooseAfter spanOf kept (one :: other :: rest) = chooseAfter spanOf kept (other :: rest) := by
  have near : (spanOf other).start < (spanOf one).stop := by
    rw [Span.stop]
    omega
  have further : (spanOf one).stop < (spanOf other).stop := by
    rw [Span.stop, Span.stop]
    omega
  have afterOne := chooseAfter_of_replaced near further shorter rest
  by_cases apart : (spanOf kept).stop ≤ (spanOf other).start
  · rw [chooseAfter_of_apart (together ▸ apart), chooseAfter_of_apart apart, afterOne]
  · have otherNear := Nat.lt_of_not_le apart
    have oneNear : (spanOf one).start < (spanOf kept).stop := together ▸ otherNear
    by_cases beaten :
        (spanOf kept).stop < (spanOf one).stop ∧ (spanOf kept).length < (spanOf one).length
    · rw [chooseAfter_of_replaced oneNear beaten.1 beaten.2, afterOne,
        chooseAfter_of_replaced otherNear (Nat.lt_trans beaten.1 further)
          (Nat.lt_trans beaten.2 shorter)]
    · rw [chooseAfter_of_weaker oneNear (by omega)]

end Together

/-- Stretches that start together may change places. -/
theorem chooseAfter_swap
    {one other : Span} (together : one.start = other.start) (onePositive : 0 < one.length)
    (otherPositive : 0 < other.length) (kept : Span) (rest : List Span) :
    chooseAfter id kept (one :: other :: rest) = chooseAfter id kept (other :: one :: rest) := by
  rcases Nat.lt_trichotomy one.length other.length with shorter | same | longer
  · calc chooseAfter id kept (one :: other :: rest)
        = chooseAfter id kept (other :: rest) :=
          chooseAfter_without_first together onePositive shorter rest
      _ = chooseAfter id kept (other :: one :: rest) :=
          (chooseAfter_without_second together otherPositive (Nat.le_of_lt shorter) rest).symm
  · have equal : one = other := by
      cases one
      cases other
      exact congrArg₂ Span.mk together same
    rw [equal]
  · calc chooseAfter id kept (one :: other :: rest)
        = chooseAfter id kept (one :: rest) :=
          chooseAfter_without_second together.symm onePositive (Nat.le_of_lt longer) rest
      _ = chooseAfter id kept (other :: one :: rest) :=
          (chooseAfter_without_first together.symm otherPositive longer rest).symm

/-! ## Items in any order -/

theorem chooseAfter_cons_congr
    {items others : List α}
    (same : ∀ kept, chooseAfter spanOf kept items = chooseAfter spanOf kept others)
    (kept item : α) :
    chooseAfter spanOf kept (item :: items) = chooseAfter spanOf kept (item :: others) := by
  rw [chooseAfter, chooseAfter, same, same]

/-- A stretch may go before others that start with it. -/
theorem chooseAfter_to_front
    {first : Span} {before : List Span} (firstPositive : 0 < first.length)
    (together : ∀ span ∈ before, span.start = first.start ∧ 0 < span.length)
    (kept : Span) (behind : List Span) :
    chooseAfter id kept (before ++ first :: behind) =
      chooseAfter id kept (first :: (before ++ behind)) := by
  induction before generalizing kept with
  | nil => rfl
  | cons span before inductionHypothesis =>
      obtain ⟨⟨spanTogether, spanPositive⟩, othersTogether⟩ := List.forall_mem_cons.1 together
      have moved (kept : Span) := inductionHypothesis othersTogether kept
      calc chooseAfter id kept (span :: (before ++ first :: behind))
          = chooseAfter id kept (span :: first :: (before ++ behind)) :=
            chooseAfter_cons_congr moved kept span
        _ = chooseAfter id kept (first :: span :: (before ++ behind)) :=
            chooseAfter_swap spanTogether spanPositive firstPositive kept _

/-- Of two arrangements in the order of starts, which differ in what starts together only, the same
stretches are chosen. -/
theorem chooseAfter_perm
    {spans others : List Span} (perm : spans.Perm others) (ascending : Ascending id spans)
    (othersAscending : Ascending id others) (positive : ∀ span ∈ spans, 0 < span.length)
    (kept : Span) :
    chooseAfter id kept spans = chooseAfter id kept others := by
  induction spans generalizing others kept with
  | nil => rw [perm.nil_eq]
  | cons first rest inductionHypothesis =>
      obtain ⟨firstLeads, restAscending⟩ := List.pairwise_cons.1 ascending
      obtain ⟨firstPositive, restPositive⟩ := List.forall_mem_cons.1 positive
      obtain ⟨before, behind, rfl⟩ := List.append_of_mem (perm.mem_iff.1 List.mem_cons_self)
      have restPerm : rest.Perm (before ++ behind) :=
        (perm.trans List.perm_middle).cons_inv
      have withoutFirst : Ascending id (before ++ behind) :=
        othersAscending.sublist ((List.sublist_cons_self first behind).append_left before)
      -- what precedes the first stretch elsewhere can only start with it
      have together : ∀ span ∈ before, span.start = first.start ∧ 0 < span.length := by
        intro span member
        have inRest : span ∈ rest := restPerm.mem_iff.2 (List.mem_append_left behind member)
        have notLater : span.start ≤ first.start :=
          (List.pairwise_append.1 othersAscending).2.2 span member first List.mem_cons_self
        exact ⟨Nat.le_antisymm notLater (firstLeads span inRest), restPositive span inRest⟩
      rw [chooseAfter_to_front firstPositive together]
      apply chooseAfter_cons_congr
      exact inductionHypothesis restPerm restAscending withoutFirst restPositive

/-- Nothing comes before an empty stretch at the beginning, and it stands apart from all others. -/
theorem chooseAfter_nothing (spans : List Span) :
    chooseAfter id ⟨0, 0⟩ (sortByStart id spans) = ⟨0, 0⟩ :: chooseDisjoint id spans := by
  rw [chooseDisjoint]
  cases sortByStart id spans with
  | nil => rfl
  | cons first rest => exact chooseAfter_of_apart (Nat.zero_le _) rest

theorem chooseDisjoint_perm
    {spans others : List Span} (perm : spans.Perm others)
    (positive : ∀ span ∈ spans, 0 < span.length) :
    chooseDisjoint id spans = chooseDisjoint id others := by
  have sortedPerm : (sortByStart id spans).Perm (sortByStart id others) :=
    (perm_sortBy _ spans).trans (perm.trans (perm_sortBy _ others).symm)
  have same := chooseAfter_perm sortedPerm (ascending_sortByStart id spans)
    (ascending_sortByStart id others)
    (fun span member => positive span (mem_sortByStart_iff.1 member)) ⟨0, 0⟩
  rw [chooseAfter_nothing, chooseAfter_nothing] at same
  exact List.tail_eq_of_cons_eq same

/-- The chosen stretches are those that are chosen of the stretches alone. -/
theorem map_chooseDisjoint (spanOf : α → Span) (items : List α) :
    (chooseDisjoint spanOf items).map spanOf = chooseDisjoint id (items.map spanOf) := by
  have spans (item : α) : id (spanOf item) = (spanOf item).later 0 := rfl
  exact (chooseDisjoint_map spans items).symm

/-! ## The first of equal stretches -/

theorem start_le_of_mem_chooseAfter
    {kept chosen : α} {items : List α} (ascending : Ascending spanOf (kept :: items))
    (member : chosen ∈ chooseAfter spanOf kept items) :
    (spanOf kept).start ≤ (spanOf chosen).start := by
  rcases mem_of_mem_chooseAfter member with rfl | listed
  · exact Nat.le_refl _
  · exact (List.pairwise_cons.1 ascending).1 chosen listed

/-- What is chosen in place of a kept item or behind it reaches further, and it is longer or begins
where the kept one ends or later. -/
theorem chosen_beats_kept
    {kept chosen : α} {items : List α} (ascending : Ascending spanOf (kept :: items))
    (positive : ∀ item ∈ items, 0 < (spanOf item).length)
    (member : chosen ∈ chooseAfter spanOf kept items) :
    chosen = kept ∨
      (spanOf kept).stop < (spanOf chosen).stop ∧
        ((spanOf kept).length < (spanOf chosen).length ∨
          (spanOf kept).stop ≤ (spanOf chosen).start) := by
  induction items generalizing kept with
  | nil => exact Or.inl (List.mem_singleton.1 member)
  | cons item rest inductionHypothesis =>
      obtain ⟨-, tailAscending⟩ := List.pairwise_cons.1 ascending
      obtain ⟨itemPositive, restPositive⟩ := List.forall_mem_cons.1 positive
      by_cases apart : (spanOf kept).stop ≤ (spanOf item).start
      · rw [chooseAfter_of_apart apart] at member
        rcases List.mem_cons.1 member with isKept | member
        · exact Or.inl isKept
        · have behind := Nat.le_trans apart (start_le_of_mem_chooseAfter tailAscending member)
          have itemReaches : (spanOf kept).stop < (spanOf item).stop := by
            rw [Span.stop.eq_def (spanOf item)]
            omega
          right
          rcases inductionHypothesis tailAscending restPositive member with rfl | ⟨further, -⟩
          · exact ⟨itemReaches, Or.inr behind⟩
          · exact ⟨Nat.lt_trans itemReaches further, Or.inr behind⟩
      · have near := Nat.lt_of_not_le apart
        by_cases beaten :
            (spanOf kept).stop < (spanOf item).stop ∧ (spanOf kept).length < (spanOf item).length
        · rw [chooseAfter_of_replaced near beaten.1 beaten.2] at member
          right
          rcases inductionHypothesis tailAscending restPositive member with
            rfl | ⟨further, longer | behind⟩
          · exact ⟨beaten.1, Or.inl beaten.2⟩
          · exact ⟨Nat.lt_trans beaten.1 further, Or.inl (Nat.lt_trans beaten.2 longer)⟩
          · exact ⟨Nat.lt_trans beaten.1 further,
              Or.inr (Nat.le_trans (Nat.le_of_lt beaten.1) behind)⟩
        · rw [chooseAfter_of_weaker near (by omega)] at member
          exact inductionHypothesis ascending.without_second restPositive member

/-- Among items in order no other one with the same stretch comes before a chosen item. -/
theorem first_of_mem_chooseAfter
    {comesBefore : α → α → Prop} {kept chosen other : α} {items : List α}
    (inOrder : (kept :: items).Pairwise comesBefore)
    (ascending : Ascending spanOf (kept :: items))
    (positive : ∀ item ∈ kept :: items, 0 < (spanOf item).length)
    (member : chosen ∈ chooseAfter spanOf kept items) (listed : other ∈ kept :: items)
    (same : spanOf other = spanOf chosen) :
    chosen = other ∨ comesBefore chosen other := by
  induction items generalizing kept with
  | nil =>
      rw [List.mem_singleton.1 member, List.mem_singleton.1 listed]
      exact Or.inl rfl
  | cons item rest inductionHypothesis =>
      obtain ⟨keptBefore, tailInOrder⟩ := List.pairwise_cons.1 inOrder
      obtain ⟨keptFirst, tailAscending⟩ := List.pairwise_cons.1 ascending
      obtain ⟨keptPositive, tailPositive⟩ := List.forall_mem_cons.1 positive
      obtain ⟨itemPositive, restPositive⟩ := List.forall_mem_cons.1 tailPositive
      have besideKept (isKept : chosen = kept) : chosen = other ∨ comesBefore chosen other := by
        subst isKept
        rcases List.mem_cons.1 listed with isOther | inTail
        · exact Or.inl isOther.symm
        · exact Or.inr (keptBefore other inTail)
      by_cases apart : (spanOf kept).stop ≤ (spanOf item).start
      · rw [chooseAfter_of_apart apart] at member
        rcases List.mem_cons.1 member with isKept | member
        · exact besideKept isKept
        · have behind := Nat.le_trans apart (start_le_of_mem_chooseAfter tailAscending member)
          rcases List.mem_cons.1 listed with rfl | inTail
          · rw [← same, Span.stop] at behind
            omega
          · exact inductionHypothesis tailInOrder tailAscending tailPositive member inTail
      · have near := Nat.lt_of_not_le apart
        by_cases beaten :
            (spanOf kept).stop < (spanOf item).stop ∧ (spanOf kept).length < (spanOf item).length
        · rw [chooseAfter_of_replaced near beaten.1 beaten.2] at member
          rcases List.mem_cons.1 listed with rfl | inTail
          · -- the replaced item ends before everything that is chosen from then on
            rcases chosen_beats_kept tailAscending restPositive member with rfl | ⟨further, -⟩
            · rw [same] at beaten
              omega
            · rw [same] at beaten
              omega
          · exact inductionHypothesis tailInOrder tailAscending tailPositive member inTail
        · rw [chooseAfter_of_weaker near (by omega)] at member
          have withoutItem : List.Sublist (kept :: rest) (kept :: item :: rest) :=
            (List.sublist_cons_self item rest).cons_cons kept
          have isOther : other = item ∨ other ∈ kept :: rest := by
            rcases List.mem_cons.1 listed with rfl | inTail
            · exact Or.inr List.mem_cons_self
            · exact (List.mem_cons.1 inTail).imp_right (List.mem_cons_of_mem kept)
          rcases isOther with rfl | inOthers
          · -- an item that gives way has not the stretch of what is chosen then
            rcases chosen_beats_kept ascending.without_second restPositive member with
              isKept | ⟨further, beats⟩
            · exact besideKept isKept
            · rw [← same] at further beats
              omega
          · exact inductionHypothesis (inOrder.sublist withoutItem) ascending.without_second
              (List.forall_mem_cons.2 ⟨keptPositive, restPositive⟩) member inOthers

section Positions

variable {items : List α}

/-- A chosen position is the first one of its stretch. -/
theorem le_of_mem_chosenPositions
    {position other : Fin items.length} (positive : ∀ item ∈ items, 0 < (spanOf item).length)
    (chosen : position ∈ chosenPositions spanOf items)
    (same : spanAt spanOf items other = spanAt spanOf items position) :
    position ≤ other := by
  have ascending := ascending_sortByStart (spanAt spanOf items) (List.finRange items.length)
  have inOrder := pairwise_startsFirst_positions spanOf items
  have listed := mem_sortByStart_positions spanOf other
  unfold chosenPositions chooseDisjoint at chosen
  cases sorted : sortByStart (spanAt spanOf items) (List.finRange items.length) with
  | nil =>
      rw [sorted] at listed
      cases listed
  | cons first rest =>
      rw [sorted] at ascending inOrder listed chosen
      have allPositive : ∀ place ∈ first :: rest, 0 < (spanAt spanOf items place).length :=
        fun place _ => positive _ (List.get_mem items place)
      rcases first_of_mem_chooseAfter inOrder ascending allPositive chosen listed same with
        rfl | earlier | ⟨-, inFront⟩
      · exact Nat.le_refl _
      · exact absurd (congrArg Span.start same) (Nat.ne_of_gt earlier)
      · exact Nat.le_of_lt inFront

end Positions

/-! ## Choosing again -/

theorem sortByStart_eq_self {items : List α} (ascending : Ascending spanOf items) :
    sortByStart spanOf items = items := by
  induction items with
  | nil => rfl
  | cons item rest inductionHypothesis =>
      obtain ⟨itemFirst, restAscending⟩ := List.pairwise_cons.1 ascending
      have step : sortByStart spanOf (item :: rest) =
          insertBy (fun one other => (spanOf one).start ≤ (spanOf other).start) item
            (sortByStart spanOf rest) := rfl
      rw [step, inductionHypothesis restAscending]
      cases rest with
      | nil => rfl
      | cons next rest => rw [insertBy, if_pos (decide_eq_true (itemFirst next List.mem_cons_self))]

theorem chooseAfter_eq_self
    {kept : α} {items : List α}
    (apart : (kept :: items).Pairwise fun one other => (spanOf one).stop ≤ (spanOf other).start) :
    chooseAfter spanOf kept items = kept :: items := by
  induction items generalizing kept with
  | nil => rfl
  | cons item rest inductionHypothesis =>
      obtain ⟨keptApart, tailApart⟩ := List.pairwise_cons.1 apart
      rw [chooseAfter_of_apart (keptApart item List.mem_cons_self), inductionHypothesis tailApart]

/-- Items that end before the next one starts are all chosen. -/
theorem chooseDisjoint_eq_self
    {items : List α}
    (apart : items.Pairwise fun one other => (spanOf one).stop ≤ (spanOf other).start) :
    chooseDisjoint spanOf items = items := by
  have ascending : Ascending spanOf items :=
    apart.imp fun before => Nat.le_trans (Nat.le_add_right _ _) before
  rw [chooseDisjoint, sortByStart_eq_self ascending]
  cases items with
  | nil => rfl
  | cons first rest => exact chooseAfter_eq_self apart

/-- Whatever the order in which items are given, the same stretches are chosen. Each chosen item is
the first one with its stretch, and a choice is left unchanged by another one. -/
theorem order_decides_ties_only
    (spanOf : α → Span) (items : List α) (positive : ∀ item ∈ items, 0 < (spanOf item).length) :
    (∀ others, others.Perm items →
      (chooseDisjoint spanOf others).map spanOf = (chooseDisjoint spanOf items).map spanOf) ∧
    (chosenPositions spanOf items).map items.get = chooseDisjoint spanOf items ∧
    (∀ position ∈ chosenPositions spanOf items, ∀ other,
      spanAt spanOf items other = spanAt spanOf items position → position ≤ other) ∧
    chooseDisjoint spanOf (chooseDisjoint spanOf items) = chooseDisjoint spanOf items := by
  refine ⟨fun others perm => ?_, map_get_chosenPositions spanOf items,
    fun position chosen other same => le_of_mem_chosenPositions positive chosen same,
    chooseDisjoint_eq_self (pairwise_chooseDisjoint items)⟩
  have spansPositive : ∀ span ∈ items.map spanOf, 0 < span.length :=
    List.forall_mem_map.2 positive
  rw [map_chooseDisjoint, map_chooseDisjoint]
  exact (chooseDisjoint_perm (perm.symm.map spanOf) spansPositive).symm

/-- Stretches with names: the two longest ones that start together are the same, and the one that is
given first is chosen, whichever that is. -/
theorem order_decides_ties_only_of_five :
    let items : List (String × Span) :=
      [("door", ⟨2, 4⟩), ("wall", ⟨2, 6⟩), ("gate", ⟨2, 6⟩), ("roof", ⟨7, 3⟩), ("moat", ⟨0, 3⟩)]
    let others : List (String × Span) :=
      [("gate", ⟨2, 6⟩), ("moat", ⟨0, 3⟩), ("roof", ⟨7, 3⟩), ("wall", ⟨2, 6⟩), ("door", ⟨2, 4⟩)]
    (∀ item ∈ items, 0 < item.2.length) ∧ others.Perm items ∧
      (chooseDisjoint Prod.snd others).map Prod.snd =
        (chooseDisjoint Prod.snd items).map Prod.snd ∧
      chooseDisjoint Prod.snd items = [("wall", ⟨2, 6⟩)] ∧
      chooseDisjoint Prod.snd others = [("gate", ⟨2, 6⟩)] ∧
      (∀ other, spanAt Prod.snd items other = ⟨2, 6⟩ → (1 : Fin 5) ≤ other) ∧
      chooseDisjoint Prod.snd (chooseDisjoint Prod.snd items) = chooseDisjoint Prod.snd items := by
  intro items others
  have positive : ∀ item ∈ items, 0 < item.2.length := by decide
  have perm : others.Perm items := by decide
  have chosen : (1 : Fin 5) ∈ chosenPositions Prod.snd items := by decide
  obtain ⟨sameStretches, -, isFirst, again⟩ :=
    order_decides_ties_only Prod.snd items positive
  exact ⟨positive, perm, sameStretches others perm, by decide, by decide, isFirst 1 chosen, again⟩

end Tabletop
