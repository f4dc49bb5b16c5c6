import Tabletop.Proofs.Sorting
import Tabletop.Span

/-!
# Choices without overlaps

The choice among items in a text keeps items of the text, leaves each to end before the next one
starts, and keeps nothing but the first item that covers everything, if there is one.
-/

namespace Tabletop

variable {α : Type}

variable {spanOf : α → Span}

/-! ## Sorting -/

theorem mem_sortByStart_iff {item : α} {items : List α} :
    item ∈ sortByStart spanOf items ↔ item ∈ items :=
  mem_sortBy_iff

/-- Items sorted by their starts, of which those that start together keep their order. -/
theorem pairwise_sortByStart
    {inFront : α → α → Prop} {items : List α} (inOrder : items.Pairwise inFront) :
    (sortByStart spanOf items).Pairwise fun one other =>
      (spanOf one).start ≤ (spanOf other).start ∧
        ((spanOf other).start ≤ (spanOf one).start → inFront one other) := by
  have total : ∀ one other : α,
      decide ((spanOf one).start ≤ (spanOf other).start) = true ∨
        decide ((spanOf other).start ≤ (spanOf one).start) = true :=
    fun one other =>
      (Nat.le_total (spanOf one).start (spanOf other).start).imp decide_eq_true decide_eq_true
  have sorted := pairwise_sortBy total
    (fun _ _ _ first second =>
      decide_eq_true (Nat.le_trans (of_decide_eq_true first) (of_decide_eq_true second)))
    inOrder
  refine List.Pairwise.imp (fun comesFirst => ⟨?_, fun tied => ?_⟩) sorted
  · exact of_decide_eq_true comesFirst.mayPrecede
  · exact comesFirst.inFront_of_tied (decide_eq_true tied)

/-- Items in the order of where they start. -/
def Ascending (spanOf : α → Span) (items : List α) : Prop :=
  items.Pairwise fun one other => (spanOf one).start ≤ (spanOf other).start

theorem ascending_sortByStart (spanOf : α → Span) (items : List α) :
    Ascending spanOf (sortByStart spanOf items) :=
  (pairwise_sortByStart (List.pairwise_of_forall fun _ _ => trivial)).imp And.left

/-! ## Choosing -/

theorem mem_of_mem_chooseAfter
    {kept chosen : α} {items : List α} (member : chosen ∈ chooseAfter spanOf kept items) :
    chosen = kept ∨ chosen ∈ items := by
  induction items generalizing kept with
  | nil => exact Or.inl (List.mem_singleton.1 member)
  | cons item rest inductionHypothesis =>
      unfold chooseAfter at member
      split at member
      · rcases List.mem_cons.1 member with equal | member
        · exact Or.inl equal
        · exact Or.inr (List.mem_cons.2 (inductionHypothesis member))
      · split at member
        · exact Or.inr (List.mem_cons.2 (inductionHypothesis member))
        · exact (inductionHypothesis member).imp_right (List.mem_cons_of_mem item)

/-- A chosen item is one of the given ones. -/
theorem mem_of_mem_chooseDisjoint
    {chosen : α} {items : List α} (member : chosen ∈ chooseDisjoint spanOf items) :
    chosen ∈ items := by
  unfold chooseDisjoint at member
  split at member
  · simp at member
  · next first rest sorted =>
      have listed : chosen ∈ sortByStart spanOf items := by
        rw [sorted]
        exact List.mem_cons.2 (mem_of_mem_chooseAfter member)
      exact mem_sortByStart_iff.1 listed

/-- What is chosen after a kept item starts no earlier than that item. In the order of starts the
replacement of the last kept item therefore leaves those before it undisturbed. -/
theorem pairwise_chooseAfter
    {kept : α} {items : List α} (ascending : Ascending spanOf (kept :: items)) :
    (chooseAfter spanOf kept items).Pairwise
      fun one other => (spanOf one).stop ≤ (spanOf other).start := by
  induction items generalizing kept with
  | nil => exact List.pairwise_singleton _ kept
  | cons item rest inductionHypothesis =>
      obtain ⟨keptFirst, tailAscending⟩ := List.pairwise_cons.1 ascending
      unfold chooseAfter
      split
      · next apart =>
          refine List.pairwise_cons.2 ⟨fun other member => ?_, inductionHypothesis tailAscending⟩
          refine Nat.le_trans apart ?_
          rcases mem_of_mem_chooseAfter member with rfl | member
          · exact Nat.le_refl _
          · exact (List.pairwise_cons.1 tailAscending).1 other member
      · split
        · exact inductionHypothesis tailAscending
        · apply inductionHypothesis
          exact ascending.sublist ((List.sublist_cons_self item rest).cons_cons kept)

/-- Each chosen item ends before the later ones start. -/
theorem pairwise_chooseDisjoint (items : List α) :
    (chooseDisjoint spanOf items).Pairwise
      fun one other => (spanOf one).stop ≤ (spanOf other).start := by
  have ascending := ascending_sortByStart spanOf items
  unfold chooseDisjoint
  split
  · exact List.Pairwise.nil
  · next first rest sorted =>
      rw [sorted] at ascending
      exact pairwise_chooseAfter ascending

/-! ## One item that covers everything -/

section Whole

variable {size : Nat}

/-- Whether an item covers a text of some length. -/
def coversAll (spanOf : α → Span) (size : Nat) (item : α) : Bool :=
  spanOf item == ⟨0, size⟩

theorem coversAll_iff {item : α} :
    coversAll spanOf size item ↔ (spanOf item).start = 0 ∧ (spanOf item).length = size := by
  cases span : spanOf item with
  | mk start length => simp [coversAll, span]

/-- An item lies in a text of some length and covers some of it. -/
def LiesWithin (spanOf : α → Span) (size : Nat) (item : α) : Prop :=
  0 < (spanOf item).length ∧ (spanOf item).stop ≤ size

theorem find?_insertBy (spanOf : α → Span) (size : Nat) (item : α) (items : List α) :
    (insertBy (fun one other => (spanOf one).start ≤ (spanOf other).start) item items).find?
        (coversAll spanOf size) =
      (item :: items).find? (coversAll spanOf size) := by
  induction items with
  | nil => rfl
  | cons head rest inductionHypothesis =>
      by_cases first : (spanOf item).start ≤ (spanOf head).start
      · simp only [insertBy, first, decide_true, if_true]
      · simp only [insertBy, first, decide_false, Bool.false_eq_true, if_false]
        -- An item that starts behind another one does not cover everything.
        have partly : coversAll spanOf size item = false := by
          rw [← Bool.not_eq_true, coversAll_iff]
          omega
        rw [List.find?_cons, List.find?_cons, List.find?_cons, inductionHypothesis,
          List.find?_cons, partly]

theorem find?_sortByStart (items : List α) :
    (sortByStart spanOf items).find? (coversAll spanOf size) =
      items.find? (coversAll spanOf size) := by
  induction items with
  | nil => rfl
  | cons item rest inductionHypothesis =>
      have step := find?_insertBy spanOf size item (sortByStart spanOf rest)
      rw [List.find?_cons, inductionHypothesis, ← List.find?_cons] at step
      exact step

/-- Once an item that covers everything is kept, nothing is behind it or reaches beyond it. -/
theorem chooseAfter_of_coversAll
    {kept : α} {items : List α}
    (covers : coversAll spanOf size kept)
    (within : ∀ item ∈ items, LiesWithin spanOf size item) :
    chooseAfter spanOf kept items = [kept] := by
  obtain ⟨keptFirst, keptLength⟩ := coversAll_iff.1 covers
  induction items with
  | nil => rfl
  | cons item rest inductionHypothesis =>
      obtain ⟨positive, inside⟩ := within item (by simp)
      have together : ¬ (spanOf kept).stop ≤ (spanOf item).start := by
        simp only [Span.stop] at inside ⊢
        omega
      have further : ¬ (spanOf kept).stop < (spanOf item).stop := by
        simp only [Span.stop] at inside ⊢
        omega
      simp only [chooseAfter, together, further, if_false, decide_false, Bool.false_and,
        Bool.false_eq_true]
      exact inductionHypothesis fun other member => within other (List.mem_cons_of_mem item member)

theorem chooseAfter_eq_singleton
    {kept whole : α} {items : List α}
    (ascending : Ascending spanOf (kept :: items))
    (within : ∀ item ∈ kept :: items, LiesWithin spanOf size item)
    (found : (kept :: items).find? (coversAll spanOf size) = some whole) :
    chooseAfter spanOf kept items = [whole] := by
  have wholeCovers : coversAll spanOf size whole := List.find?_some found
  obtain ⟨wholeFirst, wholeLength⟩ := coversAll_iff.1 wholeCovers
  induction items generalizing kept with
  | nil => rw [chooseAfter, List.mem_singleton.1 (List.mem_of_find?_eq_some found)]
  | cons item rest inductionHypothesis =>
      by_cases covers : coversAll spanOf size kept
      · rw [List.find?_cons_of_pos covers] at found
        rw [← Option.some.inj found]
        exact chooseAfter_of_coversAll covers
          fun other member => within other (List.mem_cons_of_mem kept member)
      · rw [List.find?_cons_of_neg covers] at found
        obtain ⟨keptFirst, itemAscending⟩ := List.pairwise_cons.1 ascending
        obtain ⟨keptPositive, keptInside⟩ := within kept (by simp)
        rw [Span.stop] at keptInside
        -- Up to the item that covers everything all items start where the text does.
        have member : whole ∈ item :: rest := List.mem_of_find?_eq_some found
        have keptStart := keptFirst whole member
        have itemStart := keptFirst item (by simp)
        have itemEarly : (spanOf item).start ≤ (spanOf whole).start := by
          rcases List.mem_cons.1 member with rfl | member
          · exact Nat.le_refl _
          · exact (List.pairwise_cons.1 itemAscending).1 whole member
        have together : ¬ (spanOf kept).stop ≤ (spanOf item).start := by
          simp only [Span.stop]
          omega
        rw [chooseAfter, if_neg together]
        split
        · exact inductionHypothesis itemAscending
            (fun other member => within other (List.mem_cons_of_mem kept member)) found
        · next shorter =>
            have partly : ¬ coversAll spanOf size item := by
              intro itemCovers
              apply shorter
              rw [coversAll_iff] at covers itemCovers
              refine Bool.and_eq_true_iff.2 ⟨decide_eq_true ?_, decide_eq_true ?_⟩
              · rw [Span.stop, Span.stop]
                omega
              · omega
            apply inductionHypothesis
            · exact ascending.sublist ((List.sublist_cons_self item rest).cons_cons kept)
            · intro other member
              apply within other
              rcases List.mem_cons.1 member with rfl | member
              · exact List.mem_cons_self
              · exact List.mem_cons_of_mem kept (List.mem_cons_of_mem item member)
            · rw [List.find?_cons_of_neg partly] at found
              rw [List.find?_cons_of_neg covers]
              exact found

/-- Of items in a text the first one that covers all of it is chosen alone. -/
theorem chooseDisjoint_eq_singleton
    {whole : α} {items : List α}
    (within : ∀ item ∈ items, LiesWithin spanOf size item)
    (found : items.find? (coversAll spanOf size) = some whole) :
    chooseDisjoint spanOf items = [whole] := by
  have ascending := ascending_sortByStart spanOf items
  have sortedWithin : ∀ item ∈ sortByStart spanOf items, LiesWithin spanOf size item :=
    fun item member => within item (mem_sortByStart_iff.1 member)
  rw [← find?_sortByStart] at found
  unfold chooseDisjoint
  split
  · next sorted =>
      rw [sorted] at found
      cases found
  · next first rest sorted =>
      rw [sorted] at ascending sortedWithin found
      exact chooseAfter_eq_singleton ascending sortedWithin found

end Whole

end Tabletop
