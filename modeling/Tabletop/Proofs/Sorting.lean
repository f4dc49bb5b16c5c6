import Tabletop.Sorting

/-!
# Stable sorting

Sorting rearranges items. If any two may precede one another in at least one of the two ways, each
item of the result may precede all later ones, and items that may precede one another both ways
stay in their order.
-/

namespace Tabletop

variable {α : Type} {precedes : α → α → Bool}

/-! ## Rearrangement -/

section Rearrangement

variable (precedes : α → α → Bool)

theorem perm_insertBy (item : α) :
    ∀ items : List α, (insertBy precedes item items).Perm (item :: items)
  | [] => List.Perm.refl _
  | head :: rest => by
      by_cases first : precedes item head
      · simp [insertBy, first]
      · rw [insertBy, if_neg first]
        exact ((perm_insertBy item rest).cons head).trans (List.Perm.swap item head rest)

theorem perm_sortBy (items : List α) :
    (sortBy precedes items).Perm items := by
  induction items with
  | nil => exact List.Perm.refl _
  | cons item rest inductionHypothesis =>
      exact (perm_insertBy precedes item _).trans (inductionHypothesis.cons item)

end Rearrangement

theorem mem_sortBy_iff {item : α} {items : List α} :
    item ∈ sortBy precedes items ↔ item ∈ items :=
  (perm_sortBy precedes items).mem_iff

/-! ## Order -/

/-- Two items in sorted order: the one may precede the other, and if the other may precede it as
well, it was in front from the start. -/
structure ComesFirst (precedes : α → α → Bool) (inFront : α → α → Prop) (one other : α) : Prop where
  mayPrecede : precedes one other = true
  inFront_of_tied : precedes other one = true → inFront one other

section Order

variable {inFront : α → α → Prop}
  (total : ∀ one other, precedes one other = true ∨ precedes other one = true)
  (transitive : ∀ one middle other,
    precedes one middle = true → precedes middle other = true → precedes one other = true)

include total transitive in
theorem pairwise_insertBy
    {item : α} {items : List α} (inOrder : ∀ other ∈ items, inFront item other)
    (sorted : items.Pairwise (ComesFirst precedes inFront)) :
    (insertBy precedes item items).Pairwise (ComesFirst precedes inFront) := by
  induction items with
  | nil => exact List.pairwise_singleton _ item
  | cons head rest inductionHypothesis =>
      obtain ⟨headFirst, restSorted⟩ := List.pairwise_cons.1 sorted
      obtain ⟨-, restInOrder⟩ := List.forall_mem_cons.1 inOrder
      by_cases first : precedes item head
      · rw [insertBy, if_pos first]
        refine List.pairwise_cons.2 ⟨fun other member => ?_, sorted⟩
        refine ⟨?_, fun _ => inOrder other member⟩
        rcases List.mem_cons.1 member with rfl | member
        · exact first
        · exact transitive item head other first (headFirst other member).mayPrecede
      · rw [insertBy, if_neg first]
        refine List.pairwise_cons.2
          ⟨fun other member => ?_, inductionHypothesis restInOrder restSorted⟩
        rcases List.mem_cons.1 ((perm_insertBy _ item rest).mem_iff.1 member) with rfl | member
        · exact ⟨(total other head).resolve_left first, fun tied => absurd tied first⟩
        · exact headFirst other member

include total transitive in
/-- Sorted items follow one another, and tied ones keep the order that they had. -/
theorem pairwise_sortBy
    {items : List α} (inOrder : items.Pairwise inFront) :
    (sortBy precedes items).Pairwise (ComesFirst precedes inFront) := by
  induction items with
  | nil => exact List.Pairwise.nil
  | cons item rest inductionHypothesis =>
      obtain ⟨itemFirst, restInOrder⟩ := List.pairwise_cons.1 inOrder
      apply pairwise_insertBy total transitive _ (inductionHypothesis restInOrder)
      intro other member
      exact itemFirst other (mem_sortBy_iff.1 member)

include total transitive in
/-- A search of sorted items finds the one that comes first of all that it could find. -/
theorem comesFirst_of_find?_sortBy
    {holds : α → Bool} {items : List α} {item : α} (inOrder : items.Pairwise inFront)
    (found : (sortBy precedes items).find? holds = some item) :
    ∀ other ∈ items, holds other = true →
      other = item ∨ ComesFirst precedes inFront item other := by
  intro other member holdsOfOther
  have sorted := pairwise_sortBy total transitive inOrder
  obtain ⟨-, before, behind, split, passedOver⟩ := List.find?_eq_some_iff_append.1 found
  have placed : other ∈ before ++ item :: behind := by
    rw [← split]
    exact mem_sortBy_iff.2 member
  rw [split] at sorted
  rcases List.mem_append.1 placed with isBefore | rest
  · have fails := passedOver other isBefore
    rw [holdsOfOther] at fails
    exact absurd fails (by decide)
  · rcases List.mem_cons.1 rest with equal | isBehind
    · exact Or.inl equal
    · have itemSorted := (List.pairwise_append.1 sorted).2.1
      exact Or.inr ((List.pairwise_cons.1 itemSorted).1 other isBehind)

end Order

end Tabletop
