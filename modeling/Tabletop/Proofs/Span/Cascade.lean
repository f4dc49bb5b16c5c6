import Mathlib.Data.List.FinRange
import Mathlib.Logic.Relation
import Tabletop.Proofs.Span.Choice
import Tabletop.Proofs.Span.Parts

/-!
# Items that give way

An item is left out of a choice because it overlaps another one that is at least as long. That one
may be replaced by a longer one further on, which may be replaced in turn. Such a cascade ends with
a chosen item, but the item that gave way first need not overlap it. The longest item of all is
chosen whatever stands around it.
-/

namespace Tabletop

variable {α : Type}

/-! ## Stretches -/

namespace Span

/-- A stretch gives way to one that it overlaps and that is at least as long. -/
def GivesWayTo (one other : Span) : Prop :=
  one.overlaps other = true ∧ one.length ≤ other.length

/-- A stretch is replaced by a longer one that starts in it and reaches beyond it. -/
structure ReplacedBy (one other : Span) : Prop where
  overlaps : one.overlaps other = true
  start : one.start ≤ other.start
  stop : one.stop < other.stop
  length : one.length < other.length

theorem overlaps_iff {one other : Span} :
    one.overlaps other = true ↔ one.start < other.stop ∧ other.start < one.stop := by
  rw [overlaps, Bool.and_eq_true, decide_eq_true_eq, decide_eq_true_eq]

theorem ReplacedBy.givesWayTo {one other : Span} (replaced : one.ReplacedBy other) :
    one.GivesWayTo other :=
  ⟨replaced.overlaps, Nat.le_of_lt replaced.length⟩

end Span

/-! ## One step of a choice -/

section Choosing

variable {spanOf : α → Span}

/-- Whether an item is replaced by another one. -/
abbrev ReplacedBy (spanOf : α → Span) (one other : α) : Prop :=
  (spanOf one).ReplacedBy (spanOf other)

theorem Ascending.without_second
    {kept item : α} {rest : List α} (ascending : Ascending spanOf (kept :: item :: rest)) :
    Ascending spanOf (kept :: rest) :=
  ascending.sublist ((List.sublist_cons_self item rest).cons_cons kept)

/-- The next item stands apart from the kept one, replaces it or gives way to it. -/
theorem chooseAfter_cons_cases
    {kept item : α} (rest : List α)
    (inOrder : (spanOf kept).start ≤ (spanOf item).start)
    (positive : 0 < (spanOf item).length) :
    chooseAfter spanOf kept (item :: rest) = kept :: chooseAfter spanOf item rest ∨
      (ReplacedBy spanOf kept item ∧
        chooseAfter spanOf kept (item :: rest) = chooseAfter spanOf item rest) ∨
      ((spanOf item).GivesWayTo (spanOf kept) ∧
        chooseAfter spanOf kept (item :: rest) = chooseAfter spanOf kept rest) := by
  by_cases apart : (spanOf kept).stop ≤ (spanOf item).start
  · left
    rw [chooseAfter, if_pos apart]
  · right
    have before : (spanOf kept).start < (spanOf item).stop := by
      rw [Span.stop]
      omega
    have together : (spanOf item).start < (spanOf kept).stop := Nat.lt_of_not_le apart
    rw [chooseAfter, if_neg apart]
    by_cases beaten :
        (spanOf kept).stop < (spanOf item).stop ∧ (spanOf kept).length < (spanOf item).length
    · left
      obtain ⟨further, longer⟩ := beaten
      refine ⟨⟨Span.overlaps_iff.2 ⟨before, together⟩, inOrder, further, longer⟩, ?_⟩
      simp only [further, longer, decide_true, Bool.and_self, if_true]
    · right
      -- an item that starts later and reaches no further is no longer either
      have notLonger : (spanOf item).length ≤ (spanOf kept).length := by
        simp only [Span.stop] at beaten
        omega
      refine ⟨⟨Span.overlaps_iff.2 ⟨together, before⟩, notLonger⟩, ?_⟩
      rw [if_neg]
      rw [Bool.and_eq_true, decide_eq_true_eq, decide_eq_true_eq]
      exact beaten

/-! ## Cascades -/

/-- A cascade of replacements leads from an item to a chosen one. -/
def CascadesTo (spanOf : α → Span) (chosen : List α) (item : α) : Prop :=
  ∃ last ∈ chosen, Relation.ReflTransGen (ReplacedBy spanOf) item last

theorem cascadesTo_of_mem {chosen : List α} {item : α} (member : item ∈ chosen) :
    CascadesTo spanOf chosen item :=
  ⟨item, member, Relation.ReflTransGen.refl⟩

theorem CascadesTo.head
    {chosen : List α} {item next : α} (replaced : ReplacedBy spanOf item next)
    (onward : CascadesTo spanOf chosen next) :
    CascadesTo spanOf chosen item := by
  obtain ⟨last, member, cascade⟩ := onward
  exact ⟨last, member, cascade.head replaced⟩

theorem CascadesTo.cons
    {chosen : List α} {item : α} (cascades : CascadesTo spanOf chosen item) (first : α) :
    CascadesTo spanOf (first :: chosen) item := by
  obtain ⟨last, member, cascade⟩ := cascades
  exact ⟨last, List.mem_cons_of_mem first member, cascade⟩

theorem stop_le_of_cascade
    {item last : α} (cascade : Relation.ReflTransGen (ReplacedBy spanOf) item last) :
    (spanOf item).stop ≤ (spanOf last).stop := by
  induction cascade with
  | refl => exact Nat.le_refl _
  | tail _ replaced inductionHypothesis =>
      exact Nat.le_trans inductionHypothesis (Nat.le_of_lt replaced.stop)

theorem cascadesTo_of_kept
    {kept : α} {items : List α} (ascending : Ascending spanOf (kept :: items))
    (positive : ∀ item ∈ items, 0 < (spanOf item).length) :
    CascadesTo spanOf (chooseAfter spanOf kept items) kept := by
  induction items generalizing kept with
  | nil => exact cascadesTo_of_mem (List.mem_singleton_self kept)
  | cons item rest inductionHypothesis =>
      obtain ⟨keptFirst, tailAscending⟩ := List.pairwise_cons.1 ascending
      obtain ⟨itemPositive, restPositive⟩ := List.forall_mem_cons.1 positive
      rcases chooseAfter_cons_cases rest (keptFirst item List.mem_cons_self) itemPositive with
        apart | ⟨replaced, isChoice⟩ | ⟨-, isChoice⟩
      · rw [apart]
        exact cascadesTo_of_mem List.mem_cons_self
      · rw [isChoice]
        exact (inductionHypothesis tailAscending restPositive).head replaced
      · rw [isChoice]
        exact inductionHypothesis ascending.without_second restPositive

/-- A cascade leads to a chosen item, be it from an item itself or from one that it gives way to. -/
def HasRival (spanOf : α → Span) (chosen : List α) (item : α) : Prop :=
  CascadesTo spanOf chosen item ∨
    ∃ rival, (spanOf item).GivesWayTo (spanOf rival) ∧ CascadesTo spanOf chosen rival

theorem HasRival.cons
    {chosen : List α} {item : α} (hasRival : HasRival spanOf chosen item) (first : α) :
    HasRival spanOf (first :: chosen) item := by
  rcases hasRival with cascades | ⟨rival, givesWay, cascades⟩
  · exact Or.inl (cascades.cons first)
  · exact Or.inr ⟨rival, givesWay, cascades.cons first⟩

theorem hasRival_of_mem
    {kept : α} {items : List α} (ascending : Ascending spanOf (kept :: items))
    (positive : ∀ item ∈ items, 0 < (spanOf item).length) :
    ∀ item ∈ kept :: items, HasRival spanOf (chooseAfter spanOf kept items) item := by
  refine List.forall_mem_cons.2 ⟨Or.inl (cascadesTo_of_kept ascending positive), ?_⟩
  induction items generalizing kept with
  | nil => exact fun item member => absurd member List.not_mem_nil
  | cons item rest inductionHypothesis =>
      obtain ⟨keptFirst, tailAscending⟩ := List.pairwise_cons.1 ascending
      obtain ⟨itemPositive, restPositive⟩ := List.forall_mem_cons.1 positive
      have itemLasts := cascadesTo_of_kept tailAscending restPositive
      refine List.forall_mem_cons.2 ?_
      rcases chooseAfter_cons_cases rest (keptFirst item List.mem_cons_self) itemPositive with
        apart | ⟨-, isChoice⟩ | ⟨givesWay, isChoice⟩
      · rw [apart]
        refine ⟨Or.inl (itemLasts.cons kept), fun other member => ?_⟩
        exact (inductionHypothesis tailAscending restPositive other member).cons kept
      · rw [isChoice]
        exact ⟨Or.inl itemLasts, inductionHypothesis tailAscending restPositive⟩
      · have keptLasts := cascadesTo_of_kept ascending.without_second restPositive
        rw [isChoice]
        exact ⟨Or.inr ⟨kept, givesWay, keptLasts⟩,
          inductionHypothesis ascending.without_second restPositive⟩

/-- An item that is left out gives way to one from which a cascade leads to a chosen item. -/
theorem exists_rival_of_left_out
    {items : List α} (positive : ∀ item ∈ items, 0 < (spanOf item).length)
    {item : α} (member : item ∈ items) (leftOut : item ∉ chooseDisjoint spanOf items) :
    ∃ rival, (spanOf item).GivesWayTo (spanOf rival) ∧
      CascadesTo spanOf (chooseDisjoint spanOf items) rival := by
  have ascending := ascending_sortByStart spanOf items
  have sortedMember : item ∈ sortByStart spanOf items := mem_sortByStart_iff.2 member
  have sortedPositive : ∀ other ∈ sortByStart spanOf items, 0 < (spanOf other).length :=
    fun other listed => positive other (mem_sortByStart_iff.1 listed)
  unfold chooseDisjoint at leftOut ⊢
  cases sorted : sortByStart spanOf items with
  | nil =>
      rw [sorted] at sortedMember
      cases sortedMember
  | cons first rest =>
      rw [sorted] at ascending sortedMember sortedPositive leftOut
      obtain ⟨-, restPositive⟩ := List.forall_mem_cons.1 sortedPositive
      rcases hasRival_of_mem ascending restPositive item sortedMember with
        ⟨last, chosen, cascade⟩ | gaveWay
      · -- the item was kept for a while, so the first replacement is what it gave way to
        rcases Relation.ReflTransGen.cases_head cascade with rfl | ⟨next, replaced, onward⟩
        · exact absurd chosen leftOut
        · exact ⟨next, replaced.givesWayTo, last, chosen, onward⟩
      · exact gaveWay

end Choosing

/-! ## Positions -/

section Positions

variable (spanOf : α → Span) (items : List α)

/-- The stretch of the item at a position. -/
def spanAt (position : Fin items.length) : Span :=
  spanOf (items.get position)

/-- The positions of the chosen items. -/
def chosenPositions : List (Fin items.length) :=
  chooseDisjoint (spanAt spanOf items) (List.finRange items.length)

theorem map_get_chosenPositions :
    (chosenPositions spanOf items).map items.get = chooseDisjoint spanOf items := by
  have spans (position : Fin items.length) :
      spanOf (items.get position) = (spanAt spanOf items position).later 0 := rfl
  rw [chosenPositions, ← chooseDisjoint_map spans, List.map_get_finRange]

variable {spanOf items}

theorem exists_rival_of_not_mem_chosenPositions
    (positive : ∀ item ∈ items, 0 < (spanOf item).length)
    {position : Fin items.length} (leftOut : position ∉ chosenPositions spanOf items) :
    ∃ rival, (spanAt spanOf items position).GivesWayTo (spanAt spanOf items rival) ∧
      CascadesTo (spanAt spanOf items) (chosenPositions spanOf items) rival := by
  have positionsPositive :
      ∀ position ∈ List.finRange items.length, 0 < (spanAt spanOf items position).length :=
    fun position _ => positive _ (List.get_mem items position)
  exact exists_rival_of_left_out positionsPositive (List.mem_finRange position) leftOut

end Positions

/-- An item that is left out overlaps a chosen one, or else it lies before a chosen one to which a
cascade leads from the item that it gave way to. -/
theorem left_out_items_overlap_or_cascade
    (spanOf : α → Span) (items : List α) (positive : ∀ item ∈ items, 0 < (spanOf item).length) :
    (chosenPositions spanOf items).map items.get = chooseDisjoint spanOf items ∧
    ∀ position, position ∉ chosenPositions spanOf items →
      (∃ winner ∈ chosenPositions spanOf items,
        (spanAt spanOf items position).overlaps (spanAt spanOf items winner) = true) ∨
      ∃ rival, ∃ winner ∈ chosenPositions spanOf items,
        (spanAt spanOf items position).GivesWayTo (spanAt spanOf items rival) ∧
          Relation.TransGen (ReplacedBy (spanAt spanOf items)) rival winner ∧
          (spanAt spanOf items position).stop ≤ (spanAt spanOf items winner).start := by
  refine ⟨map_get_chosenPositions spanOf items, fun position leftOut => ?_⟩
  obtain ⟨rival, givesWay, winner, chosen, cascade⟩ :=
    exists_rival_of_not_mem_chosenPositions positive leftOut
  have meets := Span.overlaps_iff.1 givesWay.1
  have reaches := stop_le_of_cascade cascade
  by_cases before :
      (spanAt spanOf items position).stop ≤ (spanAt spanOf items winner).start
  · right
    rcases Relation.reflTransGen_iff_eq_or_transGen.1 cascade with rfl | cascade
    · exact absurd meets.2 (Nat.not_lt.2 before)
    · exact ⟨rival, winner, chosen, givesWay, cascade, before⟩
  · left
    refine ⟨winner, chosen, Span.overlaps_iff.2 ⟨?_, Nat.lt_of_not_le before⟩⟩
    exact Nat.lt_of_lt_of_le meets.1 reaches

/-- Two replacements leave the first of three stretches out although nothing that is chosen overlaps
it. -/
theorem cascades_leave_gaps :
    let spans : List Span := [⟨0, 4⟩, ⟨3, 6⟩, ⟨8, 12⟩]
    (∀ span ∈ spans, 0 < (id span).length) ∧
      chooseDisjoint id spans = [⟨8, 12⟩] ∧
      (0 : Fin 3) ∉ chosenPositions id spans ∧
      ¬∃ winner ∈ chosenPositions id spans,
        (spanAt id spans (0 : Fin 3)).overlaps (spanAt id spans winner) = true := by
  decide

theorem left_out_items_overlap_or_cascade_in_three_spans :
    let spans : List Span := [⟨0, 4⟩, ⟨3, 6⟩, ⟨8, 12⟩]
    (∀ span ∈ spans, 0 < (id span).length) ∧
      (0 : Fin 3) ∉ chosenPositions id spans ∧
      ∃ rival, ∃ winner ∈ chosenPositions id spans,
        (spanAt id spans (0 : Fin 3)).GivesWayTo (spanAt id spans rival) ∧
          Relation.TransGen (ReplacedBy (spanAt id spans)) rival winner ∧
          (spanAt id spans (0 : Fin 3)).stop ≤ (spanAt id spans winner).start := by
  intro spans
  have positive : ∀ span ∈ spans, 0 < (id span).length := by decide
  have leftOut : (0 : Fin 3) ∉ chosenPositions id spans := by decide
  have apart :
      ¬∃ winner ∈ chosenPositions id spans,
        (spanAt id spans (0 : Fin 3)).overlaps (spanAt id spans winner) = true := by
    decide
  obtain ⟨-, gaveWay⟩ := left_out_items_overlap_or_cascade id spans positive
  exact ⟨positive, leftOut, (gaveWay 0 leftOut).resolve_left apart⟩

end Tabletop
