import Tabletop.Proofs.Span.Priority

/-!
# One item that meets all others

The longest item is chosen, and of those as long as any the one that starts first. A chosen item
that all others overlap is the only one.
-/

namespace Tabletop

variable {α : Type} {spanOf : α → Span} {item : α} {items : List α}

theorem mem_chooseDisjoint_of_longest
    (member : item ∈ items) (positive : ∀ other ∈ items, 0 < (spanOf other).length)
    (longest : ∀ other ∈ items, (spanOf other).length ≤ (spanOf item).length)
    (first : ∀ other ∈ items, other ≠ item → (spanOf other).length = (spanOf item).length →
      (spanOf item).start < (spanOf other).start) :
    item ∈ chooseDisjoint spanOf items := by
  have someLeads : ∃ position, Leads spanOf items position :=
    exists_leads (List.ne_nil_of_mem member)
  obtain ⟨leader, leads⟩ := someLeads
  obtain ⟨position, rfl⟩ := List.get_of_mem member
  have leaderListed : items.get leader ∈ items := List.get_mem items leader
  have asLong : (spanOf (items.get leader)).length = (spanOf (items.get position)).length :=
    Nat.le_antisymm (longest _ leaderListed) (leads.longest position)
  have same : items.get leader = items.get position := by
    by_contra different
    have isFirst := first _ leaderListed different asLong
    have apart : position ≠ leader := by
      rintro rfl
      exact different rfl
    have leaderFirst := (leads.first position apart asLong.symm).le
    exact absurd isFirst (Nat.not_lt.2 leaderFirst)
  rw [← same, ← map_get_chosenPositions]
  exact List.mem_map_of_mem (leads.mem_chosenPositions positive)

theorem chooseDisjoint_eq_singleton_of_meets
    (chosen : item ∈ chooseDisjoint spanOf items)
    (meets : ∀ other ∈ items,
      (spanOf other).start < (spanOf item).stop ∧ (spanOf item).start < (spanOf other).stop) :
    chooseDisjoint spanOf items = [item] := by
  have apart : (chooseDisjoint spanOf items).Pairwise
      fun one other => (spanOf one).stop ≤ (spanOf other).start := pairwise_chooseDisjoint items
  obtain ⟨before, behind, split⟩ := List.append_of_mem chosen
  have listed : ∀ other ∈ before ++ item :: behind, other ∈ items := by
    rw [← split]
    exact fun other member => mem_of_mem_chooseDisjoint member
  rw [split, List.pairwise_append] at apart
  have nothingBefore : before = [] := by
    apply List.eq_nil_iff_forall_not_mem.2
    intro other member
    have isOver := apart.2.2 other member item List.mem_cons_self
    have overlaps := meets other (listed other (List.mem_append_left _ member))
    omega
  have nothingBehind : behind = [] := by
    apply List.eq_nil_iff_forall_not_mem.2
    intro other member
    have isOver := (List.pairwise_cons.1 apart.2.1).1 other member
    have overlaps :=
      meets other (listed other (List.mem_append_right _ (List.mem_cons_of_mem item member)))
    omega
  rw [split, nothingBefore, nothingBehind, List.nil_append]

/-- A span meets another one that is shorter, or as long and further on. -/
structure Span.Beats (one other : Span) : Prop where
  positive : 0 < other.length
  meets : other.start < one.stop ∧ one.start < other.stop
  better : other.length < one.length ∨ other.length = one.length ∧ one.start < other.start

/-- An item that beats all others is the only one chosen. -/
theorem chooseDisjoint_eq_singleton_of_beats
    (member : item ∈ items) (positive : 0 < (spanOf item).length)
    (beats : ∀ other ∈ items, other = item ∨ (spanOf item).Beats (spanOf other)) :
    chooseDisjoint spanOf items = [item] := by
  have chosen : item ∈ chooseDisjoint spanOf items := by
    apply mem_chooseDisjoint_of_longest member
    · intro other listed
      rcases beats other listed with rfl | beaten
      · exact positive
      · exact beaten.positive
    · intro other listed
      rcases beats other listed with rfl | beaten
      · exact Nat.le_refl _
      · exact beaten.better.elim Nat.le_of_lt fun asLong => Nat.le_of_eq asLong.1
    · intro other listed different asLong
      rcases (beats other listed).resolve_left different |>.better with shorter | further
      · exact absurd asLong (Nat.ne_of_lt shorter)
      · exact further.2
  apply chooseDisjoint_eq_singleton_of_meets chosen
  intro other listed
  rcases beats other listed with rfl | beaten
  · have meetsItself : (spanOf other).start < (spanOf other).stop :=
      Nat.lt_add_of_pos_right positive
    exact ⟨meetsItself, meetsItself⟩
  · exact beaten.meets

/-- Of two items that share their middle, one from the front and one to the end, the one that
reaches further out of the middle is the only one chosen if all others begin in the middle. -/
theorem chooseDisjoint_eq_singleton_of_rivals
    {leading trailing : α} {lead core trail : Nat} (someLead : 0 < lead) (someCore : 0 < core)
    (isLeading : leading ∈ items) (isTrailing : trailing ∈ items)
    (leadingSpan : spanOf leading = ⟨0, lead + core⟩)
    (trailingSpan : spanOf trailing = ⟨lead, core + trail⟩)
    (others : ∀ other ∈ items, other = leading ∨ other = trailing ∨
      lead < (spanOf other).start ∧ (spanOf other).start < lead + core ∧
        0 < (spanOf other).length ∧ (spanOf other).stop ≤ lead + (core + trail)) :
    chooseDisjoint spanOf items = [if trail ≤ lead then leading else trailing] := by
  split
  case isTrue notLonger =>
    apply chooseDisjoint_eq_singleton_of_beats isLeading
    · rw [leadingSpan]
      exact Nat.add_pos_left someLead core
    · intro other listed
      refine (others other listed).imp_right ?_
      rw [leadingSpan]
      rintro (rfl | ⟨behind, before, positive, inside⟩)
      · rw [trailingSpan]
        constructor <;> grind [Span.stop]
      · constructor <;> grind [Span.stop]
  case isFalse longer =>
    apply chooseDisjoint_eq_singleton_of_beats isTrailing
    · rw [trailingSpan]
      exact Nat.add_pos_left someCore trail
    · intro other listed
      rw [trailingSpan]
      rcases others other listed with rfl | rfl | ⟨behind, before, positive, inside⟩
      · rw [leadingSpan]
        refine Or.inr ?_
        constructor <;> grind [Span.stop]
      · exact Or.inl rfl
      · refine Or.inr ?_
        constructor <;> grind [Span.stop]

end Tabletop
