import Tabletop.Proofs.Pattern.Hits
import Tabletop.Proofs.Text.Digit

/-!
# The first match in a text

A search stops at the first place where the pattern matches. What it finds is found in the text, and
a part that the pattern always marks is marked there.
-/

namespace Tabletop

namespace Pattern

variable {ι : Type}

/-! ## Where a search stops -/

/-- The hit of a search was made at a place further on. -/
theorem exists_place_of_searchFrom
    {pattern : Pattern ι} {hit : Hit ι} (place : Cursor)
    (isFirst : pattern.searchFrom place.offset place.before place.rest = some hit) :
    ∃ passed rest,
      place.rest = passed ++ rest ∧ pattern.hitAt? (place.past passed rest) = some hit := by
  obtain ⟨offset, before, letters⟩ := place
  induction letters generalizing offset before with
  | nil => exact ⟨[], [], rfl, isFirst⟩
  | cons c letters inductionHypothesis =>
      rw [searchFrom] at isFirst
      cases attempt : pattern.hitAt? ⟨offset, before, c :: letters⟩ with
      | some first =>
          rw [attempt] at isFirst
          obtain rfl := Option.some.inj isFirst
          exact ⟨[], c :: letters, rfl, attempt⟩
      | none =>
          rw [attempt] at isFirst
          obtain ⟨passed, rest, split, found⟩ := inductionHypothesis _ _ isFirst
          have wholeSplit : c :: letters = c :: passed ++ rest := congrArg (c :: ·) split
          refine ⟨c :: passed, rest, wholeSplit, ?_⟩
          rw [Cursor.past_cons, ← show letters = passed ++ rest from split]
          exact found

theorem findsIn_of_search?
    {pattern : Pattern ι} {text : List Char} {hit : Hit ι}
    (isFirst : pattern.search? text = some hit) :
    pattern.FindsIn text hit := by
  obtain ⟨passed, rest, split, found⟩ :=
    exists_place_of_searchFrom (Cursor.front text) isFirst
  obtain ⟨after, restSplit, span, reads⟩ := reads_of_hitAt? found
  rw [Cursor.past_rest] at restSplit
  subst restSplit
  refine ⟨passed, after, split, ?_, reads, found⟩
  simpa [Cursor.front] using span

/-! ## Marks of the first match -/

section Marks

variable [DecidableEq ι]

/-- The text that the first match marks with a label is read by a part with that label, and it is a
stretch of the text. -/
theorem part_of_mark?_search?
    {pattern : Pattern ι} {text : List Char} {label : ι} {said : String}
    (isSaid : (pattern.search? text).bind (·.mark? label) = some said) :
    ∃ inner ∈ pattern.parts label, ∃ innerMarks,
      inner.Reads said.toList innerMarks ∧ said.toList <:+: text := by
  obtain ⟨hit, isFirst, isMarked⟩ := Option.bind_eq_some_iff.1 isSaid
  have found : pattern.FindsIn text hit := findsIn_of_search? isFirst
  obtain ⟨part, member, rfl⟩ := Hit.exists_mem_marks isMarked
  have inside : part <:+: text := found.infix_of_mem_marks member
  obtain ⟨_, _, -, -, reads, -⟩ := found
  obtain ⟨inner, listed, innerMarks, readsPart⟩ := part_of_mem_marks reads member
  rw [String.toList_ofList]
  exact ⟨inner, listed, innerMarks, readsPart, inside⟩

/-- Whether every text that a pattern reads has a part marked with a label. -/
def alwaysMarks (label : ι) : Pattern ι → Bool
  | .nothing | .one _ | .wordEdge | .many _ _ _ => false
  | .andThen first second => first.alwaysMarks label || second.alwaysMarks label
  | .either first second => first.alwaysMarks label && second.alwaysMarks label
  | .mark marked pattern => marked = label || pattern.alwaysMarks label

theorem exists_mark_of_reads
    {pattern : Pattern ι} {label : ι} {text : List Char} {marks : Marks ι}
    (always : pattern.alwaysMarks label = true) (reads : pattern.Reads text marks) :
    ∃ part, (label, part) ∈ marks := by
  induction pattern generalizing text marks with
  | nothing | wordEdge | one set | many set least preference => cases always
  | andThen first second firstStep secondStep =>
      obtain ⟨opening, closing, openingMarks, closingMarks, opens, closes, -, rfl⟩ := reads
      rw [alwaysMarks, Bool.or_eq_true] at always
      rcases always with always | always
      · obtain ⟨part, member⟩ := firstStep always opens
        exact ⟨part, List.mem_append_left _ member⟩
      · obtain ⟨part, member⟩ := secondStep always closes
        exact ⟨part, List.mem_append_right _ member⟩
  | either first second firstStep secondStep =>
      rw [alwaysMarks, Bool.and_eq_true] at always
      rcases reads with reads | reads
      · exact firstStep always.1 reads
      · exact secondStep always.2 reads
  | mark marked pattern inductionHypothesis =>
      obtain ⟨inner, reads, rfl⟩ := reads
      rw [alwaysMarks, Bool.or_eq_true, decide_eq_true_iff] at always
      rcases always with rfl | always
      · exact ⟨text, List.mem_cons_self⟩
      · obtain ⟨part, member⟩ := inductionHypothesis always reads
        exact ⟨part, List.mem_cons_of_mem _ member⟩

/-- A pattern that always marks a part occurs in a text just if its first match marks one. -/
theorem mark?_search?_eq_none_iff
    {pattern : Pattern ι} {label : ι} (always : pattern.alwaysMarks label = true)
    (text : List Char) :
    (pattern.search? text).bind (·.mark? label) = none ↔ pattern.occursIn text = false := by
  cases isFirst : pattern.search? text with
  | none => simp [occursIn, isFirst]
  | some hit =>
      obtain ⟨_, _, -, -, reads, -⟩ := findsIn_of_search? isFirst
      obtain ⟨part, member⟩ := exists_mark_of_reads always reads
      have isMarked : (hit.marks.lookup label).isSome = true := by
        rw [List.lookup_isSome_iff]
        exact ⟨(label, part), member, beq_self_eq_true label⟩
      obtain ⟨known, isKnown⟩ := Option.isSome_iff_exists.1 isMarked
      simp [occursIn, isFirst, Hit.mark?, isKnown]

end Marks

end Pattern

end Tabletop
