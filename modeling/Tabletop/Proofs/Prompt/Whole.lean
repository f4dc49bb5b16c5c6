import Tabletop.Proofs.Prompt.Numbers
import Tabletop.Proofs.Prompt.Placement

/-!
# Prompts that are the whole text

If a form matches a text as a whole, its prompt goes before all shorter ones and before those of
later forms. What earlier forms find does not matter if it begins further on.
-/

namespace Tabletop.Prompt

open Pattern

/-- A hit in front of a text gives the first suggestion of its form. -/
theorem Form.exists_suggestionsIn
    {form : Form} {text : List Char} {hit : Hit Label} {reading : Reading}
    {suggestion : Suggestion} {list : List Suggestion} (nonempty : text ≠ [])
    (found : form.pattern.hitAt? (Cursor.front text) = some hit)
    (read : form.read hit = .ok reading) (made : form.suggestion? hit reading = some suggestion)
    (done : form.suggestionsIn text = .ok list) :
    ∃ others, list = suggestion :: others := by
  obtain ⟨laterHits, scanned⟩ := scan_eq_cons nonempty found
  simp only [Form.suggestionsIn, scanned, List.mapM_cons, bind_eq_ok_iff, pure_eq_ok_iff] at done
  obtain ⟨_, ⟨_, ⟨sameReading, readAgain, rfl⟩, others, -, rfl⟩, rfl⟩ := done
  obtain rfl : reading = sameReading := Except.ok.inj (read.symm.trans readAgain)
  exact ⟨others.filterMap id, by simp [made]⟩

/-- A form that does not match at the beginning of a text proposes nothing there. -/
theorem Form.Proposes.start_ne_zero
    {form : Form} {text : List Char} {suggestion : Suggestion}
    (proposed : form.Proposes text suggestion)
    (unmatched : form.pattern.hitAt? (Cursor.front text) = none) :
    suggestion.span.start ≠ 0 := by
  obtain ⟨hit, member, reading, -, made⟩ := proposed
  obtain ⟨before, rest, split, span, -, found⟩ := findsIn_of_mem_scan member
  rw [(Form.suggestion?_base made).1, span]
  intro isStart
  obtain rfl : before = [] := List.length_eq_zero_iff.1 isStart
  rw [List.nil_append] at split
  have atFront : (Cursor.front text).past [] text = Cursor.front text := Cursor.past_nil _
  rw [← split, atFront, unmatched] at found
  cases found

/-- Of a text that a form matches as a whole, while no form before it matches at its beginning, the
prompt of this form is all that is found. -/
theorem suggestions_eq_singleton
    {text : String} {earlier later : List Form} {form : Form} {hit : Hit Label}
    {reading : Reading} {suggestion : Suggestion}
    (fit : NumbersFit text.toList) (nonempty : text.toList ≠ [])
    (forms : Form.all = earlier ++ form :: later)
    (unmatched : ∀ other ∈ earlier, other.pattern.hitAt? (Cursor.front text.toList) = none)
    (found : form.pattern.hitAt? (Cursor.front text.toList) = some hit)
    (whole : hit.span = ⟨0, text.length⟩)
    (read : form.read hit = .ok reading) (made : form.suggestion? hit reading = some suggestion) :
    suggestions text = .ok [suggestion] := by
  obtain ⟨chosen, done⟩ := exists_suggestions fit
  obtain ⟨all, allDone, rfl⟩ := suggestions_eq_ok_iff.1 done
  rw [done]
  have within : ∀ item ∈ all, LiesWithin Suggestion.span text.length item := by
    intro item member
    obtain ⟨other, listed, proposed⟩ := (mem_candidates_iff allDone).1 member
    have stands := proposed.stands listed
    exact ⟨stands.positive, stands.inside⟩
  have isWhole : coversAll Suggestion.span text.length suggestion = true := by
    obtain ⟨span, -⟩ := Form.suggestion?_base made
    rw [coversAll, span, whole, beq_self_eq_true]
  have isFirst : all.find? (coversAll Suggestion.span text.length) = some suggestion := by
    obtain ⟨lists, listsDone, rfl⟩ := map_eq_ok_iff.1 allDone
    rw [forms] at listsDone
    obtain ⟨earlierLists, list, laterLists, earlierDone, listDone, rfl⟩ :=
      split_of_mapM_eq_ok listsDone
    obtain ⟨others, isList⟩ := Form.exists_suggestionsIn nonempty found read made listDone
    have notEarlier :
        earlierLists.flatten.find? (coversAll Suggestion.span text.length) = none := by
      rw [List.find?_eq_none]
      intro item member covers
      obtain ⟨list, listed, member⟩ := List.mem_flatten.1 member
      obtain ⟨other, otherMember, otherDone⟩ := (mem_of_mapM_eq_ok earlierDone).1 listed
      have proposed := (Form.mem_suggestionsIn_iff otherDone).1 member
      exact proposed.start_ne_zero (unmatched other otherMember) (coversAll_iff.1 covers).1
    rw [List.flatten_append, List.flatten_cons, List.find?_append, notEarlier, isList]
    simp [isWhole]
  rw [chooseDisjoint_eq_singleton within isFirst]

end Tabletop.Prompt
