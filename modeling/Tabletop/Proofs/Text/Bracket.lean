import Mathlib.Data.Bool.AllAny
import Tabletop.Proofs.Skill

/-!
# Brackets and case

A change of case makes no opening bracket: the only character whose lower-case or title form has
one is the bracket itself.
-/

namespace Tabletop

namespace Text

variable {c x : Char}

/-- The images of a run leave out the code point of the opening bracket. -/
def CaseShift.avoidsBracket (run : CaseShift) : Bool :=
  Nat.blt '['.toNat run.image || Nat.blt run.lastImage '['.toNat

theorem ofNat_ne_bracket {code : Nat} (other : code ≠ '['.toNat) : Char.ofNat code ≠ '[' := by
  intro same
  by_cases valid : code.isValidChar
  · have sameCode : (Char.ofNat code).toNat = code := by
      rw [Char.ofNat, dif_pos valid]
      rfl
    rw [same] at sameCode
    exact other sameCode.symm
  · rw [Char.ofNat, dif_neg valid] at same
    exact absurd same (by decide)

theorem shiftCase_ne_bracket
    {runs : List CaseShift} (avoids : (runs.all CaseShift.avoidsBracket) = true)
    (other : c ≠ '[') : shiftCase runs c ≠ '[' := by
  rw [shiftCase]
  cases moved : runs.findSome? fun run => run.apply? c.toNat with
  | none => exact other
  | some image =>
      obtain ⟨run, listed, byRun⟩ := List.exists_of_findSome?_eq_some moved
      have avoided := List.all_eq_true.1 avoids run listed
      obtain ⟨first, last, -, isImage⟩ := CaseShift.of_moved byRun
      simp only [CaseShift.avoidsBracket, CaseShift.lastImage, Bool.or_eq_true,
        Nat.blt_eq] at avoided
      apply ofNat_ne_bracket
      omega

theorem loweredTable_avoidsBracket : (loweredTable.all CaseShift.avoidsBracket) = true := by
  decide

theorem titledTable_avoidsBracket : (titledTable.all CaseShift.avoidsBracket) = true := by
  decide

theorem titledExpansions_avoid_bracket :
    (titledExpansions.all fun expansion =>
      expansion.2.all fun code => code != '['.toNat) = true := by
  decide

theorem ne_bracket_of_mem_lowerBetween
    {before after : List Char} (other : c ≠ '[') (member : x ∈ lowerBetween before c after) :
    x ≠ '[' := by
  rw [lowerBetween] at member
  split at member
  · obtain rfl := List.mem_singleton.1 member
    split <;> decide
  · rw [lowerChar] at member
    split at member
    · rename_i plain
      obtain rfl := List.mem_singleton.1 member
      have only : (c == '[' || c.toLower != '[') = true :=
        of_plain (fun c => c == '[' || c.toLower != '[') plain (by decide)
      simpa [other] using only
    · split at member
      · have letters : ∀ x ∈ ['i', '\u0307'], x ≠ '[' :=
          List.all_iff_forall_prop.1 (by decide)
        exact letters x member
      · obtain rfl := List.mem_singleton.1 member
        exact shiftCase_ne_bracket loweredTable_avoidsBracket other

theorem ne_bracket_of_mem_titleChar (other : c ≠ '[') (member : x ∈ titleChar c) : x ≠ '[' := by
  rw [titleChar] at member
  split at member
  · rename_i plain
    obtain rfl := List.mem_singleton.1 member
    have only : (c == '[' || c.toUpper != '[') = true :=
      of_plain (fun c => c == '[' || c.toUpper != '[') plain (by decide)
    simpa [other] using only
  · split at member
    · rename_i codes found
      obtain ⟨code, listed, rfl⟩ := List.mem_map.1 member
      obtain ⟨before, after, split, -⟩ := List.lookup_eq_some_iff.1 found
      have expansion : (c.toNat, codes) ∈ titledExpansions := by
        rw [split]
        simp
      have avoided := List.all_eq_true.1 titledExpansions_avoid_bracket _ expansion
      exact ofNat_ne_bracket (bne_iff_ne.1 (List.all_eq_true.1 avoided code listed))
    · obtain rfl := List.mem_singleton.1 member
      exact shiftCase_ne_bracket titledTable_avoidsBracket other

theorem unopened_lowerAfter {before text : List Char} (unopened : '[' ∉ text) :
    '[' ∉ lowerAfter before text := by
  induction text generalizing before with
  | nil => exact unopened
  | cons c rest inductionHypothesis =>
      rw [List.mem_cons, not_or] at unopened
      rw [lowerAfter, List.mem_append, not_or]
      exact ⟨fun member => ne_bracket_of_mem_lowerBetween (Ne.symm unopened.1) member rfl,
        inductionHypothesis unopened.2⟩

theorem unopened_titleAfter {before text : List Char} (unopened : '[' ∉ text) :
    '[' ∉ titleAfter before text := by
  induction text generalizing before with
  | nil => exact unopened
  | cons c rest inductionHypothesis =>
      rw [List.mem_cons, not_or] at unopened
      rw [titleAfter, List.mem_append, not_or]
      refine ⟨?_, inductionHypothesis unopened.2⟩
      intro member
      split at member
      · exact ne_bracket_of_mem_lowerBetween (Ne.symm unopened.1) member rfl
      · exact ne_bracket_of_mem_titleChar (Ne.symm unopened.1) member rfl

theorem unopened_title {text : String} (unopened : '[' ∉ text.toList) :
    '[' ∉ (title text).toList := by
  rw [title, String.toList_ofList]
  exact unopened_titleAfter unopened

end Text

/-- The form in which names of skills are compared holds no bracket of its own. -/
theorem Skill.unopened_normalForm {name : String} (unopened : '[' ∉ name.toList) :
    '[' ∉ (normalForm name).toList := by
  have lowered : '[' ∉ (Text.lower name).toList := by
    rw [Text.lower, String.toList_ofList]
    exact Text.unopened_lowerAfter unopened
  intro member
  rcases mem_normalForm member with isSpace | ⟨inLowered, -⟩
  · cases isSpace
  · exact lowered inLowered

end Tabletop
