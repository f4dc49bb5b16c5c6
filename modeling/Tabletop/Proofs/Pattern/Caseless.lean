import Tabletop.Proofs.Pattern.Embedding
import Tabletop.Proofs.Text.Caseless

/-!
# Patterns that ignore case

Patterns take letters without regard to case, so they find in a text without capitals what they find
in the text itself, and at the same places.
-/

namespace Tabletop

open Text

/-- Whether a set of characters takes no letter in one case only. -/
def CharClass.ignoresCase : CharClass → Bool
  | .like _ | .letter | .digit | .blank | .dash => true
  | .oneOf cs => cs.all fun c => !c.isAlpha
  | .except c => !c.isAlpha

theorem CharClass.holds_toLower
    {set : CharClass} (ignores : set.ignoresCase = true) (c : Char) :
    set.holds c.toLower = set.holds c := by
  have unlike {other : Char} (noLetter : (!other.isAlpha) = true) :
      (c.toLower == other) = (c == other) := by
    rcases toLower_eq_or_isAlpha c with same | ⟨isLetter, staysLetter⟩
    · rw [same]
    · have different {x : Char} (letter : x.isAlpha = true) : (x == other) = false := by
        rw [beq_eq_false_iff_ne]
        rintro rfl
        rw [letter] at noLetter
        cases noLetter
      rw [different staysLetter, different isLetter]
  cases set with
  | like letter | letter => rw [holds, holds, fold_toLower]
  | digit => rw [holds, holds, isDigit, isDigit, digitValue?_toLower]
  | blank => rw [holds, holds, isBlank_toLower]
  | dash =>
      have hyphen : (!Char.isAlpha '-') = true := by decide
      rw [holds, holds, isBlank_toLower, unlike hyphen]
  | oneOf cs =>
      rw [holds, holds, List.contains_eq_any_beq, List.contains_eq_any_beq, Bool.eq_iff_iff,
        List.any_eq_true, List.any_eq_true]
      refine exists_congr fun other => and_congr_right fun member => ?_
      rw [unlike (List.all_eq_true.1 ignores other member)]
  | except other => rw [holds, holds, bne, bne, unlike ignores]

/-- A text with its capitals made small, as another text. -/
def Embedding.lowered : Embedding where
  letter := Char.toLower
  keeps := CharClass.ignoresCase
  front_ends := front_ends_nil
  isWord_letter := isWord_toLower
  behind_ends := behind_ends_nil
  holds_letter _ ignores := CharClass.holds_toLower ignores
  behind_stops set _ := behind_stops_nil set

/-- Whether a pattern asks for no letter in one case only. -/
abbrev Pattern.ignoresCase {ι : Type} (pattern : Pattern ι) : Bool :=
  pattern.asksOnly CharClass.ignoresCase

/-! ## Hits -/

section Hits

variable {ι : Type}

/-- A hit in the text without capitals. -/
def Hit.small (hit : Hit ι) : Hit ι :=
  { hit with
    text := hit.text.map Char.toLower
    marks := hit.marks.map fun (label, part) => (label, part.map Char.toLower) }

theorem Hit.mark?_small [BEq ι] (hit : Hit ι) (label : ι) :
    hit.small.mark? label = (hit.mark? label).map Text.small := by
  have found (marks : Marks ι) :
      (marks.map fun (label, part) => (label, part.map Char.toLower)).lookup label =
        (marks.lookup label).map (List.map Char.toLower) := by
    induction marks with
    | nil => rfl
    | cons mark marks inductionHypothesis =>
        rw [List.map_cons, List.lookup_cons, List.lookup_cons, inductionHypothesis]
        split <;> rfl
  rw [Hit.mark?, Hit.small, found, Hit.mark?, Option.map_map, Option.map_map]
  congr 1
  funext letters
  exact (small_ofList letters).symm

namespace Embedding

theorem place_lowered (here : Cursor) :
    lowered.place here =
      ⟨here.offset, here.before.map Char.toLower, here.rest.map Char.toLower⟩ := by
  simp [place, lowered]

end Embedding

namespace Pattern

variable {pattern : Pattern ι}

theorem scan_map_toLower (ignores : pattern.ignoresCase = true) (text : List Char) :
    pattern.scan (text.map Char.toLower) = (pattern.scan text).map Hit.small := by
  have scanned := Embedding.lowered.scanFrom_place_of_asksOnly ignores rfl (Cursor.front text)
  rw [Embedding.place_lowered] at scanned
  exact scanned

theorem search?_map_toLower (ignores : pattern.ignoresCase = true) (text : List Char) :
    pattern.search? (text.map Char.toLower) = (pattern.search? text).map Hit.small := by
  have searched := Embedding.lowered.searchFrom_place ignores rfl (Cursor.front text)
  rw [Embedding.place_lowered] at searched
  exact searched

theorem occursIn_map_toLower (ignores : pattern.ignoresCase = true) (text : List Char) :
    pattern.occursIn (text.map Char.toLower) = pattern.occursIn text := by
  rw [occursIn, occursIn, search?_map_toLower ignores, Option.isSome_map]

/-- The text of a part of the first hit. -/
theorem mark?_search?_small
    [BEq ι] (ignores : pattern.ignoresCase = true) (label : ι) (text : List Char) :
    (pattern.search? (text.map Char.toLower)).bind (·.mark? label) =
      ((pattern.search? text).bind (·.mark? label)).map Text.small := by
  rw [search?_map_toLower ignores]
  cases pattern.search? text with
  | none => rfl
  | some hit => exact hit.mark?_small label

end Pattern

end Hits

end Tabletop
