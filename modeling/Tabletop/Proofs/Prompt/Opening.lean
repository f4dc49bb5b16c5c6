import Tabletop.Proofs.Pattern.Parts
import Tabletop.Proofs.Pattern.Passing
import Tabletop.Proofs.Prompt.Parts
import Tabletop.Proofs.Prompt.Transfer

/-!
# Texts behind an opening

Behind an opening that does not end in a word and in which no form matches, a text suggests what it
suggests by itself. That a sequence of patterns does not match in front of a bracket can be told
from the part of it that asks for no bracket.
-/

namespace Tabletop

open Pattern

variable {ι : Type}

/-! ## Behind an opening -/

/-- A text behind another text that does not end in a word. -/
def Embedding.behindOpening
    (opening : List Char) (ends : opening.getLast?.any Text.isWord = false) : Embedding :=
  { second [] with
    front := opening
    front_ends := ends }

theorem Embedding.place_behindOpening
    {opening : List Char} (ends : opening.getLast?.any Text.isWord = false) (rest : List Char) :
    (behindOpening opening ends).place (Cursor.front rest) =
      (Cursor.front (opening ++ rest)).past opening rest := by
  simp [place, behindOpening, second, Cursor.past, Cursor.front]

theorem Embedding.hit_behindOpening
    {opening : List Char} (ends : opening.getLast?.any Text.isWord = false) :
    (behindOpening opening ends).hit = fun hit : Hit ι => hit.later opening.length := by
  funext hit
  simp [Embedding.hit, marks, behindOpening, second, Hit.later, Span.later]

theorem Pattern.scan_behind_opening
    {pattern : Pattern ι} {opening rest : List Char}
    (ends : opening.getLast?.any Text.isWord = false)
    (missed : ∀ passed closing, opening = passed ++ closing → closing ≠ [] →
      pattern.hitAt? ((Cursor.front (opening ++ rest)).past passed (closing ++ rest)) = none) :
    pattern.scan (opening ++ rest) = (pattern.scan rest).map (Hit.later opening.length) := by
  have sameBehind :=
    (Embedding.behindOpening opening ends).scanFrom_place_of_asksOnly pattern.asksOnly_true rfl
      (Cursor.front rest)
  rw [Embedding.place_behindOpening, Embedding.hit_behindOpening] at sameBehind
  exact (scanFrom_append (Cursor.front (opening ++ rest)) missed).trans sameBehind

/-- A text behind an opening in which no form matches suggests what it suggests by itself. -/
theorem suggestions_behind_opening
    {opening rest : List Char} (ends : opening.getLast?.any Text.isWord = false)
    (missed : ∀ form ∈ Prompt.Form.all, ∀ passed closing,
      opening = passed ++ closing → closing ≠ [] →
        form.pattern.hitAt? ((Cursor.front (opening ++ rest)).past passed (closing ++ rest)) =
          none) :
    suggestions (String.ofList (opening ++ rest)) =
      List.map (Suggestion.later opening.length) <$> suggestions (String.ofList rest) := by
  have scanned : ∀ form ∈ Prompt.Form.all,
      form.pattern.scan (String.ofList (opening ++ rest)).toList =
        (form.pattern.scan (String.ofList rest).toList).map (Hit.later opening.length) := by
    intro form listed
    rw [String.toList_ofList, String.toList_ofList]
    exact scan_behind_opening ends (missed form listed)
  exact suggestions_eq_of_scan scanned (fun form hit => form.make_later opening.length hit)
    fun _ => rfl

/-! ## In front of a bracket -/

namespace Pattern

theorem hitAt?_eq_none_iff {pattern : Pattern ι} {place : Cursor} :
    pattern.hitAt? place = none ↔ pattern.matchesAt place = [] := by
  rw [hitAt?_eq_map_head?, Option.map_eq_none_iff, List.head?_eq_none_iff]

/-- Where the first patterns of a sequence do not match, the whole sequence does not. -/
theorem matchesAt_sequence_append_eq_nil
    {first second : List (Pattern ι)} {place : Cursor}
    (missed : (sequence first).matchesAt place = []) :
    (sequence (first ++ second)).matchesAt place = [] := by
  induction first generalizing place with
  | nil => cases missed
  | cons pattern others inductionHypothesis =>
      cases others with
      | nil =>
          have isMissed : pattern.matchesAt place = [] := missed
          cases second with
          | nil => exact missed
          | cons next second =>
              rw [List.singleton_append, sequence, matchesAt, isMissed, List.flatMap_nil]
              exact List.cons_ne_nil next second
      | cons other others =>
          rw [sequence, matchesAt, List.flatMap_eq_nil_iff] at missed
          rw [List.cons_append, sequence, matchesAt, List.flatMap_eq_nil_iff]
          · intro found member
            have behind := List.map_eq_nil_iff.1 (missed found member)
            exact List.map_eq_nil_iff.2 (inductionHypothesis behind)
          · exact List.cons_ne_nil other _
          · exact List.cons_ne_nil other others

end Pattern

theorem isWord_bracket : Text.isWord '(' = false := by
  decide

/-- A text in front of a bracket and another text. -/
def Embedding.beforeBracket (more : List Char) : Embedding :=
  { first more with
    behind := '(' :: more
    keeps := fun set => !set.holds '('
    behind_ends := isWord_bracket
    holds_letter := fun _ _ _ => rfl
    behind_stops := fun set kept => by simpa using kept }

/-- Where the patterns of a sequence that ask for no bracket do not match a text, the sequence does
not match if a bracket follows. -/
theorem hitAt?_eq_none_before_bracket
    {first second : List (Pattern ι)} {text more : List Char}
    (asks : (sequence first).asksOnly (fun set => !set.holds '(') = true)
    (missed : (sequence first).hitAt? (Cursor.front text) = none) :
    (sequence (first ++ second)).hitAt? (Cursor.front (text ++ '(' :: more)) = none := by
  rw [hitAt?_eq_none_iff] at missed ⊢
  apply matchesAt_sequence_append_eq_nil
  have same := (Embedding.beforeBracket more).matchesAt_place asks (Cursor.front text)
  rw [missed, List.map_nil] at same
  have isPlace : (Embedding.beforeBracket more).place (Cursor.front text) =
      Cursor.front (text ++ '(' :: more) := by
    simp [Embedding.place, Embedding.beforeBracket, Embedding.first, Cursor.front]
  rwa [isPlace] at same

end Tabletop
