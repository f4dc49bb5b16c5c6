import Tabletop.Proofs.Outline.Boundaries
import Tabletop.Proofs.Pattern.Prospect

/-!
# Stretches without a match

A pattern passes over a stretch of an outline if it is sure to miss at every place in it, with what
comes behind the stretch in view. The first hit of a scan is then the one behind the stretch.
-/

namespace Tabletop

open Numeral

namespace Pattern

variable {ι : Type}

/-- Whether a pattern is sure to miss at all places of a stretch in front of the rest. -/
def passes (pattern : Pattern ι) : Option Token → Outline → Outline → Bool
  | _, [], _ => true
  | before, token :: stretch, rest =>
      pattern.misses before (token :: (stretch ++ rest)) &&
        token.inner?.all (fun inner => pattern.misses (some token) (inner :: (stretch ++ rest))) &&
        passes pattern (some token) stretch rest

section

variable {numbers : Nat → List Char} {pattern : Pattern ι} {before : Option Token}
  (isRun : ∀ index, IsRun (numbers index))
include isRun

/-- There is no hit in a stretch that a pattern passes over. -/
theorem hitAt?_eq_none_of_passes
    {stretch rest : Outline} {place : Cursor} {text more opening closing : List Char}
    (behind : Option.Rel Token.Holds before place.before)
    (passed : pattern.passes before stretch rest = true)
    (isStretch : stretch.WrittenAs numbers text) (isRest : rest.WrittenAs numbers more)
    (split : place.rest = text ++ more) (parts : text = opening ++ closing)
    (nonempty : closing ≠ []) :
    pattern.hitAt? (place.past opening (closing ++ more)) = none := by
  induction stretch generalizing before place text opening with
  | nil =>
      rw [Outline.writtenAs_nil_iff.1 isStretch] at parts
      exact absurd (List.append_eq_nil_iff.1 parts.symm).2 nonempty
  | cons token stretch inductionHypothesis =>
      obtain ⟨part, others, isToken, isOthers, rfl⟩ := Outline.writtenAs_cons_iff.1 isStretch
      rw [passes, Bool.and_eq_true, Bool.and_eq_true] at passed
      obtain ⟨⟨missed, missedInside⟩, passedOthers⟩ := passed
      have isTail : Outline.WrittenAs numbers (stretch ++ rest) (others ++ more) :=
        isOthers.append isRest
      have standing : Standing numbers before (token :: (stretch ++ rest)) place := by
        refine ⟨behind, Outline.writtenAs_cons_iff.2 ⟨part, others ++ more, isToken, isTail, ?_⟩⟩
        rw [split, List.append_assoc]
      have isTaken : Outline.WrittenAs numbers [token] part :=
        Outline.writtenAs_cons_iff.2
          ⟨part, [], isToken, Outline.writtenAs_nil_iff.2 rfl, (List.append_nil part).symm⟩
      have furtherOn :
          ∀ between, others = between ++ closing →
            pattern.hitAt? (place.past (part ++ between) (closing ++ more)) = none := by
        intro between othersSplit
        have stands := standing.past isRun isTaken isTail
        rw [← Cursor.past_past _ _ _ (others ++ more)]
        exact inductionHypothesis stands.behind passedOthers isOthers rfl othersSplit
      rcases List.append_eq_append_iff.1 parts with
        ⟨between, rfl, othersSplit⟩ | ⟨inside, rfl, rfl⟩
      · exact furtherOn between othersSplit
      · by_cases ends : inside = []
        · subst ends
          have atEnd := furtherOn [] rfl
          rwa [List.append_nil, List.append_nil] at atEnd
        · rw [List.append_assoc]
          apply hitAt?_eq_none_in_token isRun standing missed missedInside isToken isTail _ ends
          rw [split, List.append_assoc, List.append_assoc]

/-- There is no hit further on in a stretch if the pattern passes over all behind its first
character. -/
theorem hitAt?_eq_none_further_on
    {token : Token} {stretch rest : Outline} {place : Cursor}
    {text more opening closing : List Char} (single : token.inner? = none)
    (passed : pattern.passes (some token) stretch rest = true)
    (isStretch : Outline.WrittenAs numbers (token :: stretch) text)
    (isRest : rest.WrittenAs numbers more) (parts : text = opening ++ closing)
    (opened : opening ≠ []) (nonempty : closing ≠ []) :
    pattern.hitAt? (place.past opening (closing ++ more)) = none := by
  obtain ⟨part, others, isToken, isOthers, rfl⟩ := Outline.writtenAs_cons_iff.1 isStretch
  obtain ⟨x, inner, rfl⟩ := List.exists_cons_of_ne_nil (isToken.nonempty isRun)
  obtain rfl := isToken.tail_eq_nil isRun single
  obtain ⟨first, further, rfl⟩ := List.exists_cons_of_ne_nil opened
  obtain ⟨rfl, furtherSplit⟩ := List.cons.inj parts
  have behind : Option.Rel Token.Holds (some token) (place.past [x] (others ++ more)).before :=
    Option.Rel.some (isToken.holds isRun x List.mem_cons_self)
  have missed := hitAt?_eq_none_of_passes isRun behind passed isOthers isRest
    (Cursor.past_rest _ _ _) furtherSplit nonempty
  rw [Cursor.past_past] at missed
  exact missed

/-- If the first guess is sure of a match that ends in a letter, the hit reaches just as far. -/
theorem exists_hitAt?_of_sure_text
    {taken rest : Outline} {marks : List (ι × Outline)} {others : List (Guess ι)} {place : Cursor}
    {text more : List Char} {c : Char}
    (standing : Standing numbers before (taken ++ rest) place)
    (sketched : pattern.sketch before (taken ++ rest) = .sure taken rest marks :: others)
    (closed : .figures ∉ rest) (ends : taken.getLast? = some (.letter c))
    (small : c.isLower = true) (isTaken : taken.WrittenAs numbers text)
    (isRest : rest.WrittenAs numbers more) (split : place.rest = text ++ more) :
    ∃ parts, MarksWrittenAs numbers marks parts ∧
      pattern.hitAt? place = some ⟨⟨place.offset, text.length⟩, text, parts⟩ := by
  have tracks : Tracks numbers place (pattern.sketch before (taken ++ rest))
      (pattern.matchesAt place) := tracks_sketch isRun standing
  rw [sketched] at tracks
  cases matched : pattern.matchesAt place with
  | nil =>
      rw [matched] at tracks
      cases tracks
  | cons one found =>
      rw [matched] at tracks
      cases tracks with
      | sure otherSplit otherTaken otherRest isMarked _ =>
          obtain ⟨x, textEnds, rfl⟩ := isTaken.exists_getLast? isRun ends
          obtain ⟨y, otherEnds, same⟩ := otherTaken.exists_getLast? isRun ends
          have otherSmall : y.toLower.isLower = true := by rw [same, small]
          obtain ⟨rfl, rfl⟩ := append_inj_of_written closed (split.symm.trans otherSplit) isRest
            otherRest textEnds small otherEnds otherSmall
          refine ⟨_, isMarked, hitAt?_eq_some_iff.2 ⟨_, _, by rw [matched]; rfl, ?_⟩⟩
          rw [Cursor.textTo_past split, Cursor.past_offset, Nat.add_sub_cancel_left]

end

/-! ## Scans -/

/-- A scan goes on behind a stretch of text in which there is no hit. -/
theorem scanFrom_append
    {pattern : Pattern ι} {text more : List Char} (place : Cursor)
    (missed : ∀ opening closing, text = opening ++ closing → closing ≠ [] →
      pattern.hitAt? (place.past opening (closing ++ more)) = none) :
    pattern.scanFrom 0 place.offset place.before (text ++ more) =
      pattern.scanFrom 0 (place.past text more).offset (place.past text more).before more := by
  induction text generalizing place with
  | nil => rfl
  | cons c text inductionHypothesis =>
      have here : pattern.hitAt? ⟨place.offset, place.before, c :: text ++ more⟩ = none :=
        missed [] (c :: text) rfl (List.cons_ne_nil c text)
      have later := inductionHypothesis (place.past [c] (text ++ more)) (by
        intro opening closing split nonempty
        rw [Cursor.past_past]
        exact missed (c :: opening) closing (congrArg (c :: ·) split) nonempty)
      rw [List.cons_append] at here ⊢
      rw [scanFrom, here]
      rw [Cursor.past_past] at later
      exact later

theorem mem_scanFrom_of_hitAt?
    {pattern : Pattern ι} {place : Cursor} {hit : Hit ι} (nonempty : place.rest ≠ [])
    (found : pattern.hitAt? place = some hit) :
    hit ∈ pattern.scanFrom 0 place.offset place.before place.rest := by
  obtain ⟨offset, before, letters⟩ := place
  cases letters with
  | nil => exact absurd rfl nonempty
  | cons c letters =>
      rw [scanFrom, found]
      exact List.mem_cons_self

/-- The first hit of a scan is the one behind a stretch that has none. -/
theorem mem_scan_of_hitAt?
    {pattern : Pattern ι} {passed rest : List Char} {hit : Hit ι} (nonempty : rest ≠ [])
    (missed : ∀ opening closing, passed = opening ++ closing → closing ≠ [] →
      pattern.hitAt? ((Cursor.front (passed ++ rest)).past opening (closing ++ rest)) = none)
    (found : pattern.hitAt? ((Cursor.front (passed ++ rest)).past passed rest) = some hit) :
    hit ∈ pattern.scan (passed ++ rest) := by
  have goesOn : pattern.scan (passed ++ rest) = _ :=
    scanFrom_append (Cursor.front (passed ++ rest)) missed
  rw [goesOn]
  exact mem_scanFrom_of_hitAt? nonempty found

end Pattern

end Tabletop
