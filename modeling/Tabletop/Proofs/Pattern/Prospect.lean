import Tabletop.Proofs.Pattern.Search
import Tabletop.Proofs.Pattern.Tracking

/-!
# Searching an outline

A search goes through a text place by place, so it can be followed in an outline token by token, as
long as the sketch at each place tells that the pattern misses it. Where the sketch is in doubt, it
is enough that no match can begin with the first character.
-/

namespace Tabletop

open Numeral

/-! ## First characters -/

namespace Pattern

variable {ι : Type}

/-- The sets of which one holds the first character of a text that a pattern reads. -/
def openers : Pattern ι → List CharClass
  | .nothing | .wordEdge => []
  | .one set | .many set _ _ => [set]
  | .andThen first second =>
      first.openers ++ (if first.shortest = 0 then second.openers else [])
  | .either first second => first.openers ++ second.openers
  | .mark _ pattern => pattern.openers

theorem openers_hold
    {pattern : Pattern ι} {c : Char} {text : List Char} {marks : Marks ι}
    (reads : pattern.Reads (c :: text) marks) :
    ∃ set ∈ pattern.openers, set.holds c := by
  induction pattern generalizing c text marks with
  | nothing | wordEdge =>
      obtain ⟨absurd, -⟩ := reads
      cases absurd
  | one set =>
      obtain ⟨first, held, split, -⟩ := reads
      obtain ⟨rfl, -⟩ := List.cons.inj split
      exact ⟨set, by simp [openers], held⟩
  | many set least preference => exact ⟨set, by simp [openers], reads.1 c (by simp)⟩
  | andThen first second firstStep secondStep =>
      obtain ⟨opening, closing, openingMarks, closingMarks, opens, closes, split, -⟩ := reads
      cases opening with
      | nil =>
          have empty : first.shortest = 0 := Nat.le_zero.1 (shortest_le_length opens)
          rw [List.nil_append] at split
          subst split
          obtain ⟨set, listed, held⟩ := secondStep closes
          exact ⟨set, by simp [openers, empty, listed], held⟩
      | cons other opening =>
          obtain ⟨rfl, -⟩ := List.cons.inj split
          obtain ⟨set, listed, held⟩ := firstStep opens
          exact ⟨set, List.mem_append_left _ listed, held⟩
  | either first second firstStep secondStep =>
      rcases reads with reads | reads
      · obtain ⟨set, listed, held⟩ := firstStep reads
        exact ⟨set, List.mem_append_left _ listed, held⟩
      · obtain ⟨set, listed, held⟩ := secondStep reads
        exact ⟨set, List.mem_append_right _ listed, held⟩
  | mark label pattern inductionHypothesis =>
      obtain ⟨inner, reads, -⟩ := reads
      exact inductionHypothesis reads

/-! ## Places that a pattern misses -/

/-- Whether no match can begin with the first token of an outline. -/
def cannotBegin (pattern : Pattern ι) : Outline → Bool
  | [] => false
  | token :: _ =>
      0 < pattern.shortest && pattern.openers.all fun set => token.inSet? set == some false

/-- Whether a pattern is sure not to match behind a token and in front of an outline. -/
def misses (pattern : Pattern ι) (before : Option Token) (outline : Outline) : Bool :=
  pattern.cannotBegin outline || (pattern.sketch before outline).isEmpty

section

variable {numbers : Nat → List Char} (isRun : ∀ index, IsRun (numbers index))
include isRun

theorem hitAt?_eq_none_of_cannotBegin
    {pattern : Pattern ι} {outline : Outline} {place : Cursor}
    (ahead : outline.WrittenAs numbers place.rest)
    (cannot : pattern.cannotBegin outline = true) :
    pattern.hitAt? place = none := by
  cases outline with
  | nil => cases cannot
  | cons token rest =>
      simp only [cannotBegin, Bool.and_eq_true, decide_eq_true_eq, List.all_eq_true,
        beq_iff_eq] at cannot
      obtain ⟨takes, unlike⟩ := cannot
      cases found : pattern.hitAt? place with
      | none => rfl
      | some hit =>
          obtain ⟨behind, split, -, reads⟩ := reads_of_hitAt? found
          obtain ⟨part, more, isToken, -, isSplit⟩ := Outline.writtenAs_cons_iff.1 ahead
          obtain ⟨x, others, rfl⟩ := List.exists_cons_of_ne_nil (isToken.nonempty isRun)
          have long := shortest_le_length reads
          cases shown : hit.text with
          | nil =>
              rw [shown, List.length_nil] at long
              omega
          | cons c text =>
              rw [shown] at reads
              rw [isSplit, shown] at split
              obtain ⟨rfl, -⟩ := List.cons.inj split
              obtain ⟨set, listed, held⟩ := openers_hold reads
              have apart : set.holds x = false :=
                Token.inSet?_sound (unlike set listed) (isToken.holds isRun x (by simp))
              rw [apart] at held
              cases held

theorem hitAt?_eq_none_of_misses
    {pattern : Pattern ι} {before : Option Token} {outline : Outline} {place : Cursor}
    (standing : Standing numbers before outline place)
    (missed : pattern.misses before outline = true) :
    pattern.hitAt? place = none := by
  rw [misses, Bool.or_eq_true, List.isEmpty_iff] at missed
  rcases missed with cannot | sketched
  · exact hitAt?_eq_none_of_cannotBegin isRun standing.ahead cannot
  · exact hitAt?_eq_none_of_sketch isRun standing sketched

/-- A match could begin in front of a token or inside of it, in a gap or in a number. -/
theorem hitAt?_eq_none_in_token
    {pattern : Pattern ι} {before : Option Token} {token : Token} {rest : Outline} {place : Cursor}
    {opening closing more : List Char}
    (standing : Standing numbers before (token :: rest) place)
    (missed : pattern.misses before (token :: rest) = true)
    (missedInside :
      (token.inner?.all fun inner => pattern.misses (some token) (inner :: rest)) = true)
    (isToken : token.WrittenAs numbers (opening ++ closing)) (isRest : rest.WrittenAs numbers more)
    (split : place.rest = opening ++ (closing ++ more)) (nonempty : closing ≠ []) :
    pattern.hitAt? (place.past opening (closing ++ more)) = none := by
  by_cases opened : opening = []
  · subst opened
    rw [List.nil_append] at split
    rw [← split, Cursor.past_nil]
    exact hitAt?_eq_none_of_misses isRun standing missed
  · obtain ⟨inner, isInner, stands⟩ := isToken.fits_inside isRun opened nonempty isRest
    rw [isInner, Option.all_some] at missedInside
    exact hitAt?_eq_none_of_misses isRun (stands place) missedInside

/-- If the first guess is sure of a match, the hit marks what it tells. -/
theorem exists_hitAt?_of_sure
    {pattern : Pattern ι} {before : Option Token} {outline taken rest : Outline}
    {marks : List (ι × Outline)} {others : List (Guess ι)} {place : Cursor}
    (standing : Standing numbers before outline place)
    (sketched : pattern.sketch before outline = .sure taken rest marks :: others) :
    ∃ hit, pattern.hitAt? place = some hit ∧ MarksWrittenAs numbers marks hit.marks := by
  have tracks : Tracks numbers place (pattern.sketch before outline) (pattern.matchesAt place) :=
    tracks_sketch isRun standing
  rw [sketched] at tracks
  cases matched : pattern.matchesAt place with
  | nil =>
      rw [matched] at tracks
      cases tracks
  | cons one found =>
      rw [matched] at tracks
      cases tracks with
      | sure split _ _ isMarked _ =>
          exact ⟨_, hitAt?_eq_some_iff.2 ⟨_, _, by rw [matched]; rfl, rfl⟩, isMarked⟩

end

/-! ## Searches -/

theorem searchFrom_of_hitAt?
    {pattern : Pattern ι} {place : Cursor} {hit : Hit ι}
    (found : pattern.hitAt? place = some hit) :
    pattern.searchFrom place.offset place.before place.rest = some hit := by
  obtain ⟨offset, before, letters⟩ := place
  cases letters with
  | nil => exact found
  | cons c letters => rw [searchFrom, found]

/-- A search goes on behind a stretch of text in which there is no hit. -/
theorem searchFrom_append
    {pattern : Pattern ι} {text more : List Char} (place : Cursor)
    (missed : ∀ opening closing, text = opening ++ closing → closing ≠ [] →
      pattern.hitAt? (place.past opening (closing ++ more)) = none) :
    pattern.searchFrom place.offset place.before (text ++ more) =
      pattern.searchFrom (place.past text more).offset (place.past text more).before more := by
  induction text generalizing place with
  | nil => rfl
  | cons c text inductionHypothesis =>
      have here : pattern.hitAt? ⟨place.offset, place.before, c :: text ++ more⟩ = none :=
        missed [] (c :: text) rfl (List.cons_ne_nil c text)
      have later := inductionHypothesis (place.past [c] (text ++ more)) (by
        intro opening closing split nonempty
        rw [Cursor.past_past]
        exact missed (c :: opening) closing (congrArg (c :: ·) split) nonempty)
      rw [List.cons_append] at here ⊢
      rw [searchFrom, here]
      rw [Cursor.past_past] at later
      exact later

end Pattern

/-! ## Prospects -/

/-- What is known of a search in the texts that write an outline. -/
inductive Prospect (ι : Type) where
  | nothing
  /-- The first match marks these parts. -/
  | hit (marks : List (ι × Outline))
  | unknown
deriving DecidableEq, Repr

namespace Pattern

variable {ι : Type}

/-- What a search behind a token and in front of an outline is sure to find. -/
def prospect (pattern : Pattern ι) : Option Token → Outline → Prospect ι
  | before, [] => if pattern.misses before [] then .nothing else .unknown
  | before, token :: rest =>
      if pattern.misses before (token :: rest) then
        if token.inner?.all fun inner => pattern.misses (some token) (inner :: rest) then
          prospect pattern (some token) rest
        else .unknown
      else
        match pattern.sketch before (token :: rest) with
        | .sure _ _ marks :: _ => .hit marks
        | _ => .unknown

/-- A search finds what is in prospect. -/
def Meets (numbers : Nat → List Char) (found : Option (Hit ι)) : Prospect ι → Prop
  | .nothing => found = none
  | .hit marks => ∃ hit, found = some hit ∧ MarksWrittenAs numbers marks hit.marks
  | .unknown => True

theorem meets_prospect
    {numbers : Nat → List Char} {pattern : Pattern ι} {before : Option Token} {outline : Outline}
    {place : Cursor} (isRun : ∀ index, IsRun (numbers index))
    (standing : Standing numbers before outline place) :
    Meets numbers (pattern.searchFrom place.offset place.before place.rest)
      (pattern.prospect before outline) := by
  induction outline generalizing before place with
  | nil =>
      rw [prospect]
      by_cases missed : pattern.misses before [] = true
      · have ends : place.rest = [] := Outline.writtenAs_nil_iff.1 standing.ahead
        have noHit := hitAt?_eq_none_of_misses isRun standing missed
        rw [if_pos missed]
        change pattern.searchFrom place.offset place.before place.rest = none
        obtain ⟨offset, behind, letters⟩ := place
        obtain rfl : letters = [] := ends
        exact noHit
      · rw [if_neg missed]
        trivial
  | cons token rest inductionHypothesis =>
      rw [prospect]
      by_cases missed : pattern.misses before (token :: rest) = true
      · rw [if_pos missed]
        split
        · rename_i missedInside
          obtain ⟨part, more, isToken, isRest, isSplit⟩ :=
            Outline.writtenAs_cons_iff.1 standing.ahead
          have isTaken : Outline.WrittenAs numbers [token] part :=
            Outline.writtenAs_cons_iff.2
              ⟨part, [], isToken, Outline.writtenAs_nil_iff.2 rfl, (List.append_nil part).symm⟩
          have noHits :
              ∀ opening closing, part = opening ++ closing → closing ≠ [] →
                pattern.hitAt? (place.past opening (closing ++ more)) = none := by
            rintro opening closing rfl nonempty
            rw [List.append_assoc] at isSplit
            exact hitAt?_eq_none_in_token isRun standing missed missedInside isToken isRest isSplit
              nonempty
          rw [isSplit, searchFrom_append place noHits]
          exact inductionHypothesis (standing.past isRun isTaken isRest)
        · trivial
      · rw [if_neg missed]
        split
        · rename_i sketched
          obtain ⟨hit, found, isMarked⟩ := exists_hitAt?_of_sure isRun standing sketched
          exact ⟨hit, searchFrom_of_hitAt? found, isMarked⟩
        · trivial

/-! ## Whole texts -/

section Texts

variable {numbers : Nat → List Char} {outline : Outline} {text : List Char}
  (isRun : ∀ index, IsRun (numbers index)) (written : outline.WrittenAs numbers text)
include isRun written

theorem meets_search? (pattern : Pattern ι) :
    Meets numbers (pattern.search? text) (pattern.prospect none outline) := by
  have standing : Standing numbers none outline (Cursor.front text) :=
    ⟨Option.Rel.none, written⟩
  exact meets_prospect isRun standing

theorem occursIn_eq_false_of_prospect
    {pattern : Pattern ι} (noneAhead : pattern.prospect none outline = .nothing) :
    pattern.occursIn text = false := by
  have meets := meets_search? isRun written pattern
  rw [noneAhead] at meets
  have noHit : pattern.search? text = none := meets
  rw [occursIn, noHit, Option.isSome_none]

theorem occursIn_of_prospect
    {pattern : Pattern ι} {marks : List (ι × Outline)}
    (ahead : pattern.prospect none outline = .hit marks) :
    pattern.occursIn text = true := by
  have meets := meets_search? isRun written pattern
  rw [ahead] at meets
  obtain ⟨hit, found, -⟩ := meets
  rw [occursIn, found, Option.isSome_some]

/-- What the first match marks is written like what is in prospect. -/
theorem exists_mark?_of_prospect
    [BEq ι] {pattern : Pattern ι} {marks : List (ι × Outline)} {label : ι} {part : Outline}
    (ahead : pattern.prospect none outline = .hit marks)
    (marked : marks.lookup label = some part) :
    ∃ said, (pattern.search? text).bind (·.mark? label) = some said ∧
      part.WrittenAs numbers said.toList := by
  have meets := meets_search? isRun written pattern
  rw [ahead] at meets
  obtain ⟨hit, found, isMarked⟩ := meets
  obtain ⟨said, isSaid, isWritten⟩ := isMarked.exists_mark? marked
  refine ⟨said, ?_, isWritten⟩
  rw [found, Option.bind_some, isSaid]

end Texts

end Pattern

end Tabletop
