import Tabletop.Proofs.Pattern.Sketch

/-!
# Sketches tell the truth

The guesses of a sketch account for all matches in a text that writes the outline, in their order.
If the first guess is a sure one, the hit at that place is known; without guesses there is none.
-/

namespace Tabletop

open Numeral

section

variable {ι : Type} {numbers : Nat → List Char}

/-! ## Places and marks -/

/-- A place lies behind a token, if there is one, and in front of a text that writes an outline. -/
structure Standing
    (numbers : Nat → List Char) (before : Option Token) (outline : Outline) (place : Cursor) :
    Prop where
  behind : Option.Rel Token.Holds before place.before
  ahead : outline.WrittenAs numbers place.rest

/-- A place is one of those that a spot stands for. -/
def Spot.Fits (numbers : Nat → List Char) (place : Cursor) : Spot → Prop
  | .front before rest => Standing numbers before rest place
  | .anywhere => True

/-- The marked texts write what is marked of the outline. -/
def MarksWrittenAs
    (numbers : Nat → List Char) (marks : List (ι × Outline)) (parts : Marks ι) : Prop :=
  List.Forall₂ (fun mark part => mark.1 = part.1 ∧ mark.2.WrittenAs numbers part.2) marks parts

theorem rel_or
    {α β : Type} {r : α → β → Prop} {first second : Option α} {one other : Option β}
    (opening : Option.Rel r first one) (closing : Option.Rel r second other) :
    Option.Rel r (first.or second) (one.or other) := by
  cases opening with
  | some related => exact Option.Rel.some related
  | none => exact closing

theorem Standing.past
    {before : Option Token} {outline taken rest : Outline} {place : Cursor} {text more : List Char}
    (isRun : ∀ index, IsRun (numbers index)) (standing : Standing numbers before outline place)
    (isTaken : taken.WrittenAs numbers text) (isRest : rest.WrittenAs numbers more) :
    Standing numbers (taken.getLast?.or before) rest (place.past text more) :=
  ⟨rel_or (isTaken.rel_getLast? isRun) standing.behind, isRest⟩

/-- Inside of what a token is written as, some of it is still ahead. -/
theorem Token.WrittenAs.fits_inside
    {token : Token} {rest : Outline} {opening closing more : List Char}
    (isRun : ∀ index, IsRun (numbers index))
    (written : token.WrittenAs numbers (opening ++ closing))
    (opened : opening ≠ []) (closed : closing ≠ []) (isRest : rest.WrittenAs numbers more) :
    ∃ inner, token.inner? = some inner ∧
      ∀ place : Cursor,
        Standing numbers (some token) (inner :: rest) (place.past opening (closing ++ more)) := by
  obtain ⟨inner, isInner, isClosing⟩ := written.exists_inner isRun opened closed
  have held : token.Holds (opening.getLast opened) :=
    written.holds isRun _ (List.mem_append_left closing (List.getLast_mem opened))
  refine ⟨inner, isInner, fun place => ⟨?_, ?_⟩⟩
  · rw [Cursor.past_before, List.getLast?_eq_some_getLast opened]
    exact Option.Rel.some held
  · exact Outline.writtenAs_cons_iff.2 ⟨closing, more, isClosing, isRest, rfl⟩

/-- A known answer about a word edge is right. -/
theorem edge?_sound
    {before : Option Token} {outline : Outline} {place : Cursor} {answer : Bool}
    (isRun : ∀ index, IsRun (numbers index)) (standing : Standing numbers before outline place)
    (known : Pattern.edge? before outline = some answer) :
    place.atWordEdge = answer := by
  simp only [Pattern.edge?, Option.bind_eq_bind, Option.bind_eq_some_iff, Option.pure_def,
    Option.some.injEq] at known
  obtain ⟨left, leftKnown, right, rightKnown, rfl⟩ := known
  have leftRight : place.before.any Text.isWord = left := by
    have behind := standing.behind
    cases before with
    | none =>
        cases behindNothing : place.before with
        | none => exact Option.some.inj leftKnown
        | some x =>
            rw [behindNothing] at behind
            cases behind
    | some token =>
        cases behindSomething : place.before with
        | none =>
            rw [behindSomething] at behind
            cases behind
        | some x =>
            rw [behindSomething] at behind
            cases behind with
            | some held => exact Token.inWord?_sound leftKnown held
  have rightRight : place.rest.head?.any Text.isWord = right := by
    have ahead := standing.ahead
    cases outline with
    | nil =>
        rw [Outline.writtenAs_nil_iff.1 ahead]
        exact Option.some.inj rightKnown
    | cons token rest =>
        obtain ⟨part, more, isToken, -, split⟩ := Outline.writtenAs_cons_iff.1 ahead
        obtain ⟨x, others, rfl⟩ := List.exists_cons_of_ne_nil (isToken.nonempty isRun)
        rw [split]
        exact Token.inWord?_sound rightKnown (isToken.holds isRun x (by simp))
  rw [Cursor.atWordEdge, leftRight, rightRight]

/-! ## Where runs stop -/

namespace Cursor

variable {set : CharClass} {place : Cursor}

/-- The places at which a run of characters of a set may stop, nearest first. -/
def stops (set : CharClass) (place : Cursor) : List Cursor :=
  runs set 0 place.offset place.before place.rest

theorem stops_of_nil (ends : place.rest = []) : place.stops set = [place] := by
  obtain ⟨offset, before, rest⟩ := place
  obtain rfl : rest = [] := ends
  rfl

theorem stops_of_cons
    {x : Char} {letters : List Char} (split : place.rest = x :: letters) :
    place.stops set = place :: if set.holds x then (place.past [x] letters).stops set else [] := by
  obtain ⟨offset, before, rest⟩ := place
  obtain rfl : rest = x :: letters := split
  rfl

/-- A run over at least one character stops where one over any number of them goes on. -/
theorem runs_one_eq_tail :
    runs set 1 place.offset place.before place.rest = (place.stops set).tail := by
  obtain ⟨offset, before, rest⟩ := place
  cases rest <;> rfl

/-- A run over characters of its set may stop between them, or it goes on behind them. -/
theorem exists_stops_append
    {text : List Char} (all : ∀ c ∈ text, set.holds c = true)
    (place : Cursor) (more : List Char) (split : place.rest = text ++ more) :
    ∃ inside,
      place.stops set = inside ++ (place.past text more).stops set ∧
        ∀ stop ∈ inside, ∃ opening closing,
          text = opening ++ closing ∧ closing ≠ [] ∧
            stop = place.past opening (closing ++ more) := by
  induction text generalizing place with
  | nil =>
      rw [List.nil_append] at split
      rw [← split]
      exact ⟨[], rfl, by simp⟩
  | cons c text inductionHypothesis =>
      rw [List.cons_append] at split
      have held : set.holds c = true := all c (by simp)
      obtain ⟨inside, stops, isInside⟩ :=
        inductionHypothesis (fun c member => all c (by simp [member]))
          (place.past [c] (text ++ more)) rfl
      refine ⟨place :: inside, ?_, ?_⟩
      · rw [stops_of_cons split, if_pos held, stops, past_past]
        rfl
      · intro stop member
        rcases List.mem_cons.1 member with rfl | member
        · refine ⟨[], c :: text, rfl, List.cons_ne_nil c text, ?_⟩
          rw [List.cons_append, ← split, past_nil]
        · obtain ⟨opening, closing, rfl, nonempty, rfl⟩ := isInside stop member
          exact ⟨c :: opening, closing, rfl, nonempty, past_past _ _ _ _ _⟩

end Cursor

/-! ## Accounts of matches -/

/-- Guesses account for matches at a place, each for those next in order. -/
inductive Tracks (numbers : Nat → List Char) (place : Cursor) :
    List (Guess ι) → List (Cursor × Marks ι) → Prop
  | nil : Tracks numbers place [] []
  | sure {taken rest : Outline} {marks : List (ι × Outline)} {text more : List Char}
      {parts : Marks ι} {guesses : List (Guess ι)} {found : List (Cursor × Marks ι)} :
      place.rest = text ++ more →
      taken.WrittenAs numbers text →
      rest.WrittenAs numbers more →
      MarksWrittenAs numbers marks parts →
      Tracks numbers place guesses found →
      Tracks numbers place (.sure taken rest marks :: guesses)
        ((place.past text more, parts) :: found)
  | maybe {spots : List Spot} {some : List (Cursor × Marks ι)} {guesses : List (Guess ι)}
      {found : List (Cursor × Marks ι)} :
      (∀ one ∈ some, ∃ spot ∈ spots, spot.Fits numbers one.1) →
      Tracks numbers place guesses found →
      Tracks numbers place (.maybe spots :: guesses) (some ++ found)

namespace Tracks

variable {place : Cursor} {guesses moreGuesses : List (Guess ι)}
  {found moreFound : List (Cursor × Marks ι)}

theorem append
    (first : Tracks numbers place guesses found)
    (second : Tracks numbers place moreGuesses moreFound) :
    Tracks numbers place (guesses ++ moreGuesses) (found ++ moreFound) := by
  induction first with
  | nil => exact second
  | sure split isTaken isRest isMarked _ inductionHypothesis =>
      exact sure split isTaken isRest isMarked inductionHypothesis
  | maybe fits _ inductionHypothesis =>
      rw [List.append_assoc]
      exact maybe fits inductionHypothesis

/-- One guess for all matches of a list. -/
theorem single
    {spots : List Spot} (fits : ∀ one ∈ found, ∃ spot ∈ spots, spot.Fits numbers one.1) :
    Tracks numbers place [Guess.maybe spots] found := by
  rw [← List.append_nil found]
  exact maybe fits nil

theorem anywhere : Tracks numbers place [Guess.maybe [.anywhere]] found :=
  single fun _ _ => ⟨.anywhere, by simp, trivial⟩

/-- A match that takes nothing. -/
theorem here
    {outline : Outline} (ahead : outline.WrittenAs numbers place.rest)
    (tracks : Tracks numbers place guesses found) :
    Tracks numbers place (.sure [] outline [] :: guesses) ((place, []) :: found) := by
  have nothing : Outline.WrittenAs numbers [] [] := Outline.writtenAs_nil_iff.2 rfl
  exact sure rfl nothing ahead List.Forall₂.nil tracks

theorem tail
    {taken rest : Outline} {marks : List (ι × Outline)}
    (tracks : Tracks numbers place (.sure taken rest marks :: guesses) found) :
    Tracks numbers place guesses found.tail := by
  cases tracks with
  | sure _ _ _ _ others => exact others

theorem unsure
    {spots : List Spot} (fits : ∀ one ∈ found, ∃ spot ∈ spots, spot.Fits numbers one.1) :
    Tracks numbers place (Guess.unsure spots) found := by
  cases spots with
  | nil =>
      have none : found = [] := by
        rw [List.eq_nil_iff_forall_not_mem]
        intro one member
        obtain ⟨spot, absurd, -⟩ := fits one member
        cases absurd
      rw [none]
      exact nil
  | cons spot spots => exact single fits

theorem reverse (tracks : Tracks numbers place guesses found) :
    Tracks numbers place guesses.reverse found.reverse := by
  induction tracks with
  | nil => exact nil
  | sure split isTaken isRest isMarked _ inductionHypothesis =>
      rw [List.reverse_cons, List.reverse_cons]
      exact inductionHypothesis.append (sure split isTaken isRest isMarked nil)
  | maybe fits _ inductionHypothesis =>
      rw [List.reverse_cons, List.reverse_append]
      exact inductionHypothesis.append
        (single fun one member => fits one (List.mem_reverse.1 member))

theorem order
    (preference : Preference) (tracks : Tracks numbers place guesses found) :
    Tracks numbers place (preference.order guesses) (preference.order found) := by
  cases preference with
  | longest => exact tracks.reverse
  | shortest => exact tracks

/-- What is accounted for further on is accounted for from further back. -/
theorem behind
    {taken : Outline} {marks : List (ι × Outline)} {text more : List Char} {parts : Marks ι}
    (split : place.rest = text ++ more) (isTaken : taken.WrittenAs numbers text)
    (isMarked : MarksWrittenAs numbers marks parts)
    (tracks : Tracks numbers (place.past text more) guesses found) :
    Tracks numbers place (guesses.map (Guess.behind taken marks))
      (found.map fun one => (one.1, parts ++ one.2)) := by
  induction tracks with
  | nil => exact nil
  | sure moreSplit moreTaken isRest moreMarked _ inductionHypothesis =>
      rw [Cursor.past_rest] at moreSplit
      simp only [List.map_cons, Cursor.past_past]
      refine sure ?_ ?_ isRest ?_ inductionHypothesis
      · rw [split, moreSplit, List.append_assoc]
      · exact Outline.writtenAs_append_iff.2 ⟨_, _, isTaken, moreTaken, rfl⟩
      · exact List.rel_append isMarked moreMarked
  | maybe fits _ inductionHypothesis =>
      rw [List.map_append]
      refine maybe ?_ inductionHypothesis
      intro one member
      obtain ⟨other, listed, rfl⟩ := List.mem_map.1 member
      exact fits other listed

theorem marked
    (label : ι) (tracks : Tracks numbers place guesses found) :
    Tracks numbers place (guesses.map (Guess.marked label))
      (found.map fun one => (one.1, (label, place.textTo one.1) :: one.2)) := by
  induction tracks with
  | nil => exact nil
  | sure split isTaken isRest isMarked _ inductionHypothesis =>
      simp only [List.map_cons, Cursor.textTo_past split]
      exact sure split isTaken isRest (List.Forall₂.cons ⟨rfl, isTaken⟩ isMarked)
        inductionHypothesis
  | maybe fits _ inductionHypothesis =>
      rw [List.map_append]
      refine maybe ?_ inductionHypothesis
      intro one member
      obtain ⟨other, listed, rfl⟩ := List.mem_map.1 member
      exact fits other listed

/-- Every match ends at a spot of its guess. -/
theorem exists_spot
    {before : Option Token} {outline : Outline} (isRun : ∀ index, IsRun (numbers index))
    (standing : Standing numbers before outline place)
    (tracks : Tracks numbers place guesses found) :
    ∀ one ∈ found, ∃ spot ∈ guesses.flatMap (Guess.spots before), spot.Fits numbers one.1 := by
  induction tracks with
  | nil => simp
  | sure split isTaken isRest isMarked _ inductionHypothesis =>
      intro one member
      rcases List.mem_cons.1 member with rfl | member
      · refine ⟨.front _ _, ?_, standing.past isRun isTaken isRest⟩
        exact List.mem_flatMap.2 ⟨_, List.mem_cons_self, List.mem_cons_self⟩
      · obtain ⟨spot, listed, fits⟩ := inductionHypothesis one member
        exact ⟨spot, by simp [listed], fits⟩
  | maybe fits _ inductionHypothesis =>
      intro one member
      rcases List.mem_append.1 member with member | member
      · obtain ⟨spot, listed, fitting⟩ := fits one member
        exact ⟨spot, by simp [Guess.spots, listed], fitting⟩
      · obtain ⟨spot, listed, fits⟩ := inductionHypothesis one member
        exact ⟨spot, by simp [listed], fits⟩

/-- If the matches of what comes next are accounted for, so are those of both together. -/
theorem andThen
    {next : Option Token → Outline → List (Guess ι)} {second : Cursor → List (Cursor × Marks ι)}
    {before : Option Token} {outline : Outline} (isRun : ∀ index, IsRun (numbers index))
    (standing : Standing numbers before outline place)
    (nextTracks : ∀ {before outline place}, Standing numbers before outline place →
      Tracks numbers place (next before outline) (second place))
    (tracks : Tracks numbers place guesses found) :
    Tracks numbers place (guesses.flatMap (Guess.andThen next before))
      (found.flatMap fun (middle, marks) =>
        (second middle).map fun (stop, more) => (stop, marks ++ more)) := by
  induction tracks with
  | nil => exact nil
  | sure split isTaken isRest isMarked _ inductionHypothesis =>
      have further := nextTracks (standing.past isRun isTaken isRest)
      exact (further.behind split isTaken isMarked).append inductionHypothesis
  | maybe fits _ inductionHypothesis =>
      rw [List.flatMap_cons, List.flatMap_append]
      refine append (unsure ?_) inductionHypothesis
      intro one member
      obtain ⟨⟨middle, marks⟩, listed, member⟩ := List.mem_flatMap.1 member
      obtain ⟨last, isLast, rfl⟩ := List.mem_map.1 member
      obtain ⟨spot, spotListed, fitting⟩ := fits _ listed
      cases spot with
      | anywhere =>
          exact ⟨.anywhere, List.mem_flatMap.2 ⟨.anywhere, spotListed, by simp⟩, trivial⟩
      | front middleBefore middleRest =>
          obtain ⟨spot, listed, fits⟩ := (nextTracks fitting).exists_spot isRun fitting _ isLast
          exact ⟨spot, List.mem_flatMap.2 ⟨_, spotListed, listed⟩, fits⟩

end Tracks

/-! ## Runs -/

theorem tracks_sweep
    {set : CharClass} {outline : Outline} {place : Cursor}
    (isRun : ∀ index, IsRun (numbers index)) (ahead : outline.WrittenAs numbers place.rest) :
    Tracks numbers place (Pattern.sweep set outline)
      ((place.stops set).map fun stop => (stop, ([] : Marks ι))) := by
  have nothing : Outline.WrittenAs numbers [] [] := Outline.writtenAs_nil_iff.2 rfl
  induction outline generalizing place with
  | nil =>
      have ends : place.rest = [] := Outline.writtenAs_nil_iff.1 ahead
      rw [Cursor.stops_of_nil ends]
      exact Tracks.here ahead Tracks.nil
  | cons token rest inductionHypothesis =>
      obtain ⟨part, more, isToken, isRest, split⟩ := Outline.writtenAs_cons_iff.1 ahead
      obtain ⟨x, others, rfl⟩ := List.exists_cons_of_ne_nil (isToken.nonempty isRun)
      rw [List.cons_append] at split
      have held : ∀ c ∈ x :: others, token.Holds c := isToken.holds isRun
      -- the run may stop at once, and what comes then depends on the token
      rw [Cursor.stops_of_cons split, List.map_cons]
      refine Tracks.here ahead ?_
      cases known : token.inSet? set with
      | none => exact Tracks.anywhere
      | some answer =>
          cases answer with
          | false =>
              rw [Token.inSet?_sound known (held x (by simp))]
              exact Tracks.nil
          | true =>
              have all : ∀ c ∈ x :: others, set.holds c = true :=
                fun c member => Token.inSet?_sound known (held c member)
              obtain ⟨inside, stops, isInside⟩ :=
                Cursor.exists_stops_append (fun c member => all c (List.mem_cons_of_mem x member))
                  (place.past [x] (others ++ more)) more rfl
              rw [if_pos (all x (by simp)), stops, List.map_append, Cursor.past_past]
              refine Tracks.append (Tracks.unsure ?_) ?_
              · intro one member
                obtain ⟨stop, listed, rfl⟩ := List.mem_map.1 member
                obtain ⟨opening, closing, rfl, nonempty, rfl⟩ := isInside stop listed
                obtain ⟨inner, isInner, fits⟩ :=
                  isToken.fits_inside isRun (List.cons_ne_nil x opening) nonempty isRest
                rw [Cursor.past_past]
                exact ⟨.front (some token) (inner :: rest), by simp [isInner], fits place⟩
              · have isTaken : Outline.WrittenAs numbers [token] (x :: others) :=
                  Outline.writtenAs_cons_iff.2 ⟨_, _, isToken, nothing, by simp⟩
                have later :
                    Tracks numbers (place.past (x :: others) more) (Pattern.sweep set rest)
                      (((place.past (x :: others) more).stops set).map
                        fun stop => (stop, ([] : Marks ι))) :=
                  inductionHypothesis isRest
                simpa [Function.comp_def] using Tracks.behind split isTaken List.Forall₂.nil later

/-! ## Patterns -/

theorem matchesAt_many
    (set : CharClass) (least : Nat) (preference : Preference) (place : Cursor) :
    (Pattern.many set least preference).matchesAt place =
      preference.order
        ((Cursor.runs set least place.offset place.before place.rest).map
          fun stop => (stop, ([] : Marks ι))) := by
  cases preference with
  | longest => exact List.map_reverse
  | shortest => rfl

theorem tracks_many
    {set : CharClass} {least : Nat} {preference : Preference} {before : Option Token}
    {outline : Outline} {place : Cursor}
    (isRun : ∀ index, IsRun (numbers index)) (standing : Standing numbers before outline place) :
    Tracks numbers place ((Pattern.many (ι := ι) set least preference).sketch before outline)
      ((Pattern.many set least preference).matchesAt place) := by
  have swept :
      Tracks numbers place (Pattern.sweep set outline)
        ((place.stops set).map fun stop => (stop, ([] : Marks ι))) :=
    tracks_sweep isRun standing.ahead
  rw [matchesAt_many]
  match least with
  | 0 => exact swept.order preference
  | 1 =>
      rw [Cursor.runs_one_eq_tail, List.map_tail]
      apply Tracks.order
      cases outline <;> exact swept.tail
  | least + 2 => exact Tracks.anywhere

/-- The sketch of a pattern accounts for its matches. -/
theorem tracks_sketch
    {pattern : Pattern ι} {before : Option Token} {outline : Outline} {place : Cursor}
    (isRun : ∀ index, IsRun (numbers index)) (standing : Standing numbers before outline place) :
    Tracks numbers place (pattern.sketch before outline) (pattern.matchesAt place) := by
  induction pattern generalizing before outline place with
  | nothing => exact Tracks.here standing.ahead Tracks.nil
  | one set =>
      cases outline with
      | nil =>
          rw [Pattern.matchesAt, Outline.writtenAs_nil_iff.1 standing.ahead]
          exact Tracks.nil
      | cons token rest =>
          obtain ⟨part, more, isToken, isRest, split⟩ := Outline.writtenAs_cons_iff.1 standing.ahead
          obtain ⟨x, others, rfl⟩ := List.exists_cons_of_ne_nil (isToken.nonempty isRun)
          rw [List.cons_append] at split
          have held : token.Holds x := isToken.holds isRun x (by simp)
          cases known : token.inSet? set with
          | none =>
              simp only [Pattern.sketch, known]
              exact Tracks.anywhere
          | some answer =>
              have answered : set.holds x = answer := Token.inSet?_sound known held
              cases answer with
              | false =>
                  simp only [Pattern.sketch, Pattern.matchesAt, known, split, answered]
                  exact Tracks.nil
              | true =>
                  simp only [Pattern.sketch, Pattern.matchesAt, known, split, answered, if_true]
                  cases isInner : token.inner? with
                  | some inner => exact Tracks.anywhere
                  | none =>
                      obtain rfl := isToken.tail_eq_nil isRun isInner
                      have isTaken : Outline.WrittenAs numbers [token] [x] :=
                        Outline.writtenAs_cons_iff.2
                          ⟨[x], [], isToken, Outline.writtenAs_nil_iff.2 rfl, rfl⟩
                      exact Tracks.sure split isTaken isRest List.Forall₂.nil Tracks.nil
  | wordEdge =>
      cases known : Pattern.edge? before outline with
      | none =>
          rw [Pattern.sketch, known]
          exact Tracks.anywhere
      | some answer =>
          rw [Pattern.sketch, Pattern.matchesAt, known, edge?_sound isRun standing known]
          cases answer with
          | false => exact Tracks.nil
          | true => exact Tracks.here standing.ahead Tracks.nil
  | many set least preference => exact tracks_many isRun standing
  | andThen first second firstStep secondStep =>
      exact (firstStep standing).andThen isRun standing fun further => secondStep further
  | either first second firstStep secondStep =>
      exact (firstStep standing).append (secondStep standing)
  | mark label pattern inductionHypothesis => exact (inductionHypothesis standing).marked label

/-! ## Hits -/

/-- Without guesses there is no hit. -/
theorem hitAt?_eq_none_of_sketch
    {pattern : Pattern ι} {before : Option Token} {outline : Outline} {place : Cursor}
    (isRun : ∀ index, IsRun (numbers index)) (standing : Standing numbers before outline place)
    (sketched : pattern.sketch before outline = []) :
    pattern.hitAt? place = none := by
  have tracks : Tracks numbers place (pattern.sketch before outline) (pattern.matchesAt place) :=
    tracks_sketch isRun standing
  rw [sketched] at tracks
  rw [Pattern.hitAt?, Pattern.seek_eq_findSome?]
  cases matched : pattern.matchesAt place with
  | nil => rfl
  | cons one others =>
      rw [matched] at tracks
      cases tracks

/-- If the first guess is sure of a match of all there is, this is the hit. -/
theorem exists_hitAt?_of_sketch
    {pattern : Pattern ι} {before : Option Token} {outline taken : Outline}
    {marks : List (ι × Outline)} {others : List (Guess ι)} {place : Cursor}
    (isRun : ∀ index, IsRun (numbers index)) (standing : Standing numbers before outline place)
    (sketched : pattern.sketch before outline = .sure taken [] marks :: others) :
    ∃ parts, MarksWrittenAs numbers marks parts ∧
      pattern.hitAt? place = some ⟨⟨place.offset, place.rest.length⟩, place.rest, parts⟩ := by
  have tracks : Tracks numbers place (pattern.sketch before outline) (pattern.matchesAt place) :=
    tracks_sketch isRun standing
  rw [sketched] at tracks
  cases matched : pattern.matchesAt place with
  | nil =>
      rw [matched] at tracks
      cases tracks
  | cons one found =>
      rw [matched] at tracks
      cases tracks with
      | sure split _ isRest isMarked _ =>
          obtain rfl := Outline.writtenAs_nil_iff.1 isRest
          refine ⟨_, isMarked, ?_⟩
          rw [Pattern.hitAt?_eq_some_iff]
          refine ⟨_, _, by rw [matched]; rfl, ?_⟩
          rw [Cursor.textTo_past split, Cursor.past_offset, Nat.add_sub_cancel_left, split,
            List.append_nil]

theorem MarksWrittenAs.rel_lookup
    [BEq ι] {marks : List (ι × Outline)} {parts : Marks ι}
    (isMarked : MarksWrittenAs numbers marks parts) (label : ι) :
    Option.Rel (Outline.WrittenAs numbers) (marks.lookup label) (parts.lookup label) := by
  induction isMarked with
  | nil => exact Option.Rel.none
  | @cons mark part marks parts related _ inductionHypothesis =>
      obtain ⟨marked, outline⟩ := mark
      obtain ⟨_, text⟩ := part
      obtain ⟨rfl, written⟩ := related
      rw [List.lookup_cons, List.lookup_cons]
      cases label == marked with
      | true => exact Option.Rel.some written
      | false => exact inductionHypothesis

theorem MarksWrittenAs.rel_mark?
    [BEq ι] {marks : List (ι × Outline)} {hit : Hit ι}
    (isMarked : MarksWrittenAs numbers marks hit.marks) (label : ι) :
    Option.Rel (fun outline said => Outline.WrittenAs numbers outline said.toList)
      (marks.lookup label) (hit.mark? label) := by
  have related := isMarked.rel_lookup label
  rw [Hit.mark?]
  generalize marks.lookup label = expected at related ⊢
  generalize hit.marks.lookup label = found at related ⊢
  cases related with
  | none => exact Option.Rel.none
  | some written =>
      refine Option.Rel.some ?_
      rw [String.toList_ofList]
      exact written

/-- What a hit tells of a label is written like the outline that the label has. -/
theorem MarksWrittenAs.exists_mark?
    [BEq ι] {marks : List (ι × Outline)} {hit : Hit ι} {label : ι} {outline : Outline}
    (isMarked : MarksWrittenAs numbers marks hit.marks)
    (marked : marks.lookup label = some outline) :
    ∃ said, hit.mark? label = some said ∧ outline.WrittenAs numbers said.toList := by
  have related := isMarked.rel_mark? label
  rw [marked] at related
  generalize hit.mark? label = found at related ⊢
  cases related with
  | some written => exact ⟨_, rfl, written⟩

theorem MarksWrittenAs.mark?_eq_none
    [BEq ι] {marks : List (ι × Outline)} {hit : Hit ι} {label : ι}
    (isMarked : MarksWrittenAs numbers marks hit.marks) (unmarked : marks.lookup label = none) :
    hit.mark? label = none := by
  have related := isMarked.rel_mark? label
  rw [unmarked] at related
  generalize hit.mark? label = found at related ⊢
  cases related
  rfl

end

end Tabletop
