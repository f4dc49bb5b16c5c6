import Tabletop.Proofs.Pattern.Hits

/-!
# Texts set into other texts

A text may be set into another one, with text in front of it and behind it and with its characters
respelled. Where words keep their edges and sets of characters hold what they held, a pattern that
asks for such sets finds in the other text just what it finds in the first.
-/

namespace Tabletop

/-- A way to set a text into another one, between other texts that do not go on with its words. A
set of characters does not notice if it holds a character just when it holds what the character
becomes, and if it does not hold what comes behind the text. -/
structure Embedding where
  front : List Char := []
  /-- What a character of the text becomes. -/
  letter : Char → Char := id
  behind : List Char := []
  /-- Whether a set of characters does not notice. -/
  keeps : CharClass → Bool := fun _ => true
  front_ends : front.getLast?.any Text.isWord = false
  isWord_letter : ∀ c, Text.isWord (letter c) = Text.isWord c
  behind_ends : behind.head?.any Text.isWord = false
  holds_letter : ∀ set, keeps set = true → ∀ c, set.holds (letter c) = set.holds c
  behind_stops : ∀ set, keeps set = true → behind.head?.any set.holds = false

/-- Whether a pattern asks only for sets of some kind. -/
def Pattern.asksOnly {ι : Type} (keeps : CharClass → Bool) : Pattern ι → Bool
  | .nothing | .wordEdge => true
  | .one set | .many set _ _ => keeps set
  | .andThen first second | .either first second =>
      first.asksOnly keeps && second.asksOnly keeps
  | .mark _ pattern => pattern.asksOnly keeps

namespace Embedding

/-! ## Empty texts -/

theorem front_ends_nil : ([] : List Char).getLast?.any Text.isWord = false := rfl

theorem behind_ends_nil : ([] : List Char).head?.any Text.isWord = false := rfl

theorem behind_stops_nil (set : CharClass) : ([] : List Char).head?.any set.holds = false := rfl

variable {ι : Type} (embedding : Embedding)

/-! ## Places -/

/-- The place that a place in the text becomes. -/
def place (here : Cursor) : Cursor :=
  ⟨here.offset + embedding.front.length,
    (here.before.map embedding.letter).or embedding.front.getLast?,
    here.rest.map embedding.letter ++ embedding.behind⟩

@[simp]
theorem place_offset (here : Cursor) :
    (embedding.place here).offset = here.offset + embedding.front.length := rfl

@[simp]
theorem place_before (here : Cursor) :
    (embedding.place here).before =
      (here.before.map embedding.letter).or embedding.front.getLast? := rfl

@[simp]
theorem place_rest (here : Cursor) :
    (embedding.place here).rest = here.rest.map embedding.letter ++ embedding.behind := rfl

theorem place_past (here : Cursor) (text rest : List Char) :
    embedding.place (here.past text rest) =
      (embedding.place here).past (text.map embedding.letter)
        (rest.map embedding.letter ++ embedding.behind) := by
  simp only [place, Cursor.past, List.length_map, List.getLast?_map, Option.map_or,
    Option.or_assoc, Nat.add_right_comm]

theorem textTo_place
    {here : Cursor} {text rest : List Char} (split : here.rest = text ++ rest) :
    (embedding.place here).textTo (embedding.place (here.past text rest)) =
      text.map embedding.letter := by
  rw [place_past]
  exact Cursor.textTo_past (by simp [place, split])

theorem atWordEdge_place (here : Cursor) :
    (embedding.place here).atWordEdge = here.atWordEdge := by
  obtain ⟨offset, before, rest⟩ := here
  have opening :
      ((before.map embedding.letter).or embedding.front.getLast?).any Text.isWord =
        before.any Text.isWord := by
    cases before with
    | none => exact embedding.front_ends
    | some c => exact embedding.isWord_letter c
  have closing :
      (rest.map embedding.letter ++ embedding.behind).head?.any Text.isWord =
        rest.head?.any Text.isWord := by
    cases rest with
    | nil => exact embedding.behind_ends
    | cons c rest => exact embedding.isWord_letter c
  simp only [Cursor.atWordEdge, place, opening, closing]

theorem runs_place
    {set : CharClass} (kept : embedding.keeps set = true) (least : Nat) (here : Cursor) :
    Cursor.runs set least (embedding.place here).offset (embedding.place here).before
        (embedding.place here).rest =
      (Cursor.runs set least here.offset here.before here.rest).map embedding.place := by
  obtain ⟨offset, before, rest⟩ := here
  induction rest generalizing least offset before with
  | nil =>
      have stops := embedding.behind_stops set kept
      cases behind : embedding.behind with
      | nil => by_cases free : least = 0 <;> simp [place, Cursor.runs, behind, free]
      | cons c more =>
          have refused : set.holds c = false := by simpa [behind] using stops
          by_cases free : least = 0 <;> simp [place, Cursor.runs, behind, refused, free]
  | cons c rest inductionHypothesis =>
      have further (least : Nat) := inductionHypothesis least (offset + 1) (some c)
      simp only [place_offset, place_before, place_rest, Option.map_some, Option.some_or,
        Nat.add_right_comm offset 1] at further
      cases least with
      | zero =>
          by_cases held : set.holds c <;>
            simp [place, Cursor.runs, embedding.holds_letter set kept, held, further 0]
      | succ least =>
          by_cases held : set.holds c <;>
            simp [Cursor.runs, embedding.holds_letter set kept, held, further least]

/-! ## Matches -/

/-- What the marks of a match become. -/
def marks (marks : Marks ι) : Marks ι :=
  marks.map fun (label, part) => (label, part.map embedding.letter)

/-- A pattern that asks for kept sets has the same matches at the place that a place becomes. -/
theorem matchesAt_place
    {pattern : Pattern ι} (asks : pattern.asksOnly embedding.keeps = true) (here : Cursor) :
    pattern.matchesAt (embedding.place here) =
      (pattern.matchesAt here).map fun (stop, marks) =>
        (embedding.place stop, embedding.marks marks) := by
  induction pattern generalizing here with
  | nothing => rfl
  | one set =>
      obtain ⟨offset, before, rest⟩ := here
      cases rest with
      | nil =>
          have stops := embedding.behind_stops set asks
          cases behind : embedding.behind with
          | nil => simp [place, Pattern.matchesAt, behind]
          | cons c more =>
              have refused : set.holds c = false := by simpa [behind] using stops
              simp [place, Pattern.matchesAt, behind, refused]
      | cons c rest =>
          have same := embedding.holds_letter set asks c
          by_cases held : set.holds c <;>
            simp [place, Pattern.matchesAt, same, held, marks, Nat.add_right_comm offset 1]
  | wordEdge =>
      simp only [Pattern.matchesAt, embedding.atWordEdge_place]
      split <;> rfl
  | many set least preference =>
      have same := embedding.runs_place asks least here
      cases preference <;>
        simp only [Pattern.matchesAt, same, List.map_map, List.map_reverse] <;> rfl
  | andThen first second firstStep secondStep =>
      obtain ⟨firstAsks, secondAsks⟩ := Bool.and_eq_true_iff.1 asks
      simp only [Pattern.matchesAt, firstStep firstAsks, List.flatMap_map, List.map_flatMap,
        secondStep secondAsks, List.map_map, Function.comp_def, marks, List.map_append]
  | either first second firstStep secondStep =>
      obtain ⟨firstAsks, secondAsks⟩ := Bool.and_eq_true_iff.1 asks
      simp only [Pattern.matchesAt, firstStep firstAsks, secondStep secondAsks, List.map_append]
  | mark label pattern inductionHypothesis =>
      simp only [Pattern.matchesAt, inductionHypothesis asks, List.map_map]
      apply List.map_congr_left
      rintro ⟨stop, inner⟩ member
      obtain ⟨text, rest, split, rfl, -⟩ := Pattern.reads_of_mem_matchesAt member
      simp only [Function.comp_apply, embedding.textTo_place split, Cursor.textTo_past split,
        marks, List.map_cons]

/-! ## Hits -/

/-- What a hit becomes. -/
def hit (hit : Hit ι) : Hit ι :=
  ⟨⟨hit.span.start + embedding.front.length, hit.span.length⟩, hit.text.map embedding.letter,
    embedding.marks hit.marks⟩

/-- A pattern finds at two places the same, up to what the first finding becomes. -/
def Agrees (pattern : Pattern ι) (here : Cursor) : Prop :=
  pattern.hitAt? (embedding.place here) = (pattern.hitAt? here).map embedding.hit

theorem agrees_of_asksOnly
    {pattern : Pattern ι} (asks : pattern.asksOnly embedding.keeps = true) (here : Cursor) :
    embedding.Agrees pattern here := by
  simp only [Agrees, Pattern.hitAt?_eq_map_head?, embedding.matchesAt_place asks, List.head?_map,
    Option.map_map]
  apply Option.map_congr
  rintro ⟨stop, marks⟩ first
  obtain ⟨text, rest, split, rfl, -⟩ :=
    Pattern.reads_of_mem_matchesAt (List.mem_of_head? first)
  have covered :
      here.offset + text.length + embedding.front.length -
          (here.offset + embedding.front.length) = text.length := by
    omega
  simp only [Function.comp_apply, hit, embedding.textTo_place split, Cursor.textTo_past split,
    place_offset, Cursor.past_offset, covered, Nat.add_sub_cancel_left]

/-! ## Scans -/

/-- Scanning goes through the text that is set into the other, and on from its end. -/
theorem scanFrom_place
    {pattern : Pattern ι} {covered : Nat} {here last : Cursor}
    (inside : covered ≤ here.rest.length)
    (agrees : ∀ passed rest, here.rest = passed ++ rest →
      embedding.Agrees pattern (here.past passed rest))
    (ends : embedding.place (here.past here.rest []) = last) :
    pattern.scanFrom covered (embedding.place here).offset (embedding.place here).before
        (embedding.place here).rest =
      (pattern.scanFrom covered here.offset here.before here.rest).map embedding.hit ++
        pattern.scanFrom 0 last.offset last.before embedding.behind := by
  obtain ⟨offset, before, letters⟩ := here
  induction letters generalizing covered offset before with
  | nil =>
      obtain rfl := Nat.le_zero.1 inside
      rw [← ends]
      rfl
  | cons c letters inductionHypothesis =>
      have later :
          ∀ covered ≤ letters.length,
            pattern.scanFrom covered (offset + embedding.front.length + 1)
                (some (embedding.letter c))
                (letters.map embedding.letter ++ embedding.behind) =
              (pattern.scanFrom covered (offset + 1) (some c) letters).map embedding.hit ++
                pattern.scanFrom 0 last.offset last.before embedding.behind := by
        intro covered inside
        rw [Nat.add_right_comm]
        refine inductionHypothesis (offset + 1) (some c) inside (fun passed rest split => ?_) ?_
        · have known := agrees (c :: passed) rest (congrArg (c :: ·) split)
          rw [Cursor.past_cons, ← split] at known
          exact known
        · rw [Cursor.past_cons, List.append_nil] at ends
          exact ends
      cases covered with
      | succ covered => exact later covered (Nat.le_of_succ_le_succ inside)
      | zero =>
          have attempt : embedding.Agrees pattern ⟨offset, before, c :: letters⟩ :=
            agrees [] (c :: letters) rfl
          simp only [Agrees, place, List.map_cons, List.cons_append] at attempt
          simp only [place, List.map_cons, List.cons_append, Pattern.scanFrom, attempt]
          cases found : pattern.hitAt? ⟨offset, before, c :: letters⟩ with
          | none => exact later 0 (Nat.zero_le _)
          | some first =>
              -- A hit ends within the text, so none of what stands behind it is passed over.
              obtain ⟨rest, split, span, -⟩ := Pattern.reads_of_hitAt? found
              have short : first.span.length - 1 ≤ letters.length := by
                have total := congrArg List.length split
                simp only [List.length_cons, List.length_append] at total
                simp only [span]
                omega
              exact congrArg (embedding.hit first :: ·) (later _ short)

/-- Where nothing stands behind the text, the scan ends with it. -/
theorem scanFrom_place_of_asksOnly
    {pattern : Pattern ι} (asks : pattern.asksOnly embedding.keeps = true)
    (last : embedding.behind = []) (here : Cursor) :
    pattern.scanFrom 0 (embedding.place here).offset (embedding.place here).before
        (embedding.place here).rest =
      (pattern.scanFrom 0 here.offset here.before here.rest).map embedding.hit := by
  have through := embedding.scanFrom_place (Nat.zero_le here.rest.length)
    (fun passed rest _ => embedding.agrees_of_asksOnly asks (here.past passed rest)) rfl
  rw [last] at through
  exact through.trans (List.append_nil _)

/-- Where nothing stands behind the text, the search ends with it. -/
theorem searchFrom_place
    {pattern : Pattern ι} (asks : pattern.asksOnly embedding.keeps = true)
    (last : embedding.behind = []) (here : Cursor) :
    pattern.searchFrom (embedding.place here).offset (embedding.place here).before
        (embedding.place here).rest =
      (pattern.searchFrom here.offset here.before here.rest).map embedding.hit := by
  obtain ⟨offset, before, letters⟩ := here
  induction letters generalizing offset before with
  | nil =>
      have attempt := embedding.agrees_of_asksOnly asks ⟨offset, before, []⟩
      simp only [Agrees, place, last, List.map_nil, List.append_nil] at attempt
      simp only [place, last, List.map_nil, List.append_nil, Pattern.searchFrom, attempt]
  | cons c letters inductionHypothesis =>
      have attempt := embedding.agrees_of_asksOnly asks ⟨offset, before, c :: letters⟩
      have later := inductionHypothesis (offset + 1) (some c)
      simp only [Agrees, place, last, List.map_cons, List.append_nil] at attempt
      simp only [place, last, Option.map_some, Option.some_or, List.append_nil,
        Nat.add_right_comm offset 1] at later
      simp only [place, last, List.map_cons, List.append_nil, Pattern.searchFrom, attempt]
      cases pattern.hitAt? ⟨offset, before, c :: letters⟩ with
      | none => exact later
      | some first => rfl

end Embedding

end Tabletop
