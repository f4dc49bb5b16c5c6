import Tabletop.Pattern.Scan

/-!
# What a match reads

A pattern without its word edges is a language of texts with marks. Every match of the pattern
reads such a text from the place where it begins. What a marked part reads, how short a match can be
and with which characters it ends can then be read off the pattern.
-/

namespace Tabletop

/-! ## Places further on -/

namespace Cursor

/-- The place behind some text, in front of the rest. -/
def past (place : Cursor) (text rest : List Char) : Cursor :=
  ⟨place.offset + text.length, text.getLast?.or place.before, rest⟩

@[simp]
theorem past_offset (place : Cursor) (text rest : List Char) :
    (place.past text rest).offset = place.offset + text.length := rfl

@[simp]
theorem past_before (place : Cursor) (text rest : List Char) :
    (place.past text rest).before = text.getLast?.or place.before := rfl

@[simp]
theorem past_rest (place : Cursor) (text rest : List Char) :
    (place.past text rest).rest = rest := rfl

@[simp]
theorem past_nil (place : Cursor) : place.past [] place.rest = place := rfl

@[simp]
theorem past_past (place : Cursor) (text more middle rest : List Char) :
    (place.past text middle).past more rest = place.past (text ++ more) rest := by
  simp [past, List.getLast?_append, Option.or_assoc, Nat.add_assoc]

theorem past_cons (place : Cursor) (c : Char) (text rest : List Char) :
    place.past (c :: text) rest =
      Cursor.past ⟨place.offset + 1, some c, text ++ rest⟩ text rest := by
  have split := past_past place [c] text (text ++ rest) rest
  simpa [past] using split.symm

theorem textTo_past
    {place : Cursor} {text rest : List Char}
    (split : place.rest = text ++ rest) :
    place.textTo (place.past text rest) = text := by
  simp [textTo, split]

/-- The places that a run reaches are those behind enough characters of its set. -/
theorem mem_runs_iff
    (set : CharClass) (least : Nat) (place stop : Cursor) :
    stop ∈ runs set least place.offset place.before place.rest ↔
      ∃ text rest,
        place.rest = text ++ rest ∧ stop = place.past text rest ∧
          (∀ c ∈ text, set.holds c) ∧ least ≤ text.length := by
  obtain ⟨offset, before, letters⟩ := place
  induction letters generalizing least offset before with
  | nil =>
      constructor
      · intro member
        by_cases free : least = 0
        · simp only [runs, if_pos free, List.mem_singleton] at member
          exact ⟨[], [], rfl, member, by simp, by simp [free]⟩
        · simp [runs, free] at member
      · rintro ⟨text, rest, split, rfl, -, enough⟩
        obtain ⟨rfl, rfl⟩ := List.nil_eq_append_iff.1 split
        simp [runs, Nat.le_zero.1 enough, past]
  | cons c letters inductionHypothesis =>
      have further :
          stop ∈ (if set.holds c then
              runs set (least - 1) (offset + 1) (some c) letters else []) ↔
            ∃ text rest,
              c :: letters = c :: text ++ rest ∧
                stop = Cursor.past ⟨offset, before, c :: letters⟩ (c :: text) rest ∧
                (∀ x ∈ c :: text, set.holds x) ∧ least ≤ (c :: text).length := by
        by_cases held : set.holds c
        · have step := inductionHypothesis (least - 1) (offset + 1) (some c)
          simp only at step
          rw [if_pos held, step]
          constructor
          · rintro ⟨text, rest, split, reached, all, enough⟩
            refine ⟨text, rest, by simp [split], ?_, by simpa [held] using all, ?_⟩
            · rw [past_cons, reached, split]
            · simp only [List.length_cons]
              omega
          · rintro ⟨text, rest, split, reached, all, enough⟩
            have tailSplit : letters = text ++ rest := by simpa using split
            refine ⟨text, rest, tailSplit, ?_, fun x member => all x (by simp [member]), ?_⟩
            · rw [reached, past_cons, tailSplit]
            · simp only [List.length_cons] at enough
              omega
        · rw [if_neg held]
          simp only [List.not_mem_nil, false_iff]
          rintro ⟨text, rest, -, -, all, -⟩
          exact held (all c (by simp))
      have here :
          stop ∈ runs set least offset before (c :: letters) ↔
            (least = 0 ∧ stop = ⟨offset, before, c :: letters⟩) ∨
              stop ∈ (if set.holds c then
                runs set (least - 1) (offset + 1) (some c) letters else []) := by
        by_cases free : least = 0 <;> simp [runs, free]
      simp only [here, further]
      constructor
      · rintro (⟨rfl, rfl⟩ | ⟨text, rest, found⟩)
        · exact ⟨[], c :: letters, rfl, rfl, by simp, Nat.zero_le _⟩
        · exact ⟨c :: text, rest, found⟩
      · rintro ⟨text, rest, split, reached, all, enough⟩
        cases text with
        | nil =>
            rw [List.nil_append] at split
            subst split
            exact Or.inl ⟨Nat.le_zero.1 enough, reached⟩
        | cons first text =>
            obtain ⟨rfl, tailSplit⟩ := List.cons.inj split
            exact Or.inr ⟨text, rest, split, reached, all, enough⟩

end Cursor

/-! ## Texts that a pattern reads -/

namespace Pattern

variable {ι : Type}

/-- The texts that a pattern reads, with their marks, wherever words begin and end. -/
def Reads : Pattern ι → List Char → Marks ι → Prop
  | .nothing, text, marks => text = [] ∧ marks = []
  | .one set, text, marks => ∃ c, set.holds c ∧ text = [c] ∧ marks = []
  | .wordEdge, text, marks => text = [] ∧ marks = []
  | .many set least _, text, marks =>
      (∀ c ∈ text, set.holds c) ∧ least ≤ text.length ∧ marks = []
  | .andThen first second, text, marks =>
      ∃ opening closing openingMarks closingMarks,
        first.Reads opening openingMarks ∧ second.Reads closing closingMarks ∧
          text = opening ++ closing ∧ marks = openingMarks ++ closingMarks
  | .either first second, text, marks => first.Reads text marks ∨ second.Reads text marks
  | .mark label pattern, text, marks =>
      ∃ inner, pattern.Reads text inner ∧ marks = (label, text) :: inner

/-- Every match reads a text of the pattern and stops behind it. -/
theorem reads_of_mem_matchesAt
    {pattern : Pattern ι} {place stop : Cursor} {marks : Marks ι}
    (found : (stop, marks) ∈ pattern.matchesAt place) :
    ∃ text rest,
      place.rest = text ++ rest ∧ stop = place.past text rest ∧ pattern.Reads text marks := by
  induction pattern generalizing place stop marks with
  | nothing =>
      simp only [matchesAt, List.mem_singleton, Prod.mk.injEq] at found
      obtain ⟨rfl, rfl⟩ := found
      exact ⟨[], stop.rest, rfl, rfl, rfl, rfl⟩
  | one set =>
      obtain ⟨offset, before, letters⟩ := place
      cases letters with
      | nil => simp [matchesAt] at found
      | cons c rest =>
          by_cases held : set.holds c
          · simp only [matchesAt, held, if_true, List.mem_singleton, Prod.mk.injEq] at found
            obtain ⟨rfl, rfl⟩ := found
            exact ⟨[c], rest, rfl, rfl, c, held, rfl, rfl⟩
          · simp [matchesAt, held] at found
  | wordEdge =>
      by_cases edge : place.atWordEdge
      · simp only [matchesAt, edge, if_true, List.mem_singleton, Prod.mk.injEq] at found
        obtain ⟨rfl, rfl⟩ := found
        exact ⟨[], stop.rest, rfl, rfl, rfl, rfl⟩
      · simp [matchesAt, edge] at found
  | many set least preference =>
      have reached :
          stop ∈ Cursor.runs set least place.offset place.before place.rest ∧ marks = [] := by
        cases preference <;>
          · simp only [matchesAt, List.mem_map, List.mem_reverse, Prod.mk.injEq] at found
            obtain ⟨reached, member, rfl, rfl⟩ := found
            exact ⟨member, rfl⟩
      obtain ⟨text, rest, split, stops, all, enough⟩ :=
        (Cursor.mem_runs_iff set least place stop).1 reached.1
      exact ⟨text, rest, split, stops, all, enough, reached.2⟩
  | andThen first second firstStep secondStep =>
      simp only [matchesAt, List.mem_flatMap, List.mem_map, Prod.mk.injEq] at found
      obtain ⟨⟨middle, openingMarks⟩, opened, ⟨last, closingMarks⟩, closed, rfl, rfl⟩ := found
      obtain ⟨opening, between, split, rfl, opens⟩ := firstStep opened
      obtain ⟨closing, rest, closingSplit, rfl, closes⟩ := secondStep closed
      rw [Cursor.past_rest] at closingSplit
      refine ⟨opening ++ closing, rest, ?_, by simp, ?_⟩
      · rw [split, closingSplit, List.append_assoc]
      · exact ⟨opening, closing, openingMarks, closingMarks, opens, closes, rfl, rfl⟩
  | either first second firstStep secondStep =>
      simp only [matchesAt, List.mem_append] at found
      rcases found with found | found
      · obtain ⟨text, rest, split, stops, reads⟩ := firstStep found
        exact ⟨text, rest, split, stops, Or.inl reads⟩
      · obtain ⟨text, rest, split, stops, reads⟩ := secondStep found
        exact ⟨text, rest, split, stops, Or.inr reads⟩
  | mark label pattern inductionHypothesis =>
      simp only [matchesAt, List.mem_map, Prod.mk.injEq] at found
      obtain ⟨⟨last, inner⟩, found, rfl, rfl⟩ := found
      obtain ⟨text, rest, split, rfl, reads⟩ := inductionHypothesis found
      exact ⟨text, rest, split, rfl, inner, reads, by rw [Cursor.textTo_past split]⟩

/-! ## Marked parts -/

/-- A marked text is a stretch of the text that is read. -/
theorem infix_of_mem_marks
    {pattern : Pattern ι} {text part : List Char} {marks : Marks ι} {label : ι}
    (reads : pattern.Reads text marks) (member : (label, part) ∈ marks) :
    part <:+: text := by
  induction pattern generalizing text marks with
  | nothing | wordEdge =>
      obtain ⟨-, rfl⟩ := reads
      simp at member
  | one set =>
      obtain ⟨c, -, -, rfl⟩ := reads
      simp at member
  | many set least preference =>
      obtain ⟨-, -, rfl⟩ := reads
      simp at member
  | andThen first second firstStep secondStep =>
      obtain ⟨opening, closing, openingMarks, closingMarks, opens, closes, rfl, rfl⟩ := reads
      rcases List.mem_append.1 member with member | member
      · exact (firstStep opens member).trans (List.prefix_append opening closing).isInfix
      · exact (secondStep closes member).trans (List.suffix_append opening closing).isInfix
  | either first second firstStep secondStep =>
      rcases reads with reads | reads
      · exact firstStep reads member
      · exact secondStep reads member
  | mark marked pattern inductionHypothesis =>
      obtain ⟨inner, reads, rfl⟩ := reads
      rcases List.mem_cons.1 member with equal | member
      · obtain ⟨-, rfl⟩ := Prod.mk.inj equal
        exact List.infix_refl _
      · exact inductionHypothesis reads member

section Parts

variable [DecidableEq ι]

/-- The parts of a pattern that are marked with a label. -/
def parts (label : ι) : Pattern ι → List (Pattern ι)
  | .nothing | .one _ | .wordEdge | .many _ _ _ => []
  | .andThen first second | .either first second => first.parts label ++ second.parts label
  | .mark marked pattern =>
      if marked = label then pattern :: pattern.parts label else pattern.parts label

/-- What is marked with a label was read by a part with that label. -/
theorem part_of_mem_marks
    {pattern : Pattern ι} {text part : List Char} {marks : Marks ι} {label : ι}
    (reads : pattern.Reads text marks) (member : (label, part) ∈ marks) :
    ∃ inner ∈ pattern.parts label, ∃ innerMarks, inner.Reads part innerMarks := by
  induction pattern generalizing text marks with
  | nothing | wordEdge =>
      obtain ⟨-, rfl⟩ := reads
      simp at member
  | one set =>
      obtain ⟨c, -, -, rfl⟩ := reads
      simp at member
  | many set least preference =>
      obtain ⟨-, -, rfl⟩ := reads
      simp at member
  | andThen first second firstStep secondStep =>
      obtain ⟨opening, closing, openingMarks, closingMarks, opens, closes, rfl, rfl⟩ := reads
      rcases List.mem_append.1 member with member | member
      · obtain ⟨inner, listed, found⟩ := firstStep opens member
        exact ⟨inner, List.mem_append_left _ listed, found⟩
      · obtain ⟨inner, listed, found⟩ := secondStep closes member
        exact ⟨inner, List.mem_append_right _ listed, found⟩
  | either first second firstStep secondStep =>
      rcases reads with reads | reads
      · obtain ⟨inner, listed, found⟩ := firstStep reads member
        exact ⟨inner, List.mem_append_left _ listed, found⟩
      · obtain ⟨inner, listed, found⟩ := secondStep reads member
        exact ⟨inner, List.mem_append_right _ listed, found⟩
  | mark marked pattern inductionHypothesis =>
      obtain ⟨innerMarks, reads, rfl⟩ := reads
      rcases List.mem_cons.1 member with equal | member
      · obtain ⟨rfl, rfl⟩ := Prod.mk.inj equal
        exact ⟨pattern, by simp [parts], innerMarks, reads⟩
      · obtain ⟨inner, listed, found⟩ := inductionHypothesis reads member
        refine ⟨inner, ?_, found⟩
        by_cases equal : marked = label
        · simp [parts, equal, listed]
        · simp [parts, equal, listed]

end Parts

/-! ## Length and last letter -/

/-- The length of the shortest text that a pattern can read. -/
def shortest : Pattern ι → Nat
  | .nothing | .wordEdge => 0
  | .one _ => 1
  | .many _ least _ => least
  | .andThen first second => first.shortest + second.shortest
  | .either first second => min first.shortest second.shortest
  | .mark _ pattern => pattern.shortest

theorem shortest_le_length
    {pattern : Pattern ι} {text : List Char} {marks : Marks ι}
    (reads : pattern.Reads text marks) :
    pattern.shortest ≤ text.length := by
  induction pattern generalizing text marks with
  | nothing | wordEdge => exact Nat.zero_le _
  | one set =>
      obtain ⟨c, -, rfl, -⟩ := reads
      exact Nat.le_refl 1
  | many set least preference => exact reads.2.1
  | andThen first second firstStep secondStep =>
      obtain ⟨opening, closing, openingMarks, closingMarks, opens, closes, rfl, -⟩ := reads
      rw [List.length_append]
      exact Nat.add_le_add (firstStep opens) (secondStep closes)
  | either first second firstStep secondStep =>
      rcases reads with reads | reads
      · exact Nat.le_trans (Nat.min_le_left _ _) (firstStep reads)
      · exact Nat.le_trans (Nat.min_le_right _ _) (secondStep reads)
  | mark label pattern inductionHypothesis =>
      obtain ⟨inner, reads, -⟩ := reads
      exact inductionHypothesis reads

/-- The sets of which one holds the last character of a text that a pattern reads. -/
def closers : Pattern ι → List CharClass
  | .nothing | .wordEdge => []
  | .one set | .many set _ _ => [set]
  | .andThen first second =>
      second.closers ++ (if second.shortest = 0 then first.closers else [])
  | .either first second => first.closers ++ second.closers
  | .mark _ pattern => pattern.closers

theorem closers_hold
    {pattern : Pattern ι} {c : Char} {text : List Char} {marks : Marks ι}
    (reads : pattern.Reads (text ++ [c]) marks) :
    ∃ set ∈ pattern.closers, set.holds c := by
  induction pattern generalizing c text marks with
  | nothing | wordEdge =>
      obtain ⟨absurd, -⟩ := reads
      simp at absurd
  | one set =>
      obtain ⟨first, held, split, -⟩ := reads
      obtain ⟨-, equal⟩ := List.append_inj' (show text ++ [c] = [] ++ [first] from split) rfl
      obtain rfl := List.singleton_inj.1 equal
      exact ⟨set, by simp [closers], held⟩
  | many set least preference => exact ⟨set, by simp [closers], reads.1 c (by simp)⟩
  | andThen first second firstStep secondStep =>
      obtain ⟨opening, closing, openingMarks, closingMarks, opens, closes, split, -⟩ := reads
      rcases List.eq_nil_or_concat closing with rfl | ⟨closing, last, rfl⟩
      · have empty : second.shortest = 0 := Nat.le_zero.1 (shortest_le_length closes)
        rw [List.append_nil] at split
        subst split
        obtain ⟨set, listed, held⟩ := firstStep opens
        exact ⟨set, by simp [closers, empty, listed], held⟩
      · rw [List.concat_eq_append] at split closes
        rw [← List.append_assoc] at split
        obtain ⟨-, equal⟩ := List.append_inj' split rfl
        obtain rfl := List.singleton_inj.1 equal
        obtain ⟨set, listed, held⟩ := secondStep closes
        exact ⟨set, List.mem_append_left _ listed, held⟩
  | either first second firstStep secondStep =>
      rcases reads with reads | reads
      · obtain ⟨set, listed, held⟩ := firstStep reads
        exact ⟨set, List.mem_append_left _ listed, held⟩
      · obtain ⟨set, listed, held⟩ := secondStep reads
        exact ⟨set, List.mem_append_right _ listed, held⟩
  | mark label pattern inductionHypothesis =>
      obtain ⟨inner, reads, -⟩ := reads
      exact inductionHypothesis reads

end Pattern

end Tabletop
