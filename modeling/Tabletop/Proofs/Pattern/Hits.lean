import Tabletop.Proofs.Pattern.Reading

/-!
# Where a pattern is found

Each hit of a scan is the preferred match at its place: it tells how far it reaches, and its text is
the stretch of the scanned text that the pattern reads there.
-/

namespace Tabletop

/-- The stretch of a text that a span covers. -/
def Span.cut (span : Span) (text : List Char) : List Char :=
  (text.drop span.start).take span.length

/-- The place in front of a text. -/
def Cursor.front (text : List Char) : Cursor :=
  ⟨0, none, text⟩

/-- What a hit tells of a label stands among its marks. -/
theorem Hit.exists_mem_marks
    {ι : Type} [BEq ι] [LawfulBEq ι] {hit : Hit ι} {label : ι} {said : String}
    (isSaid : hit.mark? label = some said) :
    ∃ part, (label, part) ∈ hit.marks ∧ said = String.ofList part := by
  obtain ⟨part, found, rfl⟩ := Option.map_eq_some_iff.1 isSaid
  obtain ⟨before, after, split, -⟩ := List.lookup_eq_some_iff.1 found
  exact ⟨part, by simp [split], rfl⟩

namespace Pattern

variable {ι : Type}

/-- A pattern is found in a text as a hit tells: behind some text it prefers what the hit reads. -/
def FindsIn (pattern : Pattern ι) (text : List Char) (hit : Hit ι) : Prop :=
  ∃ before rest,
    text = before ++ (hit.text ++ rest) ∧ hit.span = ⟨before.length, hit.text.length⟩ ∧
      pattern.Reads hit.text hit.marks ∧
      pattern.hitAt? ((Cursor.front text).past before (hit.text ++ rest)) = some hit

theorem hitAt?_eq_map_head? (pattern : Pattern ι) (place : Cursor) :
    pattern.hitAt? place =
      (pattern.matchesAt place).head?.map fun found =>
        ⟨⟨place.offset, found.1.offset - place.offset⟩, place.textTo found.1, found.2⟩ := by
  unfold hitAt?
  rw [seek_eq_findSome?]
  cases pattern.matchesAt place <;> rfl

/-- A hit is made of the first match at its place. -/
theorem hitAt?_eq_some_iff
    {pattern : Pattern ι} {place : Cursor} {hit : Hit ι} :
    pattern.hitAt? place = some hit ↔
      ∃ stop marks,
        (pattern.matchesAt place).head? = some (stop, marks) ∧
          hit = ⟨⟨place.offset, stop.offset - place.offset⟩, place.textTo stop, marks⟩ := by
  rw [hitAt?_eq_map_head?, Option.map_eq_some_iff]
  constructor
  · rintro ⟨⟨stop, marks⟩, first, rfl⟩
    exact ⟨stop, marks, first, rfl⟩
  · rintro ⟨stop, marks, first, rfl⟩
    exact ⟨(stop, marks), first, rfl⟩

/-- What a hit at a place covers and tells. -/
theorem reads_of_hitAt?
    {pattern : Pattern ι} {place : Cursor} {hit : Hit ι}
    (found : pattern.hitAt? place = some hit) :
    ∃ rest,
      place.rest = hit.text ++ rest ∧ hit.span = ⟨place.offset, hit.text.length⟩ ∧
        pattern.Reads hit.text hit.marks := by
  obtain ⟨stop, marks, first, rfl⟩ := hitAt?_eq_some_iff.1 found
  obtain ⟨text, rest, split, rfl, reads⟩ :=
    reads_of_mem_matchesAt (List.mem_of_head? first)
  simp only [Cursor.textTo_past split, Cursor.past_offset, Nat.add_sub_cancel_left]
  exact ⟨rest, split, trivial, reads⟩

/-- Each hit from a place on was made at a place further on. -/
theorem exists_place_of_mem_scanFrom
    {pattern : Pattern ι} {hit : Hit ι} {covered : Nat} (place : Cursor)
    (member : hit ∈ pattern.scanFrom covered place.offset place.before place.rest) :
    ∃ passed rest,
      place.rest = passed ++ rest ∧ pattern.hitAt? (place.past passed rest) = some hit := by
  obtain ⟨offset, before, letters⟩ := place
  induction letters generalizing covered offset before with
  | nil => simp [scanFrom] at member
  | cons c letters inductionHypothesis =>
      have later :
          ∀ covered, hit ∈ pattern.scanFrom covered (offset + 1) (some c) letters →
            ∃ passed rest,
              c :: letters = passed ++ rest ∧
                pattern.hitAt? (Cursor.past ⟨offset, before, c :: letters⟩ passed rest) =
                  some hit := by
        intro covered member
        obtain ⟨passed, rest, split, found⟩ := inductionHypothesis _ _ member
        simp only at split
        refine ⟨c :: passed, rest, by simp [split], ?_⟩
        rw [Cursor.past_cons, ← split]
        exact found
      cases covered with
      | succ covered => exact later covered member
      | zero =>
          cases attempt : pattern.hitAt? ⟨offset, before, c :: letters⟩ with
          | none =>
              rw [scanFrom, attempt] at member
              exact later 0 member
          | some first =>
              rw [scanFrom, attempt] at member
              rcases List.mem_cons.1 member with rfl | member
              · exact ⟨[], c :: letters, rfl, attempt⟩
              · exact later _ member

/-- Every hit of a scan is found in the text. -/
theorem findsIn_of_mem_scan
    {pattern : Pattern ι} {text : List Char} {hit : Hit ι}
    (member : hit ∈ pattern.scan text) :
    pattern.FindsIn text hit := by
  obtain ⟨passed, rest, split, found⟩ :=
    exists_place_of_mem_scanFrom (Cursor.front text) member
  obtain ⟨after, restSplit, span, reads⟩ := reads_of_hitAt? found
  rw [Cursor.past_rest] at restSplit
  subst restSplit
  refine ⟨passed, after, split, ?_, reads, found⟩
  simpa [Cursor.front] using span

/-- A hit in front of a text is the first of the scan. -/
theorem scan_eq_cons
    {pattern : Pattern ι} {text : List Char} {hit : Hit ι}
    (nonempty : text ≠ []) (found : pattern.hitAt? (Cursor.front text) = some hit) :
    ∃ later, pattern.scan text = hit :: later := by
  cases text with
  | nil => exact (nonempty rfl).elim
  | cons c text =>
      rw [Cursor.front] at found
      simp only [scan, scanFrom, found]
      exact ⟨_, rfl⟩

namespace FindsIn

variable {pattern : Pattern ι} {text : List Char} {hit : Hit ι}

theorem cut_span (found : pattern.FindsIn text hit) :
    hit.span.cut text = hit.text := by
  obtain ⟨before, rest, rfl, span, -, -⟩ := found
  simp [span, Span.cut]

theorem stop_le_length (found : pattern.FindsIn text hit) :
    hit.span.stop ≤ text.length := by
  obtain ⟨before, rest, rfl, span, -, -⟩ := found
  simp only [span, Span.stop, List.length_append]
  omega

theorem shortest_le_span (found : pattern.FindsIn text hit) :
    pattern.shortest ≤ hit.span.length := by
  obtain ⟨before, rest, -, span, reads, -⟩ := found
  rw [span]
  exact shortest_le_length reads

/-- A marked part of a hit is a stretch of the text. -/
theorem infix_of_mem_marks
    {label : ι} {part : List Char}
    (found : pattern.FindsIn text hit) (member : (label, part) ∈ hit.marks) :
    part <:+: text := by
  obtain ⟨before, rest, rfl, -, reads, -⟩ := found
  have inside : hit.text <:+: before ++ (hit.text ++ rest) :=
    ⟨before, rest, by simp⟩
  exact (Pattern.infix_of_mem_marks reads member).trans inside

end FindsIn

end Pattern

end Tabletop
