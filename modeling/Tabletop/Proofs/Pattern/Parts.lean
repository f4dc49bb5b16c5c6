import Tabletop.Proofs.Pattern.Embedding
import Tabletop.Proofs.Span.Parts

/-!
# Texts in two parts

Where a semicolon divides a text, a pattern that asks for no semicolon finds in it what it finds in
the two parts, one after the other.
-/

namespace Tabletop

/-- A hit that is further on in a text. -/
def Hit.later {ι : Type} (places : Nat) (hit : Hit ι) : Hit ι :=
  { hit with span := hit.span.later places }

namespace Embedding

variable {ι : Type}

theorem isWord_semicolon : Text.isWord ';' = false := by
  decide

/-- A text in front of a semicolon and another text. -/
def first (other : List Char) : Embedding where
  behind := ';' :: other
  keeps := fun set => !set.holds ';'
  front_ends := front_ends_nil
  isWord_letter _ := rfl
  behind_ends := isWord_semicolon
  holds_letter _ _ _ := rfl
  behind_stops set kept := by simpa using kept

/-- A text behind another text and a semicolon. -/
def second (one : List Char) : Embedding where
  front := one ++ [';']
  front_ends := by
    rw [List.getLast?_concat]
    exact isWord_semicolon
  isWord_letter _ := rfl
  behind_ends := behind_ends_nil
  holds_letter _ _ _ := rfl
  behind_stops set _ := behind_stops_nil set

theorem place_first (other : List Char) (here : Cursor) :
    (first other).place here = ⟨here.offset, here.before, here.rest ++ ';' :: other⟩ := by
  simp [place, first]

theorem place_second (one : List Char) (here : Cursor) :
    (second one).place here =
      ⟨here.offset + (one.length + 1), here.before.or (some ';'), here.rest⟩ := by
  simp [place, second]

theorem hit_first (other : List Char) : (first other).hit = fun hit : Hit ι => hit := by
  funext hit
  simp [Embedding.hit, marks, first]

theorem hit_second (one : List Char) :
    (second one).hit = fun hit : Hit ι => hit.later (one.length + 1) := by
  funext hit
  simp [Embedding.hit, marks, second, Hit.later, Span.later]

end Embedding

namespace Pattern

variable {ι : Type}

theorem asksOnly_true (pattern : Pattern ι) : pattern.asksOnly (fun _ => true) = true := by
  induction pattern with
  | nothing | one | wordEdge | many => rfl
  | andThen first second firstStep secondStep | either first second firstStep secondStep =>
      exact Bool.and_eq_true_iff.2 ⟨firstStep, secondStep⟩
  | mark label pattern inductionHypothesis => exact inductionHypothesis

/-! ## First characters -/

/-- Whether every text that a pattern reads begins with a character of a set. -/
def opensWith (set : CharClass) : Pattern ι → Bool
  | .one other => other == set
  | .andThen first _ => first.opensWith set
  | .either first second => first.opensWith set && second.opensWith set
  | .mark _ pattern => pattern.opensWith set
  | .nothing | .wordEdge | .many _ _ _ => false

theorem exists_head_of_opensWith
    {pattern : Pattern ι} {set : CharClass} {text : List Char} {marks : Marks ι}
    (opens : pattern.opensWith set = true) (reads : pattern.Reads text marks) :
    ∃ c rest, text = c :: rest ∧ set.holds c = true := by
  induction pattern generalizing text marks with
  | nothing | wordEdge | many => cases opens
  | one other =>
      obtain ⟨c, held, rfl, -⟩ := reads
      exact ⟨c, [], rfl, by rwa [← beq_iff_eq.1 opens]⟩
  | andThen first second firstStep secondStep =>
      obtain ⟨opening, closing, _, _, readsFirst, -, rfl, -⟩ := reads
      obtain ⟨c, rest, rfl, held⟩ := firstStep opens readsFirst
      exact ⟨c, rest ++ closing, rfl, held⟩
  | either first second firstStep secondStep =>
      obtain ⟨firstOpens, secondOpens⟩ := Bool.and_eq_true_iff.1 opens
      rcases reads with reads | reads
      · exact firstStep firstOpens reads
      · exact secondStep secondOpens reads
  | mark label pattern inductionHypothesis =>
      obtain ⟨inner, reads, -⟩ := reads
      exact inductionHypothesis opens reads

theorem hitAt?_eq_none_of_opensWith
    {pattern : Pattern ι} {set : CharClass} {place : Cursor}
    (opens : pattern.opensWith set = true) (other : place.rest.head?.any set.holds = false) :
    pattern.hitAt? place = none := by
  cases found : pattern.hitAt? place with
  | none => rfl
  | some hit =>
      obtain ⟨behind, split, -, reads⟩ := reads_of_hitAt? found
      obtain ⟨c, rest, starts, held⟩ := exists_head_of_opensWith opens reads
      simp [split, starts, held] at other

/-- Where no text is left a pattern that takes some finds nothing. -/
theorem hitAt?_eq_none_of_rest_eq_nil
    {pattern : Pattern ι} {place : Cursor}
    (takes : 0 < pattern.shortest) (ends : place.rest = []) :
    pattern.hitAt? place = none := by
  cases found : pattern.hitAt? place with
  | none => rfl
  | some hit =>
      obtain ⟨behind, split, -, reads⟩ := reads_of_hitAt? found
      rw [ends] at split
      obtain ⟨empty, -⟩ := List.nil_eq_append_iff.1 split
      have long := shortest_le_length reads
      rw [empty, List.length_nil] at long
      omega

/-! ## Scans -/

/-- A pattern stays within a text when a semicolon follows: it asks for no semicolon, or it begins
with a character that the text does not have. -/
def StaysWithin (pattern : Pattern ι) (text : List Char) : Prop :=
  pattern.asksOnly (fun set => !set.holds ';') = true ∨
    ∃ set, pattern.opensWith set = true ∧ ∀ c ∈ ';' :: text, set.holds c = false

theorem StaysWithin.agrees_first
    {pattern : Pattern ι} {one other passed rest : List Char}
    (stays : pattern.StaysWithin one) (split : one = passed ++ rest) :
    (Embedding.first other).Agrees pattern ((Cursor.front one).past passed rest) := by
  rcases stays with asks | ⟨set, opens, absent⟩
  · exact (Embedding.first other).agrees_of_asksOnly asks _
  · -- Such a pattern may reach across the semicolon, but it has nowhere to begin.
    have inText :
        ((Cursor.front one).past passed rest).rest.head?.any set.holds = false := by
      cases rest with
      | nil => rfl
      | cons c rest => exact absent c (by simp [split])
    have inWhole :
        ((Embedding.first other).place
          ((Cursor.front one).past passed rest)).rest.head?.any set.holds = false := by
      cases rest with
      | nil => exact absent ';' (by simp)
      | cons c rest => exact absent c (by simp [split])
    rw [Embedding.Agrees, hitAt?_eq_none_of_opensWith opens inText,
      hitAt?_eq_none_of_opensWith opens inWhole]
    rfl

/-- Scanning a text that a semicolon divides is scanning its two parts. -/
theorem scan_parted
    {pattern : Pattern ι} {one : List Char}
    (takes : 0 < pattern.shortest) (stays : pattern.StaysWithin one) (other : List Char) :
    pattern.scan (one ++ ';' :: other) =
      pattern.scan one ++ (pattern.scan other).map (Hit.later (one.length + 1)) := by
  have ends :
      (Embedding.first other).place ((Cursor.front one).past one []) =
        ⟨one.length, one.getLast?, ';' :: other⟩ := by
    simp [Embedding.place_first, Cursor.past, Cursor.front]
  have throughFirst :=
    (Embedding.first other).scanFrom_place (Nat.zero_le (Cursor.front one).rest.length)
      (fun _ _ split => stays.agrees_first split) ends
  have noneBetween : pattern.hitAt? ⟨one.length, one.getLast?, ';' :: other⟩ = none := by
    have agrees : (Embedding.first other).Agrees pattern ((Cursor.front one).past one []) :=
      stays.agrees_first (List.append_nil one).symm
    rw [Embedding.Agrees, ends, hitAt?_eq_none_of_rest_eq_nil takes (Cursor.past_rest _ _ _)]
      at agrees
    exact agrees
  have throughSecond :=
    (Embedding.second one).scanFrom_place_of_asksOnly pattern.asksOnly_true rfl
      (Cursor.front other)
  simp only [Embedding.place_first, Embedding.hit_first, List.map_id', Cursor.front]
    at throughFirst
  simp only [Embedding.place_second, Embedding.hit_second, Cursor.front, Nat.zero_add,
    Option.none_or] at throughSecond
  calc
    pattern.scan (one ++ ';' :: other) =
        pattern.scan one ++ pattern.scanFrom 0 one.length one.getLast? (';' :: other) :=
      throughFirst
    _ = pattern.scan one ++ pattern.scanFrom 0 (one.length + 1) (some ';') other := by
      rw [scanFrom, noneBetween]
    _ = pattern.scan one ++ (pattern.scan other).map (Hit.later (one.length + 1)) :=
      congrArg (pattern.scan one ++ ·) throughSecond

end Pattern

end Tabletop
