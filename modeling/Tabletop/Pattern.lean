import Tabletop.Pattern.CharClass
import Tabletop.Sorting

/-!
Patterns in text. A pattern gives at each place of a text its matches in order of preference. Only
single characters are repeated, so a pattern is matched by recursion on its parts.

`matchesAt` lists all matches; `seek` tries them one after another and stops at the first that what
follows accepts. `seek_eq_findSome?` says that both speak of the same matches.
-/

namespace Tabletop

/-! ## Places -/

/-- A place in a text: the number of characters before it, the last of them, and the text from
there on. -/
structure Cursor where
  offset : Nat := 0
  before : Option Char := none
  rest : List Char
deriving DecidableEq, Repr

namespace Cursor

/-- Whether a word begins or ends at a place. -/
def atWordEdge (place : Cursor) : Bool :=
  place.before.any Text.isWord != place.rest.head?.any Text.isWord

/-- The text from one place to a later one. -/
def textTo (place later : Cursor) : List Char :=
  place.rest.take (later.offset - place.offset)

/-- The places reached by passing over characters of a set, nearest first, given the number of
characters that must be passed over before the first of them. -/
def runs (set : CharClass) : Nat → Nat → Option Char → List Char → List Cursor
  | least, offset, before, [] => if least = 0 then [⟨offset, before, []⟩] else []
  | least, offset, before, c :: rest =>
      let further :=
        if set.holds c then runs set (least - 1) (offset + 1) (some c) rest else []
      if least = 0 then ⟨offset, before, c :: rest⟩ :: further else further

end Cursor

/-! ## Patterns -/

/-- Which of several runs is preferred. -/
inductive Preference where
  | longest
  | shortest
deriving DecidableEq, Repr

/-- A pattern, parts of which may be marked with a label. -/
inductive Pattern (ι : Type) where
  /-- No character at all. -/
  | nothing
  | one (set : CharClass)
  /-- The beginning or the end of a word. -/
  | wordEdge
  /-- At least so many characters of a set. -/
  | many (set : CharClass) (least : Nat) (preference : Preference)
  | andThen (first second : Pattern ι)
  /-- The first pattern, or else the second. -/
  | either (first second : Pattern ι)
  | mark (label : ι) (pattern : Pattern ι)
deriving Repr

/-- The marked parts of a match with their texts. -/
abbrev Marks (ι : Type) := List (ι × List Char)

namespace Pattern

variable {ι β : Type}

/-- All matches at a place, the preferred one first: where each ends, and its marks. -/
def matchesAt : Pattern ι → Cursor → List (Cursor × Marks ι)
  | .nothing, place => [(place, [])]
  | .one set, place =>
      match place.rest with
      | [] => []
      | c :: rest => if set.holds c then [(⟨place.offset + 1, some c, rest⟩, [])] else []
  | .wordEdge, place => if place.atWordEdge then [(place, [])] else []
  | .many set least preference, place =>
      let stops := Cursor.runs set least place.offset place.before place.rest
      match preference with
      | .longest => stops.reverse.map (·, [])
      | .shortest => stops.map (·, [])
  | .andThen first second, place =>
      (first.matchesAt place).flatMap fun (middle, marks) =>
        (second.matchesAt middle).map fun (stop, more) => (stop, marks ++ more)
  | .either first second, place => first.matchesAt place ++ second.matchesAt place
  | .mark label pattern, place =>
      (pattern.matchesAt place).map fun (stop, marks) =>
        (stop, (label, place.textTo stop) :: marks)

/-- The answer of the first match at a place that is accepted. The marks of a match are put together
only when they are asked for. -/
def seek : Pattern ι → Cursor → (Cursor → (Unit → Marks ι) → Option β) → Option β
  | .nothing, place, accept => accept place fun _ => []
  | .one set, place, accept =>
      match place.rest with
      | [] => none
      | c :: rest =>
          if set.holds c then accept ⟨place.offset + 1, some c, rest⟩ fun _ => [] else none
  | .wordEdge, place, accept => if place.atWordEdge then accept place fun _ => [] else none
  | .many set least preference, place, accept =>
      let stops := Cursor.runs set least place.offset place.before place.rest
      match preference with
      | .longest => stops.reverse.findSome? fun stop => accept stop fun _ => []
      | .shortest => stops.findSome? fun stop => accept stop fun _ => []
  | .andThen first second, place, accept =>
      first.seek place fun middle marks =>
        second.seek middle fun stop more => accept stop fun _ => marks () ++ more ()
  | .either first second, place, accept =>
      match first.seek place accept with
      | some answer => some answer
      | none => second.seek place accept
  | .mark label pattern, place, accept =>
      pattern.seek place fun stop marks =>
        accept stop fun _ => (label, place.textTo stop) :: marks ()

/-- Seeking a match is looking through the list of all matches. -/
theorem seek_eq_findSome? (pattern : Pattern ι) (place : Cursor)
    (accept : Cursor → (Unit → Marks ι) → Option β) :
    pattern.seek place accept =
      (pattern.matchesAt place).findSome? fun found => accept found.1 fun _ => found.2 := by
  induction pattern generalizing place accept with
  | nothing => simp [seek, matchesAt]
  | one set =>
      unfold seek matchesAt
      cases place.rest with
      | nil => rfl
      | cons c rest => by_cases held : set.holds c <;> simp [held]
  | wordEdge => by_cases edge : place.atWordEdge <;> simp [seek, matchesAt, edge]
  | many set least preference =>
      cases preference <;>
        simp [seek, matchesAt, -List.map_reverse, List.findSome?_map, Function.comp_def]
  | andThen first second firstStep secondStep =>
      simp only [seek, matchesAt, firstStep, secondStep]
      induction first.matchesAt place with
      | nil => rfl
      | cons found rest restStep =>
          simp only [List.findSome?_cons, List.flatMap_cons, List.findSome?_append, restStep,
            List.findSome?_map, Function.comp_def]
          cases List.findSome? _ (second.matchesAt found.1) <;> rfl
  | either first second firstStep secondStep =>
      simp only [seek, matchesAt, firstStep, secondStep, List.findSome?_append]
      cases List.findSome? _ (first.matchesAt place) <;> rfl
  | mark label pattern patternStep =>
      simp [seek, matchesAt, patternStep, List.findSome?_map, Function.comp_def]

/-! ## Building patterns -/

/-- Patterns one after another. -/
def sequence : List (Pattern ι) → Pattern ι
  | [] => .nothing
  | [pattern] => pattern
  | pattern :: rest => .andThen pattern (sequence rest)

/-- One of several patterns, earlier ones preferred. -/
def oneOf : List (Pattern ι) → Pattern ι
  | [] => .one (.oneOf [])
  | [pattern] => pattern
  | pattern :: rest => .either pattern (oneOf rest)

/-- A pattern that may be left out, which is not preferred. -/
def optional (pattern : Pattern ι) : Pattern ι :=
  .either pattern .nothing

/-- The characters of a text, letters in any case. -/
def chars (text : String) : Pattern ι :=
  sequence (text.toList.map fun c => .one (.like c))

/-- Any white space, as much as there is. -/
def space : Pattern ι := .many .blank 0 .longest

/-- Some white space, as much as there is. -/
def gap : Pattern ι := .many .blank 1 .longest

/-- The words of a text with gaps between them. -/
def phrase (text : String) : Pattern ι :=
  sequence (((Text.words text.toList).map fun word => chars (String.ofList word)).intersperse gap)

/-- Some decimal digits, as many as there are. -/
def digits : Pattern ι := .many .digit 1 .longest

/-- Some letters, as many as there are. -/
def letters : Pattern ι := .many .letter 1 .longest

/-- One of several phrases, the longest ones preferred. -/
def phrases (texts : List String) : Pattern ι :=
  oneOf ((longestFirst texts).map phrase)

end Pattern

end Tabletop
