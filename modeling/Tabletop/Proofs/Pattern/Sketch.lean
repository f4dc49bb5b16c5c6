import Tabletop.Proofs.Outline
import Tabletop.Proofs.Pattern.Hits
import Tabletop.Proofs.Text.Word

/-!
# Matching an outline

A pattern is matched against an outline in place of a text. What comes out are guesses at the
matches in any text that writes the outline: of some matches it is sure where they end and what they
mark, of others it only tells where they might end.
-/

namespace Tabletop

open Numeral Text

/-! ## Sets of characters -/

namespace Token

/-- Whether a set holds a small letter and its capital, if it is the same for both. -/
def letterInSet? (c : Char) : CharClass → Option Bool
  | .like d => some (c == d)
  | .letter => some true
  | .digit | .blank | .dash => some false
  | .oneOf _ => none
  | .except d => if d.toLower = c then none else some true

/-- Whether a set holds white space, if it is the same for all of it. -/
def blankInSet? : CharClass → Option Bool
  | .like d => if isBlank d then none else some false
  | .letter | .digit => some false
  | .blank | .dash => some true
  | .oneOf _ => none
  | .except d => if isBlank d then none else some true

/-- Whether a set holds digits, if it is the same for all of them. -/
def digitInSet? : CharClass → Option Bool
  | .like d => if isDigit d then none else some false
  | .letter | .blank | .dash => some false
  | .digit => some true
  | .oneOf _ => none
  | .except d => if isDigit d then none else some true

/-- Whether a set holds the characters of a token, if it is the same for all of them. -/
def inSet? (set : CharClass) : Token → Option Bool
  | .letter c => if c.isLower then letterInSet? c set else none
  | .sign c => some (set.holds c)
  | .gap => blankInSet? set
  | .numeral _ | .figures => digitInSet? set

/-- Whether the characters of a token belong to words, if it is the same for all of them. -/
def inWord? : Token → Option Bool
  | .letter c => if c.isLower then some true else none
  | .sign c => some (isWord c)
  | .gap => some false
  | .numeral _ | .figures => some true

/-- What is known of the characters that are some small letter in either case. -/
theorem letter_facts {x : Char} (small : x.toLower.isLower = true) :
    fold x = x.toLower ∧ isDigit x = false ∧ isBlank x = false ∧ x ≠ '-' ∧ isWord x = true := by
  have plain : x.toNat < 128 := plain_of_isLower_toLower small
  have facts :
      (!x.toLower.isLower ||
        (fold x == x.toLower && !isDigit x && !isBlank x && x != '-' && isWord x)) = true :=
    of_plain
      (fun x => !x.toLower.isLower ||
        (fold x == x.toLower && !isDigit x && !isBlank x && x != '-' && isWord x))
      plain (by decide)
  simpa [small, and_assoc] using facts

theorem blank_facts {x : Char} (blank : isBlank x = true) :
    fold x = x ∧ x.isLower = false ∧ isDigit x = false ∧ isWord x = false := by
  have facts : (fold x == x && !x.isLower && !isDigit x && !isWord x) = true :=
    of_isBlank (fun x => fold x == x && !x.isLower && !isDigit x && !isWord x) blank
      (by decide +kernel)
  simpa [and_assoc] using facts

theorem digit_facts {x : Char} (digit : isDigit x = true) :
    fold x = x ∧ x.isLower = false ∧ isBlank x = false ∧ x ≠ '-' := by
  have facts : (fold x == x && !x.isLower && !isBlank x && x != '-') = true :=
    of_isDigit (fun x => fold x == x && !x.isLower && !isBlank x && x != '-') digit
      (by decide)
  simpa [and_assoc] using facts

theorem letterInSet?_sound
    {set : CharClass} {answer : Bool} {x : Char} (small : x.toLower.isLower = true)
    (known : letterInSet? x.toLower set = some answer) :
    set.holds x = answer := by
  obtain ⟨folded, notDigit, notBlank, notDash, -⟩ := letter_facts small
  cases set with
  | like d =>
      rw [← Option.some.inj known, CharClass.holds, folded]
  | letter =>
      rw [← Option.some.inj known, CharClass.holds, folded, small]
  | digit =>
      rw [← Option.some.inj known, CharClass.holds, notDigit]
  | blank =>
      rw [← Option.some.inj known, CharClass.holds, notBlank]
  | dash =>
      rw [← Option.some.inj known, CharClass.holds, notBlank, beq_eq_false_iff_ne.2 notDash]
      rfl
  | oneOf cs => cases known
  | except d =>
      rw [letterInSet?, Option.ite_none_left_eq_some, Option.some.injEq] at known
      obtain ⟨otherLetter, rfl⟩ := known
      rw [CharClass.holds, bne_iff_ne]
      rintro rfl
      exact otherLetter rfl

theorem blankInSet?_sound
    {set : CharClass} {answer : Bool} {x : Char} (blank : isBlank x = true)
    (known : blankInSet? set = some answer) :
    set.holds x = answer := by
  obtain ⟨folded, notLetter, notDigit, -⟩ := blank_facts blank
  cases set with
  | like d =>
      rw [blankInSet?, Option.ite_none_left_eq_some, Option.some.injEq] at known
      obtain ⟨notBlank, rfl⟩ := known
      rw [CharClass.holds, folded, beq_eq_false_iff_ne]
      rintro rfl
      exact notBlank blank
  | letter =>
      rw [← Option.some.inj known, CharClass.holds, folded, notLetter]
  | digit =>
      rw [← Option.some.inj known, CharClass.holds, notDigit]
  | blank =>
      rw [← Option.some.inj known, CharClass.holds, blank]
  | dash =>
      rw [← Option.some.inj known, CharClass.holds, blank]
      rfl
  | oneOf cs => cases known
  | except d =>
      rw [blankInSet?, Option.ite_none_left_eq_some, Option.some.injEq] at known
      obtain ⟨notBlank, rfl⟩ := known
      rw [CharClass.holds, bne_iff_ne]
      rintro rfl
      exact notBlank blank

theorem digitInSet?_sound
    {set : CharClass} {answer : Bool} {x : Char} (digit : isDigit x = true)
    (known : digitInSet? set = some answer) :
    set.holds x = answer := by
  obtain ⟨folded, notLetter, notBlank, notDash⟩ := digit_facts digit
  cases set with
  | like d =>
      rw [digitInSet?, Option.ite_none_left_eq_some, Option.some.injEq] at known
      obtain ⟨notDigit, rfl⟩ := known
      rw [CharClass.holds, folded, beq_eq_false_iff_ne]
      rintro rfl
      exact notDigit digit
  | letter =>
      rw [← Option.some.inj known, CharClass.holds, folded, notLetter]
  | digit =>
      rw [← Option.some.inj known, CharClass.holds, digit]
  | blank =>
      rw [← Option.some.inj known, CharClass.holds, notBlank]
  | dash =>
      rw [← Option.some.inj known, CharClass.holds, notBlank, beq_eq_false_iff_ne.2 notDash]
      rfl
  | oneOf cs => cases known
  | except d =>
      rw [digitInSet?, Option.ite_none_left_eq_some, Option.some.injEq] at known
      obtain ⟨notDigit, rfl⟩ := known
      rw [CharClass.holds, bne_iff_ne]
      rintro rfl
      exact notDigit digit

theorem inSet?_sound
    {token : Token} {set : CharClass} {answer : Bool} {x : Char}
    (known : token.inSet? set = some answer) (held : token.Holds x) :
    set.holds x = answer := by
  cases token with
  | letter c =>
      obtain rfl : x.toLower = c := held
      rw [inSet?, Option.ite_none_right_eq_some] at known
      exact letterInSet?_sound known.1 known.2
  | sign c =>
      obtain rfl : x = c := held
      exact Option.some.inj known
  | gap => exact blankInSet?_sound held known
  | numeral index | figures => exact digitInSet?_sound held known

theorem inWord?_sound
    {token : Token} {answer : Bool} {x : Char}
    (known : token.inWord? = some answer) (held : token.Holds x) :
    isWord x = answer := by
  cases token with
  | letter c =>
      obtain rfl : x.toLower = c := held
      simp only [inWord?, Option.ite_none_right_eq_some, Option.some.injEq] at known
      obtain ⟨small, rfl⟩ := known
      exact (letter_facts small).2.2.2.2
  | sign c =>
      obtain rfl : x = c := held
      exact Option.some.inj known
  | gap =>
      obtain rfl := Option.some.inj known
      exact (blank_facts held).2.2.2
  | numeral index | figures =>
      obtain rfl := Option.some.inj known
      exact isWord_of_isDigit held

end Token

/-! ## Guesses -/

/-- A place in a text that writes an outline, as far as it is known. -/
inductive Spot where
  /-- Behind a token, if there is one, and in front of the rest. -/
  | front (before : Option Token) (rest : Outline)
  | anywhere
deriving DecidableEq, Repr

/-- A guess at matches. -/
inductive Guess (ι : Type) where
  /-- One match, of which is known what it takes, what it leaves and what it marks. -/
  | sure (taken rest : Outline) (marks : List (ι × Outline))
  /-- Any number of matches that end at one of these spots. -/
  | maybe (spots : List Spot)
deriving DecidableEq, Repr

namespace Guess

variable {ι : Type}

/-- The spots at which the matches end, given the token in front of which they begin. -/
def spots (before : Option Token) : Guess ι → List Spot
  | .sure taken rest _ => [.front (taken.getLast?.or before) rest]
  | .maybe spots => spots

/-- A guess at what follows, seen from further back. -/
def behind (taken : Outline) (marks : List (ι × Outline)) : Guess ι → Guess ι
  | .sure more rest moreMarks => .sure (taken ++ more) rest (marks ++ moreMarks)
  | .maybe spots => .maybe spots

theorem behind_behind (opening more : Outline) (guess : Guess ι) :
    (guess.behind more []).behind opening [] = guess.behind (opening ++ more) [] := by
  cases guess with
  | sure taken rest marks =>
      rw [behind, behind, behind, List.append_assoc, List.nil_append]
  | maybe spots => rfl

/-- Marks what is taken. -/
def marked (label : ι) : Guess ι → Guess ι
  | .sure taken rest marks => .sure taken rest ((label, taken) :: marks)
  | .maybe spots => .maybe spots

/-- The guess that matches end at one of these spots, if there are any. -/
def unsure (spots : List Spot) : List (Guess ι) :=
  if spots.isEmpty then [] else [.maybe spots]

/-- Guesses at what ends a match, given how to guess on. -/
def andThen (next : Option Token → Outline → List (Guess ι)) (before : Option Token) :
    Guess ι → List (Guess ι)
  | .sure taken rest marks => (next (taken.getLast?.or before) rest).map (behind taken marks)
  | .maybe spots =>
      unsure (spots.flatMap fun spot =>
        match spot with
        | .front before rest => (next before rest).flatMap (Guess.spots before)
        | .anywhere => [.anywhere])

end Guess

/-! ## Sketches -/

/-- Runs in order of preference, given those that stop nearest first. -/
def Preference.order {α : Type} (preference : Preference) (stops : List α) : List α :=
  match preference with
  | .longest => stops.reverse
  | .shortest => stops

namespace Pattern

variable {ι : Type}

/-- Where a run of characters of a set may stop, nearest first. -/
def sweep (set : CharClass) : Outline → List (Guess ι)
  | [] => [.sure [] [] []]
  | token :: rest =>
      .sure [] (token :: rest) [] ::
        match token.inSet? set with
        | none => [.maybe [.anywhere]]
        | some false => []
        | some true =>
            Guess.unsure (token.inner?.toList.map fun inner => .front (some token) (inner :: rest))
              ++ (sweep set rest).map (Guess.behind [token] [])

/-- Whether a word begins or ends between a token and an outline, if that is known. -/
def edge? (before : Option Token) (outline : Outline) : Option Bool := do
  let left ← before.elim (some false) Token.inWord?
  let right ← outline.head?.elim (some false) Token.inWord?
  pure (left != right)

/-- Guesses at the matches of a pattern behind a token and in front of an outline, the preferred one
first. -/
def sketch : Pattern ι → Option Token → Outline → List (Guess ι)
  | .nothing, _, outline => [.sure [] outline []]
  | .one set, _, outline =>
      match outline with
      | [] => []
      | token :: rest =>
          match token.inSet? set, token.inner? with
          | some false, _ => []
          | some true, none => [.sure [token] rest []]
          | _, _ => [.maybe [.anywhere]]
  | .wordEdge, before, outline =>
      match edge? before outline with
      | none => [.maybe [.anywhere]]
      | some false => []
      | some true => [.sure [] outline []]
  | .many set least preference, _, outline =>
      match least with
      | 0 => preference.order (sweep set outline)
      | 1 => preference.order (sweep set outline).tail
      | _ => [.maybe [.anywhere]]
  | .andThen first second, before, outline =>
      (first.sketch before outline).flatMap (Guess.andThen second.sketch before)
  | .either first second, before, outline =>
      first.sketch before outline ++ second.sketch before outline
  | .mark label pattern, before, outline => (pattern.sketch before outline).map (Guess.marked label)

/-! ## Runs that stop early -/

/-- Whether a run of a set goes through a first outline in front of a second, while nothing that
follows the run can match in front of a token of the first or inside of it. -/
def passesOver (set : CharClass) (next : Pattern ι) : Option Token → Outline → Outline → Bool
  | _, [], _ => true
  | before, token :: rest, ahead =>
      token.inSet? set == some true &&
        (next.sketch before (token :: (rest ++ ahead))).isEmpty &&
        (token.inner?.all fun inner =>
          (next.sketch (some token) (inner :: (rest ++ ahead))).isEmpty) &&
        passesOver set next (some token) rest ahead

section

variable {set : CharClass} {next : Pattern ι} {before : Option Token}
  {body ahead taken rest : Outline} {marks : List (ι × Outline)} {others : List (Guess ι)}

theorem exists_sweep_eq_cons (set : CharClass) (outline : Outline) :
    ∃ later, (sweep set outline : List (Guess ι)) = .sure [] outline [] :: later := by
  cases outline with
  | nil => exact ⟨[], rfl⟩
  | cons token rest => exact ⟨_, rfl⟩

/-- What is guessed behind the stops of a run that has come some way already. -/
theorem exists_flatMap_sweep_eq_cons
    {opening : Outline} (label : ι)
    (passed : passesOver set next (opening.getLast?.or before) body ahead = true)
    (found :
      next.sketch (body.getLast?.or (opening.getLast?.or before)) ahead =
        .sure taken rest marks :: others) :
    ∃ more,
      (sweep set (body ++ ahead)).flatMap
          (fun guess => ((guess.behind opening []).marked label).andThen next.sketch before) =
        .sure (opening ++ body ++ taken) rest ((label, opening ++ body) :: marks) :: more := by
  induction body generalizing opening with
  | nil =>
      obtain ⟨later, swept⟩ := exists_sweep_eq_cons (ι := ι) set ahead
      simp only [List.getLast?_nil, Option.none_or] at found
      rw [List.nil_append, swept, List.flatMap_cons]
      simp only [Guess.behind, Guess.marked, Guess.andThen, List.append_nil, found, List.map_cons,
        List.cons_append, List.nil_append]
      exact ⟨_, rfl⟩
  | cons token body inductionHypothesis =>
      simp only [passesOver, Bool.and_eq_true, beq_iff_eq, List.isEmpty_iff] at passed
      obtain ⟨⟨⟨held, noneHere⟩, noneInside⟩, passedRest⟩ := passed
      have last : (opening ++ [token]).getLast?.or before = some token := by simp
      rw [← last] at passedRest
      have foundRest :
          next.sketch (body.getLast?.or ((opening ++ [token]).getLast?.or before)) ahead =
            .sure taken rest marks :: others := by
        rw [← found, last, List.getLast?_cons]
        cases body.getLast? <;> rfl
      obtain ⟨more, later⟩ := inductionHypothesis passedRest foundRest
      rw [List.append_assoc opening [token] body] at later
      refine ⟨more, ?_⟩
      -- neither at once nor inside of the token is there a match
      have inside :
          (Guess.unsure (ι := ι) (token.inner?.toList.map fun inner =>
            .front (some token) (inner :: (body ++ ahead)))).flatMap
              (fun guess => ((guess.behind opening []).marked label).andThen next.sketch before) =
            [] := by
        cases isInner : token.inner? with
        | none => rfl
        | some inner =>
            rw [isInner, Option.all_some, List.isEmpty_iff] at noneInside
            simp [Guess.unsure, Guess.behind, Guess.marked, Guess.andThen, noneInside]
      have atOnce :
          (((Guess.sure [] (token :: (body ++ ahead)) []).behind opening []).marked label).andThen
              next.sketch before = [] := by
        simp [Guess.behind, Guess.marked, Guess.andThen, noneHere]
      rw [List.cons_append, sweep, held, List.flatMap_cons, List.flatMap_append, atOnce, inside,
        List.nil_append, List.nil_append, List.flatMap_map]
      simp only [Guess.behind_behind]
      exact later

/-- A run that stops as early as it can goes on up to where there first is a match of what
follows. -/
theorem exists_sketch_shortest
    (label : ι) (passed : passesOver set next before body ahead = true)
    (found :
      next.sketch (body.getLast?.or before) ahead = .sure taken rest marks :: others) :
    ∃ more,
      (Pattern.andThen (.mark label (.many set 0 .shortest)) next).sketch before (body ++ ahead) =
        .sure (body ++ taken) rest ((label, body) :: marks) :: more := by
  have stops (guess : Guess ι) : guess.behind [] [] = guess := by
    cases guess <;> rfl
  have start :
      passesOver set next (([] : Outline).getLast?.or before) body ahead = true := passed
  obtain ⟨more, sketched⟩ := exists_flatMap_sweep_eq_cons label start found
  simp only [stops, List.nil_append] at sketched
  rw [sketch, sketch, sketch, List.flatMap_map]
  exact ⟨more, sketched⟩

end

end Pattern

end Tabletop
