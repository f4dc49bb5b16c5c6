import Tabletop.Command
import Tabletop.Proofs.Dice.Notation

/-!
# The grammar of dice notation

The texts in dice notation are those that proper parts make, with white space around them and with
some dice and some sides among the parts. These texts are read, with the numbers of their parts; all
other texts, and all values that are no texts, are refused.
-/

namespace Tabletop

open Numeral Text

namespace Dice

variable {text rest : List Char}

/-! ## Parts that are found -/

theorem eq_append_of_digitRun?
    {digits : List Char} (found : digitRun? text = some (digits, rest)) :
    IsRun digits ∧ text = digits ++ rest := by
  rw [digitRun?] at found
  by_cases empty : (text.takeWhile isDigit).isEmpty = true
  · rw [if_pos empty] at found
    cases found
  · rw [if_neg empty] at found
    cases found
    constructor
    · constructor
      · intro isEmpty
        apply empty
        rw [isEmpty]
        rfl
      · intro c member
        exact List.all_eq_true.1 List.all_takeWhile c member
    · exact List.takeWhile_append_dropWhile.symm

theorem eq_modifierText_of_modifierPart?
    {modifier : Option (Bool × List Char)} (found : modifierPart? text = some modifier) :
    (∀ run ∈ (modifier.map Prod.snd).toList, IsRun run) ∧ text = Parts.modifierText modifier := by
  cases text with
  | nil =>
      cases found
      exact ⟨by simp, rfl⟩
  | cons sign rest =>
      rw [modifierPart?] at found
      by_cases signed : (sign = '+' || sign = '-') = true
      · rw [if_pos signed] at found
        split at found
        · rename_i digits onlyDigits
          cases found
          have split := eq_append_of_digitRun? onlyDigits
          rw [List.append_nil] at split
          have isSign : sign = '+' ∨ sign = '-' := by simpa using signed
          constructor
          · simpa using split.1
          · rw [split.2]
            rcases isSign with rfl | rfl <;> rfl
        · cases found
      · rw [if_neg signed] at found
        cases found

/-- The parts that are found in a text are those that make it. -/
theorem parts?_eq_some_iff {parts : Parts} :
    parts? text = some parts ↔ parts.Proper ∧ text = parts.text := by
  constructor
  · intro found
    simp only [parts?, Option.bind_eq_bind, Option.bind_eq_some_iff] at found
    obtain ⟨⟨count, afterCount⟩, countFound, found⟩ := found
    have countSplit := eq_append_of_digitRun? countFound
    split at found
    · rename_i afterMark marked
      have markSplit : afterCount = 'd' :: afterMark := marked
      simp only [Option.bind_eq_some_iff] at found
      obtain ⟨⟨sides, afterSides⟩, sidesFound, modifier, modifierFound, made⟩ := found
      have sidesSplit := eq_append_of_digitRun? sidesFound
      have modifierSplit := eq_modifierText_of_modifierPart? modifierFound
      cases made
      constructor
      · intro run member
        rcases List.mem_cons.1 member with rfl | member
        · exact countSplit.1
        · rcases List.mem_cons.1 member with rfl | member
          · exact sidesSplit.1
          · exact modifierSplit.1 run member
      · have restSplit : afterSides = Parts.modifierText modifier := modifierSplit.2
        rw [countSplit.2, markSplit, sidesSplit.2, restSplit]
        rfl
    · cases found
  · rintro ⟨proper, rfl⟩
    exact parts?_text proper

/-- A text that makes parts, with white space around it. -/
def Holds (text : String) (parts : Parts) : Prop :=
  ∃ opening closing,
    text.toList = opening ++ (parts.text ++ closing) ∧
      (∀ c ∈ opening, isBlank c = true) ∧ ∀ c ∈ closing, isBlank c = true

/-- The dice whose numbers the parts of a text are. -/
structure HasParts (dice : Dice) (parts : Parts) : Prop where
  count : dice.count = value parts.count
  sides : dice.sides = value parts.sides
  modifier : dice.modifier = Parts.modifierValue parts.modifier

/-- No run of digits of a text is too long to be read. -/
def ShortRuns (text : String) : Prop :=
  ∀ run, run <:+: text.toList → (∀ c ∈ run, isDigit c = true) → run.length ≤ digitLimit

variable {given : String} {parts : Parts}

end Dice

/-! ## Values that are no texts -/

namespace Datum

mutual

/-- The integers in a value. -/
def wholes : Datum → List Int
  | .whole value => [value]
  | .list items => itemWholes items
  | .table entries => entryWholes entries
  | _ => []

/-- The integers in the items of a list. -/
def itemWholes : List Datum → List Int
  | [] => []
  | item :: rest => item.wholes ++ itemWholes rest

/-- The integers in the entries of a table. -/
def entryWholes : List (String × Datum) → List Int
  | [] => []
  | (_, value) :: rest => value.wholes ++ entryWholes rest

end

mutual

/-- A value is shown unless an integer in it is too long to be written. -/
theorem isSome_shown? : (given : Datum) → given.shown?.isSome = given.wholes.all isWritable
  | .null => rfl
  | .flag true => rfl
  | .flag false => rfl
  | .whole value => by
      rw [shown?, wholes, List.all_cons, List.all_nil, Bool.and_true]
      cases isWritable value <;> rfl
  | .real value => rfl
  | .text value => rfl
  | .moment => rfl
  | .list items => by
      rw [shown?, wholes, Option.isSome_map]
      exact isSome_shownItems? items
  | .table entries => by
      rw [shown?, wholes, Option.isSome_map]
      exact isSome_shownEntries? entries

theorem isSome_shownItems? :
    (items : List Datum) → (shownItems? items).isSome = (itemWholes items).all isWritable
  | [] => rfl
  | item :: rest => by
      have itemShown := isSome_shown? item
      have restShown := isSome_shownItems? rest
      rw [itemWholes, List.all_append, ← itemShown, ← restShown, shownItems?]
      cases item.shown? <;> cases shownItems? rest <;> rfl

theorem isSome_shownEntries? :
    (entries : List (String × Datum)) →
      (shownEntries? entries).isSome = (entryWholes entries).all isWritable
  | [] => rfl
  | (key, value) :: rest => by
      have valueShown := isSome_shown? value
      have restShown := isSome_shownEntries? rest
      rw [entryWholes, List.all_append, ← valueShown, ← restShown, shownEntries?]
      cases value.shown? <;> cases shownEntries? rest <;> rfl

end

end Datum

namespace Dice

end Dice

end Tabletop
