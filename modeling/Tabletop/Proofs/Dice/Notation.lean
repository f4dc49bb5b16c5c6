import Tabletop.Dice.Notation
import Tabletop.Proofs.Text.Blank

/-!
# Dice notation and its parts

Parts made of runs of digits are read back from the text that they make, and numbers that are short
enough make dice unless there are no dice or no sides.
-/

namespace Tabletop

namespace Dice

open Numeral Text

/-! ## Parts -/

namespace Parts

/-- The text of a modifier. -/
def modifierText : Option (Bool × List Char) → List Char
  | none => []
  | some (negative, digits) => (if negative then '-' else '+') :: digits

/-- The text that parts make. -/
def text (parts : Parts) : List Char :=
  parts.count ++ 'd' :: (parts.sides ++ modifierText parts.modifier)

/-- The runs of digits among the parts. -/
def runs (parts : Parts) : List (List Char) :=
  parts.count :: parts.sides :: (parts.modifier.map Prod.snd).toList

/-- Parts whose numbers are runs of digits. -/
def Proper (parts : Parts) : Prop :=
  ∀ run ∈ parts.runs, IsRun run

end Parts

theorem digitRun?_append
    {digits rest : List Char} (run : IsRun digits)
    (ends : ∀ c ∈ rest.head?, isDigit c = false) :
    digitRun? (digits ++ rest) = some (digits, rest) := by
  have restStops : rest.takeWhile isDigit = [] ∧ rest.dropWhile isDigit = rest := by
    cases rest with
    | nil => exact ⟨rfl, rfl⟩
    | cons c rest =>
        have stops : isDigit c = false := ends c (by simp)
        simp [stops]
  have taken : (digits ++ rest).takeWhile isDigit = digits := by
    rw [List.takeWhile_append_of_pos run.all, restStops.1, List.append_nil]
  have dropped : (digits ++ rest).dropWhile isDigit = rest := by
    rw [List.dropWhile_append_of_pos run.all, restStops.2]
  have nonempty : digits.isEmpty = false := by
    simpa using run.nonempty
  rw [digitRun?, taken, dropped, nonempty]
  rfl

theorem modifierPart?_modifierText
    {modifier : Option (Bool × List Char)}
    (proper : ∀ run ∈ (modifier.map Prod.snd).toList, IsRun run) :
    modifierPart? (Parts.modifierText modifier) = some modifier := by
  cases modifier with
  | none => rfl
  | some signed =>
      obtain ⟨negative, digits⟩ := signed
      have found : digitRun? digits = some (digits, []) := by
        have run : IsRun digits := proper digits (by simp)
        have noRest : ∀ c ∈ ([] : List Char).head?, isDigit c = false := by simp
        simpa using digitRun?_append run noRest
      cases negative <;>
        simp [Parts.modifierText, modifierPart?, found]

theorem head_modifierText_not_digit (modifier : Option (Bool × List Char)) :
    ∀ c ∈ (Parts.modifierText modifier).head?, isDigit c = false := by
  cases modifier with
  | none => simp [Parts.modifierText]
  | some signed =>
      obtain ⟨negative, digits⟩ := signed
      cases negative
      · simp only [Parts.modifierText, List.head?_cons, Option.mem_def, Option.some.injEq]
        rintro c rfl
        decide
      · simp only [Parts.modifierText, List.head?_cons, Option.mem_def, Option.some.injEq]
        rintro c rfl
        decide

/-- Parts are read back from the text that they make. -/
theorem parts?_text {parts : Parts} (proper : parts.Proper) :
    parts? parts.text = some parts := by
  obtain ⟨count, sides, modifier⟩ := parts
  have countRun : IsRun count := proper count (by simp [Parts.runs])
  have sidesRun : IsRun sides := proper sides (by simp [Parts.runs])
  have modifierRun : ∀ run ∈ (modifier.map Prod.snd).toList, IsRun run :=
    fun run member => proper run (List.mem_cons_of_mem _ (List.mem_cons_of_mem _ member))
  have countFound :
      digitRun? (Parts.text ⟨count, sides, modifier⟩) =
        some (count, 'd' :: (sides ++ Parts.modifierText modifier)) := by
    refine digitRun?_append countRun ?_
    simp only [List.head?_cons, Option.mem_def, Option.some.injEq]
    rintro c rfl
    decide
  have sidesFound :
      digitRun? (sides ++ Parts.modifierText modifier) =
        some (sides, Parts.modifierText modifier) :=
    digitRun?_append sidesRun (head_modifierText_not_digit modifier)
  simp [parts?, countFound, sidesFound, modifierPart?_modifierText modifierRun]

/-! ## Reading back -/

namespace Parts

variable {parts : Parts}

/-- Parts make a text of digits, the mark and signs. -/
theorem Proper.cases_of_mem_text (proper : parts.Proper) {c : Char} (member : c ∈ parts.text) :
    isDigit c = true ∨ c = 'd' ∨ c = '+' ∨ c = '-' := by
  have digitRun : ∀ run ∈ parts.runs, ∀ c ∈ run, isDigit c = true :=
    fun run isRun c inRun => (proper run isRun).all c inRun
  obtain ⟨count, sides, modifier⟩ := parts
  simp only [text, List.mem_append, List.mem_cons] at member
  rcases member with inCount | rfl | inSides | inModifier
  · exact Or.inl (digitRun count (by simp [runs]) c inCount)
  · exact Or.inr (Or.inl rfl)
  · exact Or.inl (digitRun sides (by simp [runs]) c inSides)
  · cases modifier with
    | none => simp [modifierText] at inModifier
    | some signed =>
        obtain ⟨negative, digits⟩ := signed
        rcases List.mem_cons.1 inModifier with rfl | inDigits
        · cases negative <;> simp
        · exact Or.inl (digitRun digits (by simp [runs]) c inDigits)

theorem Proper.solid_text (proper : parts.Proper) :
    ∀ c ∈ parts.text, isBlank c = false := by
  intro c member
  rcases proper.cases_of_mem_text member with digit | rfl | rfl | rfl
  · exact isBlank_of_isDigit digit
  all_goals decide

/-- The number that a modifier adds. -/
def modifierValue : Option (Bool × List Char) → Int
  | none => 0
  | some (negative, digits) => signed negative (value digits)

end Parts

theorem parse_text {parts : Parts} (proper : parts.Proper) :
    parse (String.ofList parts.text) = ofParts parts := by
  rw [parse, String.toList_ofList, trim_eq_self proper.solid_text, parts?_text proper]

theorem ofParts_eq_ofInts
    {parts : Parts} (short : ∀ run ∈ parts.runs, run.length ≤ digitLimit) :
    ofParts parts =
      ofInts (value parts.count) (value parts.sides) (Parts.modifierValue parts.modifier) := by
  obtain ⟨count, sides, modifier⟩ := parts
  have countRead := readNat_eq_ok (short count (by simp [Parts.runs]))
  have sidesRead := readNat_eq_ok (short sides (by simp [Parts.runs]))
  cases modifier with
  | none =>
      simp only [ofParts, countRead, sidesRead]
      rfl
  | some modifier =>
      obtain ⟨negative, digits⟩ := modifier
      have digitsRead := readNat_eq_ok (short digits (by simp [Parts.runs]))
      simp only [ofParts, countRead, sidesRead, digitsRead]
      rfl

/-- Dice all of whose numbers can be written. -/
structure Writable (dice : Dice) : Prop where
  count : isWritable dice.count = true
  sides : isWritable dice.sides = true
  modifier : isWritable dice.modifier = true

theorem Writable.written_eq {dice : Dice} (writable : dice.Writable) :
    dice.written = .ok dice.spelled := by
  rw [written, writable.count, writable.sides, writable.modifier]
  rfl

theorem isWritable_modifierValue
    {modifier : Option (Bool × List Char)}
    (short : ∀ run ∈ (modifier.map Prod.snd).toList, run.length ≤ digitLimit) :
    isWritable (Parts.modifierValue modifier) = true := by
  cases modifier with
  | none =>
      rw [isWritable_iff]
      exact Nat.pow_pos (by decide)
  | some signed =>
      obtain ⟨negative, digits⟩ := signed
      have plain := isWritable_value (short digits (by simp))
      rw [isWritable_iff] at plain ⊢
      cases negative
      · exact plain
      · simpa [Parts.modifierValue, Numeral.signed] using plain

/-- Short parts make dice, unless there are none or they have no sides. -/
theorem parse_text_cases
    {parts : Parts} (proper : parts.Proper)
    (short : ∀ run ∈ parts.runs, run.length ≤ digitLimit) :
    (∃ dice, parse (String.ofList parts.text) = .ok dice ∧ dice.Writable) ∨
      ∃ count sides,
        parse (String.ofList parts.text) = .error (.nonPositiveDice count sides) ∧
          (count = 0 ∨ sides = 0) := by
  rw [parse_text proper, ofParts_eq_ofInts short]
  have countShort := isWritable_value (short parts.count (by simp [Parts.runs]))
  have sidesShort := isWritable_value (short parts.sides (by simp [Parts.runs]))
  have modifierShort : isWritable (Parts.modifierValue parts.modifier) = true :=
    isWritable_modifierValue fun run member =>
      short run (List.mem_cons_of_mem _ (List.mem_cons_of_mem _ member))
  by_cases positive : 0 < (value parts.count : Int) ∧ 0 < (value parts.sides : Int)
  · left
    rw [ofInts, dif_pos positive]
    exact ⟨_, rfl, by simpa using countShort, by simpa using sidesShort, modifierShort⟩
  · right
    rw [ofInts, dif_neg positive, countShort, sidesShort]
    exact ⟨_, _, rfl, by omega⟩

end Dice

end Tabletop
