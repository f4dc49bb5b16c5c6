import Tabletop.Proofs.Dice.Grammar
import Tabletop.Proofs.Results
import Tabletop.Proofs.Text.Written

/-!
# The written form of dice

Dice are written in the notation that is read as these dice, and what is read as dice can be
written. So each text in dice notation has one written form, which stands for the same dice and
is its own written form.
-/

namespace Tabletop.Dice

open Numeral Text

variable {dice : Dice}

/-! ## The parts of the written form -/

/-- The parts of which the notation of an expression is made: no modifier if it is nought. -/
def parts (dice : Dice) : Parts where
  count := Nat.toDigits 10 dice.count
  sides := Nat.toDigits 10 dice.sides
  modifier :=
    if dice.modifier = 0 then none
    else some (decide (dice.modifier < 0), Nat.toDigits 10 dice.modifier.natAbs)

theorem exists_of_mem_runs_parts {run : List Char} (member : run ∈ dice.parts.runs) :
    ∃ n ∈ [dice.count, dice.sides, dice.modifier.natAbs], run = Nat.toDigits 10 n := by
  have listed : run ∈ [dice.count, dice.sides, dice.modifier.natAbs].map (Nat.toDigits 10) := by
    by_cases zero : dice.modifier = 0
    · have runs : dice.parts.runs = [dice.count, dice.sides].map (Nat.toDigits 10) := by
        simp [Parts.runs, parts, zero]
      rw [runs] at member
      exact List.map_subset _ (by simp) member
    · have runs :
          dice.parts.runs =
            [dice.count, dice.sides, dice.modifier.natAbs].map (Nat.toDigits 10) := by
        simp [Parts.runs, parts, zero]
      rwa [runs] at member
  obtain ⟨n, isNumber, rfl⟩ := List.mem_map.1 listed
  exact ⟨n, isNumber, rfl⟩

theorem proper_parts (dice : Dice) : dice.parts.Proper := by
  intro run member
  obtain ⟨n, -, rfl⟩ := exists_of_mem_runs_parts member
  exact isRun_toDigits n

theorem Writable.short_parts (writable : dice.Writable) :
    ∀ run ∈ dice.parts.runs, run.length ≤ digitLimit := by
  have magnitude : isWritable dice.modifier.natAbs = true := by
    rw [isWritable_natAbs]
    exact writable.modifier
  intro run member
  obtain ⟨n, listed, rfl⟩ := exists_of_mem_runs_parts member
  rw [length_toDigits_le_iff]
  simp only [List.mem_cons, List.not_mem_nil, or_false] at listed
  rcases listed with rfl | rfl | rfl
  · exact writable.count
  · exact writable.sides
  · exact magnitude

/-- The notation of an expression is the text that its parts make. -/
theorem toList_spelled (dice : Dice) : dice.spelled.toList = dice.parts.text := by
  have mark : "d".toList = ['d'] := rfl
  rw [spelled, String.toList_append, String.toList_append, String.toList_append, toList_toString,
    toList_toString, mark, Parts.text, List.append_assoc, List.append_assoc]
  by_cases zero : dice.modifier = 0
  · rw [if_pos zero]
    simp [parts, zero, Parts.modifierText]
  · rw [if_neg zero, toList_withSign]
    simp [parts, zero, Parts.modifierText]

theorem modifierValue_parts (dice : Dice) :
    Parts.modifierValue dice.parts.modifier = dice.modifier := by
  by_cases zero : dice.modifier = 0
  · simp [parts, zero, Parts.modifierValue]
  · simp only [parts, if_neg zero, Parts.modifierValue, value_toDigits]
    exact signed_natAbs dice.modifier

/-! ## Writing and reading -/

theorem ofInts_eq_ok (dice : Dice) : ofInts dice.count dice.sides dice.modifier = .ok dice := by
  have positive : 0 < (dice.count : Int) ∧ 0 < (dice.sides : Int) :=
    ⟨Int.natCast_pos.2 dice.count_pos, Int.natCast_pos.2 dice.sides_pos⟩
  rw [ofInts, dif_pos positive]
  rfl

/-- Dice are read back from their notation. -/
theorem Writable.parse_spelled (writable : dice.Writable) : parse dice.spelled = .ok dice := by
  have made : String.ofList dice.parts.text = dice.spelled := by
    rw [← toList_spelled, String.ofList_toList]
  rw [← made, parse_text dice.proper_parts, ofParts_eq_ofInts writable.short_parts,
    modifierValue_parts]
  simp only [parts, value_toDigits]
  exact dice.ofInts_eq_ok

theorem length_le_of_readNat
    {digits : List Char} {n : Nat} (read : readNat digits = .ok n) :
    digits.length ≤ digitLimit := by
  by_cases short : digits.length ≤ digitLimit
  · exact short
  · rw [readNat, readDigits, if_neg short] at read
    cases read

theorem short_of_ofParts {parts : Parts} (made : ofParts parts = .ok dice) :
    ∀ run ∈ parts.runs, run.length ≤ digitLimit := by
  obtain ⟨countDigits, sidesDigits, modifier⟩ := parts
  rw [ofParts] at made
  obtain ⟨count, countRead, made⟩ := bind_eq_ok_iff.1 made
  obtain ⟨sides, sidesRead, made⟩ := bind_eq_ok_iff.1 made
  have countShort := length_le_of_readNat countRead
  have sidesShort := length_le_of_readNat sidesRead
  cases modifier with
  | none => simpa [Parts.runs] using ⟨countShort, sidesShort⟩
  | some signed =>
      obtain ⟨added, modifierRead, -⟩ := bind_eq_ok_iff.1 made
      obtain ⟨magnitude, digitsRead, -⟩ := map_eq_ok_iff.1 modifierRead
      have digitsShort := length_le_of_readNat digitsRead
      simpa [Parts.runs] using ⟨countShort, sidesShort, digitsShort⟩

/-- Dice that were read from a text can be written. -/
theorem writable_of_parse {text : String} (read : parse text = .ok dice) : dice.Writable := by
  rw [parse] at read
  cases found : parts? (trim text.toList) with
  | none =>
      rw [found] at read
      cases read
  | some parts =>
      rw [found] at read
      have short := short_of_ofParts read
      have proper : parts.Proper := (parts?_eq_some_iff.1 found).1
      have fromParts : parse (String.ofList parts.text) = .ok dice := by
        rw [parse_text proper]
        exact read
      rcases parse_text_cases proper short with readable | refused
      · obtain ⟨other, otherRead, writable⟩ := readable
        rw [fromParts] at otherRead
        rw [Except.ok.inj otherRead]
        exact writable
      · obtain ⟨count, sides, failed, -⟩ := refused
        rw [fromParts] at failed
        cases failed

/-! ## Written forms -/

/-- The written form of the dice that a text stands for. -/
def rewritten (text : String) : Except Fault String :=
  parse text >>= written

theorem rewritten_of_parse {text : String} (read : parse text = .ok dice) :
    rewritten text = .ok dice.spelled :=
  bind_eq_ok_iff.2 ⟨dice, read, (writable_of_parse read).written_eq⟩

theorem spelled_inj
    {other : Dice} (writable : dice.Writable) (alsoWritable : other.Writable)
    (same : dice.spelled = other.spelled) : dice = other := by
  have read := writable.parse_spelled
  rw [same, alsoWritable.parse_spelled] at read
  exact (Except.ok.inj read).symm

/-- Dice whose numbers are short enough are written in a notation that is read as these dice. What
is read as dice has a written form, which is read as the same dice and is its own written form; and
two texts stand for the same dice exactly if they have one written form. -/
theorem notation_round_trips :
    (∀ dice : Dice, dice.Writable →
      ∃ text, dice.written = .ok text ∧ parse text = .ok dice) ∧
    (∀ text dice, parse text = .ok dice →
      ∃ form, rewritten text = .ok form ∧ parse form = .ok dice ∧ rewritten form = .ok form) ∧
    ∀ one other dice others, parse one = .ok dice → parse other = .ok others →
      (dice = others ↔ rewritten one = rewritten other) := by
  refine ⟨?_, ?_, ?_⟩
  · intro dice writable
    exact ⟨dice.spelled, writable.written_eq, writable.parse_spelled⟩
  · intro text dice read
    have readForm : parse dice.spelled = .ok dice := (writable_of_parse read).parse_spelled
    exact ⟨dice.spelled, rewritten_of_parse read, readForm, rewritten_of_parse readForm⟩
  · intro one other dice others read otherRead
    rw [rewritten_of_parse read, rewritten_of_parse otherRead]
    constructor
    · rintro rfl
      rfl
    · intro same
      exact spelled_inj (writable_of_parse read) (writable_of_parse otherRead)
        (Except.ok.inj same)

/-- Digits of two scripts and a modifier of nought with a sign; dice that lose by their modifier. -/
theorem notation_round_trips_in_two_scripts :
    (∃ text, (⟨12, 6, -30, by decide, by decide⟩ : Dice).written = .ok text ∧
      parse text = .ok ⟨12, 6, -30, by decide, by decide⟩) ∧
    ∃ dice form,
      parse "\t\u0662d06-0\n" = .ok dice ∧ parse "2d6" = .ok dice ∧
        rewritten "\t\u0662d06-0\n" = .ok form ∧ parse form = .ok dice ∧
        rewritten "\t\u0662d06-0\n" = rewritten "2d6" := by
  have read : parse "\t\u0662d06-0\n" = .ok (Dice.of 2 6) := rfl
  have otherRead : parse "2d6" = .ok (Dice.of 2 6) := rfl
  obtain ⟨writes, rewrites, tells⟩ := notation_round_trips
  obtain ⟨form, isForm, readForm, -⟩ := rewrites _ _ read
  have same := (tells _ _ _ _ read otherRead).1 rfl
  refine ⟨writes _ ⟨?_, ?_, ?_⟩, Dice.of 2 6, form, read, otherRead, isForm, readForm, same⟩
  · decide +kernel
  · decide +kernel
  · decide +kernel

end Tabletop.Dice
