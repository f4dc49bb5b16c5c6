import Tabletop.Compendium
import Tabletop.Proofs.Text.Case
import Tabletop.Skill
import Tabletop.Text.Word

/-!
# Texts without capitals

Making the plain capitals of a text small changes neither its lower-case form nor anything that is
read off that form: names of abilities and skills, numbers and entries of a compendium.
-/

namespace Tabletop

namespace Text

/-- A text with its plain capitals made small. -/
def small (text : String) : String :=
  String.ofList (text.toList.map Char.toLower)

@[simp]
theorem toList_small (text : String) : (small text).toList = text.toList.map Char.toLower :=
  String.toList_ofList

theorem small_ofList (letters : List Char) :
    small (String.ofList letters) = String.ofList (letters.map Char.toLower) := by
  rw [small, String.toList_ofList]

/-! ## Characters -/

theorem toLower_of_not_plain {c : Char} (beyond : ¬c.toNat < 128) : c.toLower = c := by
  have notCapital : ¬('A'.val ≤ c.val ∧ c.val ≤ 'Z'.val) := by
    rintro ⟨-, last⟩
    exact beyond (Nat.lt_of_le_of_lt (UInt32.le_iff_toNat_le.1 last) (by decide))
  unfold Char.toLower
  rw [dif_neg notCapital]

/-- What does not tell plain capitals from small letters tells no character from its small form. -/
theorem of_toLower
    {α : Type} [DecidableEq α] (f : Char → α)
    (all : ((List.range 128).all fun code =>
      decide (f (Char.ofNat code).toLower = f (Char.ofNat code))) = true) (c : Char) :
    f c.toLower = f c := by
  by_cases plain : c.toNat < 128
  · exact of_decide_eq_true (of_plain (fun c => decide (f c.toLower = f c)) plain all)
  · rw [toLower_of_not_plain plain]

theorem isWord_toLower : ∀ c : Char, isWord c.toLower = isWord c :=
  of_toLower isWord (by decide)

theorem isBlank_toLower : ∀ c : Char, isBlank c.toLower = isBlank c :=
  of_toLower isBlank (by decide)

theorem digitValue?_toLower : ∀ c : Char, digitValue? c.toLower = digitValue? c :=
  of_toLower digitValue? (by decide)

theorem fold_toLower : ∀ c : Char, fold c.toLower = fold c :=
  of_toLower fold (by decide)

theorem isCased_toLower : ∀ c : Char, isCased c.toLower = isCased c :=
  of_toLower isCased (by decide)

theorem isPassedOver_toLower : ∀ c : Char, isPassedOver c.toLower = isPassedOver c :=
  of_toLower isPassedOver (by decide)

theorem lowerChar_toLower : ∀ c : Char, lowerChar c.toLower = lowerChar c :=
  of_toLower lowerChar (by decide)

/-- Only letters are changed, and they become letters. -/
theorem toLower_eq_or_isAlpha (c : Char) :
    c.toLower = c ∨ (c.isAlpha = true ∧ c.toLower.isAlpha = true) := by
  by_cases plain : c.toNat < 128
  · have known : (c.toLower == c || (c.isAlpha && c.toLower.isAlpha)) = true :=
      of_plain (fun c => c.toLower == c || (c.isAlpha && c.toLower.isAlpha)) plain
        (by decide)
    simpa using known
  · exact Or.inl (toLower_of_not_plain plain)

/-! ## Lower case -/

theorem dropWhile_map_toLower
    {drops : Char → Bool} (same : ∀ c : Char, drops c.toLower = drops c) (text : List Char) :
    (text.map Char.toLower).dropWhile drops = (text.dropWhile drops).map Char.toLower := by
  rw [List.dropWhile_map]
  congr 2
  exact funext same

theorem endsWord_map_toLower (before after : List Char) :
    endsWord (before.map Char.toLower) (after.map Char.toLower) = endsWord before after := by
  have cased (text : List Char) :
      (((text.map Char.toLower).dropWhile isPassedOver).head?.any isCased) =
        (text.dropWhile isPassedOver).head?.any isCased := by
    rw [dropWhile_map_toLower isPassedOver_toLower]
    cases text.dropWhile isPassedOver with
    | nil => rfl
    | cons c rest => exact isCased_toLower c
  rw [endsWord, endsWord, cased, cased]

theorem lowerBetween_map_toLower (before : List Char) (c : Char) (after : List Char) :
    lowerBetween (before.map Char.toLower) c.toLower (after.map Char.toLower) =
      lowerBetween before c after := by
  have sigma : c.toLower = '\u03a3' ↔ c = '\u03a3' :=
    decide_eq_decide.1 (of_toLower (fun c => decide (c = '\u03a3')) (by decide) c)
  simp only [lowerBetween, endsWord_map_toLower, lowerChar_toLower, sigma]

theorem lowerAfter_map_toLower (before text : List Char) :
    lowerAfter (before.map Char.toLower) (text.map Char.toLower) = lowerAfter before text := by
  induction text generalizing before with
  | nil => rfl
  | cons c rest inductionHypothesis =>
      rw [List.map_cons, lowerAfter, lowerAfter, lowerBetween_map_toLower,
        ← inductionHypothesis (c :: before), List.map_cons]

/-- Lower-casing makes plain capitals small in any case. -/
theorem lower_small (text : String) : lower (small text) = lower text := by
  rw [lower, lower, toList_small, ← lowerAfter_map_toLower [] text.toList, List.map_nil]

theorem isEmpty_small (text : String) : (small text).isEmpty = text.isEmpty := by
  have letters (text : String) : text.isEmpty = text.toList.isEmpty := by
    rw [Bool.eq_iff_iff, String.isEmpty_iff, List.isEmpty_iff, String.toList_eq_nil_iff]
  rw [letters, letters, toList_small, List.isEmpty_map]

theorem trim_map_toLower (text : List Char) :
    trim (text.map Char.toLower) = (trim text).map Char.toLower := by
  rw [trim, trimBy, dropWhile_map_toLower isBlank_toLower, ← List.map_reverse,
    dropWhile_map_toLower isBlank_toLower, ← List.map_reverse]
  rfl

end Text

open Text

/-! ## Names, numbers and entries -/

theorem Ability.ofName?_small (name : String) : ofName? (small name) = ofName? name := by
  have key :
      lower (String.ofList (trim (small name).toList)) =
        lower (String.ofList (trim name.toList)) := by
    rw [toList_small, trim_map_toLower, ← small_ofList, lower_small]
  rw [ofName?, ofName?, key]

theorem Skill.normalForm_small (name : String) : normalForm (small name) = normalForm name := by
  rw [normalForm, normalForm, lower_small]

theorem Skill.ofName?_small (name : String) : ofName? (small name) = ofName? name := by
  rw [ofName?, ofName?, normalForm_small]

theorem Ability.governing?_small (name : String) : governing? (small name) = governing? name := by
  rw [governing?, governing?, ofName?_small, Skill.ofName?_small]

theorem readNat_map_toLower (digits : List Char) :
    readNat (digits.map Char.toLower) = readNat digits := by
  have sameValue : Numeral.value (digits.map Char.toLower) = Numeral.value digits := by
    simp only [Numeral.value, List.foldl_map, digitValue?_toLower]
  rw [readNat, readNat, Numeral.readDigits, Numeral.readDigits, List.length_map, sameValue]
  split <;> rfl

theorem Entries.find?_small {α : Type} (table : Entries α) (text : String) :
    table.find? (small text) = table.find? text := by
  rw [find?, find?, lower_small]

end Tabletop
