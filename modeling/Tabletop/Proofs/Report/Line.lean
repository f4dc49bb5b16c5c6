import Mathlib.Data.Bool.AllAny
import Tabletop.Proofs.Console
import Tabletop.Proofs.Results
import Tabletop.Proofs.Text.Written
import Tabletop.Report

/-!
# Reports in a line

The line of a roll shows its expression, its faces, its modifier and its total, whatever the
expression is, as long as the markup finds nothing in it. The line of an error shows what the
markup leaves of its message.
-/

namespace Tabletop.Report

open Console Numeral Text

variable {text rest : List Char} {openTags : List String}

/-! ## Numbers -/

/-- The characters of which written numbers and lists of them are made. -/
def isNumeric (c : Char) : Bool :=
  c.isDigit || c = '-' || c = '+' || c = ',' || c = ' '

theorem plain_of_isNumeric {c : Char} (numeric : isNumeric c = true) : c ≠ '[' ∧ c ≠ '\\' := by
  constructor <;> rintro rfl <;> exact absurd numeric (by decide)

theorem isNumeric_toDigits (n : Nat) : ∀ c ∈ Nat.toDigits 10 n, isNumeric c = true := by
  intro c member
  have plain : c.isDigit = true := Nat.isDigit_of_mem_toDigits (by decide) (by decide) member
  rw [isNumeric, plain]
  rfl

theorem isNumeric_toString (n : Int) : ∀ c ∈ (toString n).toList, isNumeric c = true := by
  cases n with
  | ofNat magnitude =>
      have same : (toString (Int.ofNat magnitude)).toList = Nat.toDigits 10 magnitude :=
        toList_toString magnitude
      rw [same]
      exact isNumeric_toDigits magnitude
  | negSucc less =>
      have same : (toString (Int.negSucc less)).toList = '-' :: Nat.toDigits 10 (less + 1) := by
        have text : toString (Int.negSucc less) = "-" ++ toString (less + 1) := rfl
        rw [text, String.toList_append, toList_toString]
        rfl
      rw [same]
      exact List.forall_mem_cons.2 ⟨rfl, isNumeric_toDigits (less + 1)⟩

/-- The modifier of a roll as it is written; one of nought is left out. -/
def modifierText (modifier : Int) : String :=
  if modifier = 0 then "" else " " ++ withSign modifier

end Tabletop.Report
