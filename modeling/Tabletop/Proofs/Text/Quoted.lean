import Tabletop.Text.Quoted

/-!
# Quoted characters

Inside quotes a character stands as itself, or a backslash and more characters stand for it: the
character again or letters and digits.
-/

namespace Tabletop.Text

variable {c d quote : Char} {text : List Char}

theorem isPrintable_of_control (control : c.toNat ≤ 0x1f) : isPrintable c = false := by
  rw [isPrintable, unprintableTable, Intervals.holds, if_neg (Nat.not_lt_zero _),
    decide_eq_true control]
  rfl

theorem isAlphanum_of_mem_toDigits {code : Nat} :
    ∀ c ∈ Nat.toDigits 16 code, c.isAlphanum = true := by
  have digit (value : Nat) (small : value < 16) : value.digitChar.isAlphanum = true := by
    have all : ∀ value < 16, (Nat.digitChar value).isAlphanum = true := by decide
    exact all value small
  induction code using Nat.strongRecOn with
  | ind code inductionHypothesis =>
      by_cases small : code < 16
      · rw [Nat.toDigits_of_lt_base small]
        exact List.forall_mem_singleton.2 (digit code small)
      · rw [Nat.toDigits_of_base_le (by decide) (Nat.le_of_not_lt small)]
        intro c member
        rcases List.mem_append.1 member with member | member
        · exact inductionHypothesis (code / 16) (by omega) c member
        · obtain rfl := List.mem_singleton.1 member
          exact digit (code % 16) (Nat.mod_lt code (by decide))

theorem isAlphanum_of_mem_hexDigits {least code : Nat} :
    ∀ c ∈ hexDigits least code, c.isAlphanum = true := by
  intro c member
  rcases List.mem_append.1 member with member | member
  · rw [List.eq_of_mem_replicate member]
    rfl
  · exact isAlphanum_of_mem_toDigits c member

theorem hexDigits_ne_nil {least code : Nat} : hexDigits least code ≠ [] := by
  intro empty
  exact Nat.toDigits_ne_nil (List.append_eq_nil_iff.1 empty).2

/-- Letters and digits stand for a character without a visible form. -/
theorem quotedChar_of_not_isPrintable
    (notItself : ¬(c = quote ∨ c = '\\')) (notPrintable : isPrintable c = false) :
    ∃ named, quotedChar quote c = '\\' :: named ∧ named ≠ [] ∧
      ∀ d ∈ named, d.isAlphanum = true := by
  have single {letter : Char} (alphanumeric : letter.isAlphanum = true) :
      [letter] ≠ [] ∧ ∀ d ∈ [letter], d.isAlphanum = true :=
    ⟨List.cons_ne_nil letter [], List.forall_mem_singleton.2 alphanumeric⟩
  have coded {letter : Char} (least : Nat) (alphanumeric : letter.isAlphanum = true) :
      letter :: hexDigits least c.toNat ≠ [] ∧
        ∀ d ∈ letter :: hexDigits least c.toNat, d.isAlphanum = true :=
    ⟨List.cons_ne_nil _ _, List.forall_mem_cons.2 ⟨alphanumeric, isAlphanum_of_mem_hexDigits⟩⟩
  have other : ¬(c = quote || c = '\\') = true := by simpa using notItself
  rw [quotedChar, if_neg other]
  split
  · exact ⟨['n'], rfl, single rfl⟩
  split
  · exact ⟨['r'], rfl, single rfl⟩
  split
  · exact ⟨['t'], rfl, single rfl⟩
  split
  · rename_i printable
    rw [notPrintable] at printable
    cases printable
  split
  · exact ⟨'x' :: hexDigits 2 c.toNat, rfl, coded 2 rfl⟩
  split
  · exact ⟨'u' :: hexDigits 4 c.toNat, rfl, coded 4 rfl⟩
  · exact ⟨'U' :: hexDigits 8 c.toNat, rfl, coded 8 rfl⟩

theorem quotedChar_of_isPrintable
    (notItself : ¬(c = quote ∨ c = '\\')) (printable : isPrintable c = true) :
    quotedChar quote c = [c] := by
  have notControl {control : Char} (low : control.toNat ≤ 0x1f) : c ≠ control := by
    rintro rfl
    rw [isPrintable_of_control low] at printable
    cases printable
  have other : ¬(c = quote || c = '\\') = true := by simpa using notItself
  rw [quotedChar, if_neg other, if_neg (notControl (by decide)), if_neg (notControl (by decide)),
    if_neg (notControl (by decide)), if_pos printable]

theorem quotedChar_of_itself (itself : c = quote ∨ c = '\\') :
    quotedChar quote c = ['\\', c] := by
  rw [quotedChar, if_pos (by simpa using itself)]

theorem quoteFor_cases (text : List Char) : quoteFor text = '"' ∨ quoteFor text = '\'' := by
  rw [quoteFor]
  split
  · exact Or.inl rfl
  · exact Or.inr rfl

theorem toNat_of_isAlphanum (alphanumeric : c.isAlphanum = true) :
    ((0x41 ≤ c.toNat ∧ c.toNat ≤ 0x5a) ∨ (0x61 ≤ c.toNat ∧ c.toNat ≤ 0x7a)) ∨
      0x30 ≤ c.toNat ∧ c.toNat ≤ 0x39 := by
  have kinds :
      ((decide ('A'.val ≤ c.val ∧ c.val ≤ 'Z'.val) ||
          (decide ('a'.val ≤ c.val) && decide (c.val ≤ 'z'.val))) ||
        (decide ('0'.val ≤ c.val) && decide (c.val ≤ '9'.val))) = true := alphanumeric
  simpa [UInt32.le_iff_toNat_le] using kinds

/-- There are no control characters in a quoted text. -/
theorem le_toNat_of_mem_quoted (member : d ∈ quoted text) : 0x20 ≤ d.toNat := by
  have quoteMarks : 0x20 ≤ (quoteFor text).toNat := by
    rcases quoteFor_cases text with isQuote | isQuote <;> rw [isQuote] <;> decide
  have backslash : 0x20 ≤ '\\'.toNat := by decide
  simp only [quoted, List.mem_append, List.mem_cons, List.not_mem_nil, or_false,
    List.mem_flatMap] at member
  rcases member with (rfl | ⟨c, -, member⟩) | rfl
  · exact quoteMarks
  · by_cases itself : c = quoteFor text ∨ c = '\\'
    · rw [quotedChar_of_itself itself] at member
      rcases List.mem_cons.1 member with rfl | member
      · exact backslash
      · obtain rfl := List.mem_singleton.1 member
        rcases itself with rfl | rfl
        · exact quoteMarks
        · exact backslash
    · cases printable : isPrintable c with
      | false =>
          obtain ⟨named, split, -, alphanumeric⟩ :=
            quotedChar_of_not_isPrintable itself printable
          rw [split] at member
          rcases List.mem_cons.1 member with rfl | member
          · exact backslash
          · have := toNat_of_isAlphanum (alphanumeric d member)
            omega
      | true =>
          rw [quotedChar_of_isPrintable itself printable] at member
          obtain rfl := List.mem_singleton.1 member
          rcases Nat.lt_or_ge d.toNat 0x20 with control | visible
          · rw [isPrintable_of_control (by omega)] at printable
            cases printable
          · exact visible
  · exact quoteMarks

end Tabletop.Text
