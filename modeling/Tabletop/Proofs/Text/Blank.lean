import Tabletop.Proofs.Text.Case

/-!
# White space

There are few kinds of white space, so what they have in common is checked one by one. A text is
split into the same words however much white space there is between them.
-/

namespace Tabletop.Text

/-- The codes of all white space. -/
def blankCodes : List Nat :=
  [0x09, 0x0a, 0x0b, 0x0c, 0x0d, 0x1c, 0x1d, 0x1e, 0x1f, 0x20, 0x85, 0xa0, 0x1680, 0x2000, 0x2001,
    0x2002, 0x2003, 0x2004, 0x2005, 0x2006, 0x2007, 0x2008, 0x2009, 0x200a, 0x2028, 0x2029, 0x202f,
    0x205f, 0x3000]

theorem mem_blankCodes_of_isBlank {c : Char} (blank : isBlank c = true) :
    c.toNat ∈ blankCodes := by
  simp only [isBlank, Bool.or_eq_true, Bool.and_eq_true, decide_eq_true_eq, beq_iff_eq] at blank
  simp only [blankCodes, List.mem_cons, List.not_mem_nil, or_false]
  omega

/-- What holds of all white space one by one. -/
theorem of_isBlank
    (holds : Char → Bool) {c : Char} (blank : isBlank c = true)
    (all : (blankCodes.all fun code => holds (Char.ofNat code)) = true) :
    holds c = true := by
  have known := List.all_eq_true.1 all c.toNat (mem_blankCodes_of_isBlank blank)
  rwa [Char.ofNat_toNat] at known

theorem lowersAlone_of_isBlank {c : Char} (blank : isBlank c = true) : lowersAlone c = true :=
  of_isBlank lowersAlone blank (by decide)

theorem toLower_of_isBlank {c : Char} (blank : isBlank c = true) : c.toLower = c := by
  have same : (c.toLower == c) = true :=
    of_isBlank (fun c => c.toLower == c) blank (by decide)
  exact beq_iff_eq.1 same

theorem isBlank_of_isLower {c : Char} (small : c.isLower = true) : isBlank c = false := by
  cases blank : isBlank c with
  | false => rfl
  | true =>
      have notSmall : (!c.isLower) = true :=
        of_isBlank (fun c => !c.isLower) blank (by decide)
      rw [small] at notSmall
      cases notSmall

theorem not_isBlank_of_isLower_toLower {c : Char} (small : c.toLower.isLower = true) :
    isBlank c = false := by
  cases blank : isBlank c with
  | false => rfl
  | true =>
      rw [toLower_of_isBlank blank] at small
      rw [isBlank_of_isLower small] at blank
      cases blank

/-! ## Trimmed texts -/

/-- A text that neither begins nor ends with white space. -/
structure Trimmed (text : List Char) : Prop where
  head : ∀ c ∈ text.head?, isBlank c = false
  last : ∀ c ∈ text.getLast?, isBlank c = false

theorem trimmed_of_solid
    {text : List Char} (solid : ∀ c ∈ text, isBlank c = false) : Trimmed text :=
  ⟨fun c isHead => solid c (List.mem_of_mem_head? isHead),
    fun c isLast => solid c (List.mem_of_mem_getLast? isLast)⟩

theorem dropWhile_eq_self_of_head
    {drops : Char → Bool} {text : List Char} (head : ∀ c ∈ text.head?, drops c = false) :
    text.dropWhile drops = text := by
  cases text with
  | nil => rfl
  | cons c rest =>
      have kept : drops c = false := head c rfl
      simp [kept]

theorem not_isBlank_of_head?_dropWhile
    {text : List Char} {c : Char} (isHead : c ∈ (text.dropWhile isBlank).head?) :
    isBlank c = false := by
  have known := List.head?_dropWhile_not isBlank text
  rw [isHead] at known
  exact known

/-- Characters of a class around a text with other ones at its ends are all that is dropped. -/
theorem trimBy_append
    {drops : Char → Bool} {opening body closing : List Char}
    (head : ∀ c ∈ body.head?, drops c = false) (last : ∀ c ∈ body.getLast?, drops c = false)
    (opens : ∀ c ∈ opening, drops c = true) (closes : ∀ c ∈ closing, drops c = true) :
    trimBy drops (opening ++ (body ++ closing)) = body := by
  have closesReverse : ∀ c ∈ closing.reverse, drops c = true := by simpa using closes
  have lastReverse : ∀ c ∈ body.reverse.head?, drops c = false := by simpa using last
  rw [trimBy, List.dropWhile_append_of_pos opens]
  cases body with
  | nil =>
      have dropped : (closing ++ []).dropWhile drops = [] := List.dropWhile_append_of_pos closes
      rw [List.append_nil] at dropped
      rw [List.nil_append, dropped]
      rfl
  | cons c rest =>
      have kept : (c :: rest ++ closing).dropWhile drops = c :: rest ++ closing :=
        dropWhile_eq_self_of_head head
      rw [kept, List.reverse_append, List.dropWhile_append_of_pos closesReverse,
        dropWhile_eq_self_of_head lastReverse, List.reverse_reverse]

/-- White space around a trimmed text is all that is trimmed away. -/
theorem Trimmed.trim_append
    {opening body closing : List Char} (trimmed : Trimmed body)
    (opens : ∀ c ∈ opening, isBlank c = true) (closes : ∀ c ∈ closing, isBlank c = true) :
    trim (opening ++ (body ++ closing)) = body :=
  trimBy_append trimmed.head trimmed.last opens closes

theorem Trimmed.trim_eq {text : List Char} (trimmed : Trimmed text) : trim text = text := by
  have nothing : ∀ c ∈ ([] : List Char), isBlank c = true := by simp
  simpa using trimmed.trim_append nothing nothing

theorem trim_eq_self
    {text : List Char} (solid : ∀ c ∈ text, isBlank c = false) :
    trim text = text :=
  (trimmed_of_solid solid).trim_eq

theorem holds_of_mem_takeWhile {drops : Char → Bool} {text : List Char} :
    ∀ c ∈ text.takeWhile drops, drops c = true :=
  fun c member => List.all_eq_true.1 List.all_takeWhile c member

/-- Behind the characters of a class at its head, a text is its trimmed form and more of them. -/
theorem dropWhile_eq_trimBy_append (drops : Char → Bool) (text : List Char) :
    text.dropWhile drops =
      trimBy drops text ++ ((text.dropWhile drops).reverse.takeWhile drops).reverse := by
  rw [trimBy, ← List.reverse_append, List.takeWhile_append_dropWhile, List.reverse_reverse]

/-- A text is its trimmed form between characters of the class. -/
theorem exists_trimBy (drops : Char → Bool) (text : List Char) :
    ∃ opening closing,
      text = opening ++ (trimBy drops text ++ closing) ∧ (∀ c ∈ opening, drops c = true) ∧
        ∀ c ∈ closing, drops c = true := by
  refine ⟨text.takeWhile drops, ((text.dropWhile drops).reverse.takeWhile drops).reverse,
    ?_, holds_of_mem_takeWhile, ?_⟩
  · rw [← dropWhile_eq_trimBy_append, List.takeWhile_append_dropWhile]
  · intro c member
    exact holds_of_mem_takeWhile c (List.mem_reverse.1 member)

/-- A text is its trimmed form between white space. -/
theorem exists_trim (text : List Char) :
    ∃ opening closing,
      text = opening ++ (trim text ++ closing) ∧ (∀ c ∈ opening, isBlank c = true) ∧
        ∀ c ∈ closing, isBlank c = true :=
  exists_trimBy isBlank text

theorem trimmed_trim (text : List Char) : Trimmed (trim text) := by
  constructor
  case head =>
    intro c isHead
    have isHeadBehind : c ∈ (text.dropWhile isBlank).head? := by
      rw [dropWhile_eq_trimBy_append, List.head?_append, ← trim, isHead]
      rfl
    exact not_isBlank_of_head?_dropWhile isHeadBehind
  case last =>
    intro c isLast
    rw [trim, trimBy, List.getLast?_reverse] at isLast
    exact not_isBlank_of_head?_dropWhile isLast

theorem wordsFrom_of_isBlank
    {c : Char} (blank : isBlank c = true) (letters text : List Char) :
    wordsFrom letters (c :: text) =
      if letters.isEmpty then wordsFrom [] text else letters.reverse :: wordsFrom [] text := by
  cases letters <;> exact if_pos blank

theorem wordsFrom_of_not_isBlank
    {c : Char} (solid : isBlank c = false) (letters text : List Char) :
    wordsFrom letters (c :: text) = wordsFrom (c :: letters) text := by
  have notBlank : ¬isBlank c = true := by
    rw [solid]
    decide
  cases letters <;> exact if_neg notBlank

/-- White space between words ends the word before it and is left out. -/
theorem wordsFrom_append_of_isBlank
    {blanks : List Char} (nonempty : blanks ≠ []) (blank : ∀ c ∈ blanks, isBlank c = true)
    (letters text : List Char) :
    wordsFrom letters (blanks ++ text) = wordsFrom letters (' ' :: text) := by
  induction blanks generalizing letters with
  | nil => exact (nonempty rfl).elim
  | cons c rest inductionHypothesis =>
      have isFirst : isBlank c = true := blank c (by simp)
      have space : isBlank ' ' = true := by decide
      have skipped : wordsFrom [] (rest ++ text) = wordsFrom [] text := by
        cases rest with
        | nil => rfl
        | cons next rest =>
            have restBlank : ∀ c ∈ next :: rest, isBlank c = true :=
              fun c member => blank c (List.mem_cons_of_mem _ member)
            exact (inductionHypothesis (List.cons_ne_nil _ _) restBlank []).trans
              (wordsFrom_of_isBlank space [] text)
      calc
        wordsFrom letters (c :: rest ++ text) =
            if letters.isEmpty then wordsFrom [] (rest ++ text)
            else letters.reverse :: wordsFrom [] (rest ++ text) :=
          wordsFrom_of_isBlank isFirst letters (rest ++ text)
        _ = wordsFrom letters (' ' :: text) := by
          rw [skipped, wordsFrom_of_isBlank space]

/-- What is joined is made of the parts and of what stands between them. -/
theorem mem_intercalate
    {c : Char} {separator : List Char} {texts : List (List Char)}
    (member : c ∈ separator.intercalate texts) :
    c ∈ separator ∨ ∃ text ∈ texts, c ∈ text := by
  induction texts with
  | nil => cases member
  | cons text texts inductionHypothesis =>
      cases texts with
      | nil =>
          rw [List.intercalate_singleton] at member
          exact Or.inr ⟨text, List.mem_cons_self, member⟩
      | cons next texts =>
          rw [List.intercalate_cons_cons] at member
          rcases List.mem_append.1 member with member | member
          · rcases List.mem_append.1 member with member | member
            · exact Or.inr ⟨text, List.mem_cons_self, member⟩
            · exact Or.inl member
          · refine (inductionHypothesis member).imp_right ?_
            rintro ⟨other, listed, inOther⟩
            exact ⟨other, List.mem_cons_of_mem text listed, inOther⟩

end Tabletop.Text
