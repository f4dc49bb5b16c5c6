import Tabletop.Proofs.Text.Lower
import Tabletop.Skill

/-!
# One spelling of a skill

The names of skills are compared in one spelling: in small letters, without underscores, their words
a single space apart. A name in that spelling is brought to itself.
-/

namespace Tabletop

namespace Text

/-! ## Words -/

/-- A word has letters and no white space. -/
structure IsWord (word : List Char) : Prop where
  nonempty : word ≠ []
  solid : ∀ c ∈ word, isBlank c = false

/-- The words of a text are made of its characters. -/
theorem mem_of_mem_wordsFrom
    {c : Char} {letters text word : List Char} (listed : word ∈ wordsFrom letters text)
    (member : c ∈ word) :
    c ∈ letters ∨ c ∈ text := by
  induction text generalizing letters with
  | nil =>
      cases letters with
      | nil => cases listed
      | cons d letters =>
          obtain rfl := List.mem_singleton.1 listed
          exact Or.inl (List.mem_reverse.1 member)
  | cons d rest inductionHypothesis =>
      cases blank : isBlank d with
      | true =>
          rw [wordsFrom_of_isBlank blank] at listed
          have later (found : word ∈ wordsFrom [] rest) : c ∈ letters ∨ c ∈ d :: rest :=
            (inductionHypothesis found).elim nofun fun inRest =>
              Or.inr (List.mem_cons_of_mem d inRest)
          split at listed
          · exact later listed
          · rcases List.mem_cons.1 listed with rfl | listed
            · exact Or.inl (List.mem_reverse.1 member)
            · exact later listed
      | false =>
          rw [wordsFrom_of_not_isBlank blank] at listed
          rcases inductionHypothesis listed with inWord | inRest
          · rcases List.mem_cons.1 inWord with rfl | inLetters
            · exact Or.inr List.mem_cons_self
            · exact Or.inl inLetters
          · exact Or.inr (List.mem_cons_of_mem d inRest)

theorem isWord_of_mem_wordsFrom
    {letters text word : List Char} (solid : ∀ c ∈ letters, isBlank c = false)
    (listed : word ∈ wordsFrom letters text) :
    IsWord word := by
  -- what is under way is a word as soon as it has a letter
  have isWord (first : Char) (others : List Char)
      (solid : ∀ c ∈ first :: others, isBlank c = false) : IsWord (first :: others).reverse := by
    constructor
    case nonempty => simp
    case solid =>
      intro c member
      exact solid c (List.mem_reverse.1 member)
  induction text generalizing letters with
  | nil =>
      cases letters with
      | nil => cases listed
      | cons d letters =>
          obtain rfl := List.mem_singleton.1 listed
          exact isWord d letters solid
  | cons d rest inductionHypothesis =>
      cases blank : isBlank d with
      | true =>
          rw [wordsFrom_of_isBlank blank] at listed
          have later (found : word ∈ wordsFrom [] rest) : IsWord word :=
            inductionHypothesis (by simp) found
          cases letters with
          | nil => exact later listed
          | cons e letters =>
              rcases List.mem_cons.1 listed with rfl | found
              · exact isWord e letters solid
              · exact later found
      | false =>
          rw [wordsFrom_of_not_isBlank blank] at listed
          refine inductionHypothesis ?_ listed
          intro c member
          rcases List.mem_cons.1 member with rfl | inLetters
          · exact blank
          · exact solid c inLetters

theorem wordsFrom_append_of_solid
    {word : List Char} (solid : ∀ c ∈ word, isBlank c = false) (letters text : List Char) :
    wordsFrom letters (word ++ text) = wordsFrom (word.reverse ++ letters) text := by
  induction word generalizing letters with
  | nil => rfl
  | cons c rest inductionHypothesis =>
      have restSolid : ∀ c ∈ rest, isBlank c = false :=
        fun other member => solid other (List.mem_cons_of_mem c member)
      rw [List.cons_append, wordsFrom_of_not_isBlank (solid c List.mem_cons_self),
        inductionHypothesis restSolid, List.reverse_cons, List.append_assoc]
      rfl

theorem wordsFrom_nil {letters : List Char} (started : letters ≠ []) :
    wordsFrom letters [] = [letters.reverse] := by
  cases letters with
  | nil => exact (started rfl).elim
  | cons c others => rfl

theorem wordsFrom_space {letters : List Char} (started : letters ≠ []) (text : List Char) :
    wordsFrom letters (' ' :: text) = letters.reverse :: words text := by
  have space : isBlank ' ' = true := by decide
  cases letters with
  | nil => exact (started rfl).elim
  | cons c others => exact wordsFrom_of_isBlank space (c :: others) text

/-- Words that are joined by single spaces are told apart again. -/
theorem words_intercalate
    {texts : List (List Char)} (areWords : ∀ text ∈ texts, IsWord text) :
    words ([' '].intercalate texts) = texts := by
  induction texts with
  | nil => rfl
  | cons first rest inductionHypothesis =>
      have isWord := areWords first List.mem_cons_self
      have restAreWords : ∀ text ∈ rest, IsWord text :=
        fun text member => areWords text (List.mem_cons_of_mem first member)
      have started : first.reverse ≠ [] := by simpa using isWord.nonempty
      have behind (text : List Char) : words (first ++ text) = wordsFrom first.reverse text := by
        rw [words, wordsFrom_append_of_solid isWord.solid, List.append_nil]
      cases rest with
      | nil =>
          have alone := behind []
          rw [List.append_nil, wordsFrom_nil started, List.reverse_reverse] at alone
          rw [List.intercalate_singleton, alone]
      | cons next rest =>
          rw [List.intercalate_cons_cons, List.append_assoc, List.singleton_append, behind,
            wordsFrom_space started, List.reverse_reverse, inductionHypothesis restAreWords]

end Text

namespace Skill

open Text

/-- The one spelling has single spaces, and else what small letters of the name there are. -/
theorem mem_normalForm
    {c : Char} {name : String} (member : c ∈ (normalForm name).toList) :
    c = ' ' ∨ c ∈ (lower name).toList ∧ c ≠ '_' := by
  rw [normalForm, String.toList_ofList] at member
  rcases mem_intercalate member with isSpace | ⟨word, listed, inWord⟩
  · exact Or.inl (List.mem_singleton.1 isSpace)
  · rcases mem_of_mem_wordsFrom listed inWord with nowhere | inText
    · cases nowhere
    · obtain ⟨x, inLowered, spaced⟩ := List.mem_map.1 inText
      split at spaced
      · exact Or.inl spaced.symm
      · rename_i notUnderscore
        exact Or.inr (spaced ▸ ⟨inLowered, notUnderscore⟩)

/-- The one spelling is in small letters. -/
theorem lower_normalForm (name : String) : lower (normalForm name) = normalForm name := by
  have stays : ∀ c ∈ (normalForm name).toList, staysLower c = true := by
    intro c member
    rcases mem_normalForm member with rfl | ⟨inLowered, -⟩
    · decide
    · rw [lower, String.toList_ofList] at inLowered
      exact staysLower_of_mem_lowerAfter c inLowered
  rw [lower, lowerAfter_eq_self stays, String.ofList_toList]

/-- A name in its one spelling stays as it is. -/
theorem normalForm_normalForm (name : String) : normalForm (normalForm name) = normalForm name := by
  have noUnderscore :
      ∀ c ∈ (normalForm name).toList, (if c = '_' then ' ' else c) = c := by
    intro c member
    have isOther : c ≠ '_' := by
      rcases mem_normalForm member with rfl | ⟨-, notUnderscore⟩
      · decide
      · exact notUnderscore
    exact if_neg isOther
  have sameLetters :
      (normalForm name).toList.map (fun c => if c = '_' then ' ' else c) =
        (normalForm name).toList :=
    (List.map_congr_left noUnderscore).trans (List.map_id' (normalForm name).toList)
  conv => lhs; rw [normalForm, lower_normalForm]
  simp only [sameLetters]
  rw [normalForm, String.toList_ofList, words_intercalate]
  intro word listed
  exact isWord_of_mem_wordsFrom (by simp) listed

end Skill

end Tabletop
