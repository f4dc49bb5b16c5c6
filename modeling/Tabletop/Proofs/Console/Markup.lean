import Tabletop.Console.Markup
import Tabletop.Proofs.Results

/-!
# Text that means nothing to the markup

A text is shown as it stands, but for control characters, exactly if it holds neither a tag nor a
backslash before an opening bracket. Each tag takes its brackets with it and each such bracket a
backslash, and nothing makes up for the loss.
-/

namespace Tabletop.Console

open Tabletop.Text

variable {text rest body after shown : List Char} {c : Char} {before : Nat}
  {openTags : List String}

/-! ## Tags -/

/-- What may stand between the brackets of a tag. -/
structure IsTag (body : List Char) : Prop where
  opens : body.head?.any opensTag = true
  inner : ∀ c ∈ body, c ≠ '[' ∧ c ≠ ']'

theorem untilClose?_eq_some_iff :
    untilClose? text = some (body, after) ↔
      (∀ c ∈ body, c ≠ '[' ∧ c ≠ ']') ∧ text = body ++ ']' :: after := by
  induction text generalizing body with
  | nil => simp [untilClose?]
  | cons c rest inductionHypothesis =>
      rw [untilClose?]
      by_cases closes : c = ']'
      · subst closes
        rw [if_pos rfl]
        cases body with
        | nil => simp [eq_comm]
        | cons d body =>
            constructor
            · intro equal
              cases equal
            · rintro ⟨inner, equal⟩
              obtain rfl : ']' = d := (List.cons.inj equal).1
              exact absurd rfl (inner ']' (by simp)).2
      · rw [if_neg closes]
        by_cases opens : c = '['
        · subst opens
          rw [if_pos rfl]
          constructor
          · intro equal
            cases equal
          · rintro ⟨inner, equal⟩
            cases body with
            | nil => cases equal
            | cons d body =>
                obtain rfl : '[' = d := (List.cons.inj equal).1
                exact absurd rfl (inner '[' (by simp)).1
        · rw [if_neg opens, Option.map_eq_some_iff]
          constructor
          · rintro ⟨⟨innerBody, innerAfter⟩, found, equal⟩
            obtain ⟨rfl, rfl⟩ := Prod.mk.inj equal
            obtain ⟨inner, rfl⟩ := inductionHypothesis.1 found
            refine ⟨?_, rfl⟩
            intro d member
            rcases List.mem_cons.1 member with rfl | member
            · exact ⟨opens, closes⟩
            · exact inner d member
          · rintro ⟨inner, equal⟩
            cases body with
            | nil => exact absurd (List.cons.inj equal).1 closes
            | cons d body =>
                obtain ⟨rfl, rfl⟩ := List.cons.inj equal
                refine ⟨(body, after), inductionHypothesis.2 ⟨?_, rfl⟩, rfl⟩
                exact fun e member => inner e (List.mem_cons_of_mem c member)

/-- A tag opens a text behind its bracket if it has an end before the next opening bracket. -/
theorem tagAt?_eq_some_iff :
    tagAt? text = some (body, after) ↔ IsTag body ∧ text = body ++ ']' :: after := by
  have headOf (inner : text = body ++ ']' :: after) :
      text.head?.any opensTag = body.head?.any opensTag := by
    rw [inner]
    cases body with
    | nil => rfl
    | cons d body => rfl
  rw [tagAt?]
  constructor
  · intro found
    by_cases opens : text.head?.any opensTag = true
    · rw [if_pos opens] at found
      obtain ⟨inner, equal⟩ := untilClose?_eq_some_iff.1 found
      rw [headOf equal] at opens
      exact ⟨⟨opens, inner⟩, equal⟩
    · rw [if_neg opens] at found
      cases found
  · rintro ⟨isTag, equal⟩
    have opens := isTag.opens
    rw [← headOf equal] at opens
    rw [if_pos opens]
    exact untilClose?_eq_some_iff.2 ⟨isTag.inner, equal⟩

theorem tagAt?_eq_none_iff :
    tagAt? text = none ↔ ∀ body after, text = body ++ ']' :: after → ¬IsTag body := by
  constructor
  · intro none body after equal isTag
    rw [tagAt?_eq_some_iff.2 ⟨isTag, equal⟩] at none
    cases none
  · intro noTag
    cases found : tagAt? text with
    | none => rfl
    | some tag =>
        obtain ⟨isTag, equal⟩ := tagAt?_eq_some_iff.1 found
        exact absurd isTag (noTag _ _ equal)

/-! ## Unmarked text -/

/-- A text without tags and without a backslash before an opening bracket. -/
structure Unmarked (text : List Char) : Prop where
  noTag : ∀ opening body closing,
    text = opening ++ '[' :: (body ++ ']' :: closing) → ¬IsTag body
  noEscape : ∀ opening closing, text ≠ opening ++ '\\' :: '[' :: closing

theorem unmarked_cons :
    Unmarked (c :: rest) ↔
      (c = '[' → tagAt? rest = none) ∧ (c = '\\' → rest.head? ≠ some '[') ∧ Unmarked rest := by
  constructor
  · intro unmarked
    refine ⟨?_, ?_, ?_, ?_⟩
    · rintro rfl
      exact tagAt?_eq_none_iff.2 fun body after equal =>
        unmarked.noTag [] body after (by rw [equal]; rfl)
    · rintro rfl opens
      cases rest with
      | nil => cases opens
      | cons d rest =>
          obtain rfl : d = '[' := Option.some.inj opens
          exact unmarked.noEscape [] rest rfl
    · intro opening body closing equal
      exact unmarked.noTag (c :: opening) body closing (by rw [equal]; rfl)
    · intro opening closing equal
      exact unmarked.noEscape (c :: opening) closing (by rw [equal]; rfl)
  · rintro ⟨noTag, noEscape, unmarked⟩
    constructor
    · intro opening body closing equal
      cases opening with
      | nil =>
          obtain ⟨isBracket, split⟩ := List.cons.inj equal
          exact tagAt?_eq_none_iff.1 (noTag isBracket) body closing split
      | cons d opening =>
          exact unmarked.noTag opening body closing (List.cons.inj equal).2
    · intro opening closing equal
      cases opening with
      | nil =>
          obtain ⟨isBackslash, split⟩ := List.cons.inj equal
          exact noEscape isBackslash (by rw [split]; rfl)
      | cons d opening =>
          exact unmarked.noEscape opening closing (List.cons.inj equal).2

theorem unmarked_of_no_bracket (noBracket : '[' ∉ text) : Unmarked text := by
  constructor
  · rintro opening body closing rfl
    simp at noBracket
  · rintro opening closing rfl
    simp at noBracket

theorem backslashes_append_cons :
    backslashes before ++ '\\' :: rest = backslashes (before + 1) ++ rest := by
  rw [backslashes, backslashes, List.replicate_succ', List.append_assoc, List.singleton_append]

/-- Nor do backslashes, unless an opening bracket follows them. -/
theorem unmarked_backslashes_append (notBracket : rest.head? ≠ some '[') :
    Unmarked (backslashes before ++ rest) ↔ Unmarked rest := by
  induction before with
  | zero => rfl
  | succ before inductionHypothesis =>
      have next : (backslashes before ++ rest).head? ≠ some '[' := by
        cases before with
        | zero => exact notBracket
        | succ before =>
            intro opens
            have isBackslash : '\\' = '[' := Option.some.inj opens
            cases isBackslash
      have notOpening : '\\' ≠ '[' := by decide
      have head : backslashes (before + 1) ++ rest = '\\' :: (backslashes before ++ rest) := rfl
      rw [head, unmarked_cons, inductionHypothesis]
      exact ⟨fun unmarked => unmarked.2.2,
        fun unmarked => ⟨fun opens => absurd opens notOpening, fun _ => next, unmarked⟩⟩

theorem eq_zero_of_unmarked (unmarked : Unmarked (backslashes before ++ '[' :: rest)) :
    before = 0 := by
  cases before with
  | zero => rfl
  | succ before =>
      exact absurd backslashes_append_cons.symm (unmarked.noEscape (backslashes before) rest)

/-! ## Shown text -/

/-- A text without the control characters that are not shown. -/
def visible (text : List Char) : List Char :=
  text.filter (!isSilent ·)

theorem visible_append (text rest : List Char) :
    visible (text ++ rest) = visible text ++ visible rest :=
  List.filter_append text rest

theorem visible_eq_self (heard : ∀ c ∈ text, isSilent c = false) : visible text = text :=
  List.filter_eq_self.2 fun c member => by simp [heard c member]

theorem shownPieces_plain {more : List Piece} :
    shownPieces openTags (.plain text :: more) =
      (visible text ++ ·) <$> shownPieces openTags more :=
  rfl

/-- A text in which the markup finds nothing is shown as it stands, with any tags open. -/
theorem shownPieces_of_unmarked
    (openTags : List String) (unmarked : Unmarked (backslashes before ++ text)) :
    shownPieces openTags (pieces before text) = .ok (visible (backslashes before ++ text)) := by
  fun_induction pieces before text with
  | case1 before =>
      rw [shownPieces_plain, List.append_nil, shownPieces, map_ok, List.append_nil]
  | case2 before rest inductionHypothesis =>
      rw [backslashes_append_cons] at unmarked ⊢
      exact inductionHypothesis unmarked
  | case3 before rest body after found shorter _ inductionHypothesis =>
      obtain rfl := eq_zero_of_unmarked unmarked
      have noTag := (unmarked_cons.1 unmarked).1 rfl
      rw [found] at noTag
      cases noTag
  | case4 before rest _ found inductionHypothesis =>
      obtain rfl := eq_zero_of_unmarked unmarked
      have later := inductionHypothesis (unmarked_cons.1 unmarked).2.2
      rw [shownPieces_plain, later, map_ok, ← visible_append]
      rfl
  | case5 before c rest notBackslash notBracket inductionHypothesis =>
      have notBracketNext : (c :: rest).head? ≠ some '[' := by simpa using notBracket
      have later := inductionHypothesis
        (unmarked_cons.1 ((unmarked_backslashes_append notBracketNext).1 unmarked)).2.2
      rw [shownPieces_plain, later, map_ok, ← visible_append, List.append_assoc]
      rfl

/-! ## Lost characters -/

theorem shownMarkup_of_unmarked {given : String} (unmarked : Unmarked given.toList) :
    shownMarkup given = .ok (visible given.toList) := by
  have noSlashes : Unmarked (backslashes 0 ++ given.toList) := unmarked
  exact shownPieces_of_unmarked [] noSlashes

end Tabletop.Console
