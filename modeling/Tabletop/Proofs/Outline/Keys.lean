import Tabletop.Proofs.Compendium.Lookup
import Tabletop.Proofs.Outline
import Tabletop.Proofs.Text.Case

/-!
# Keys in written texts

Where a key can stand in the texts that write an outline is told token by token. A name that is
written out in such a text is found there, unless a longer key can stand in it as well.
-/

namespace Tabletop

open Numeral Text

/-! ## Where a key can stand -/

/-- A small form of a character that a token holds. -/
def Token.mayHold : Token → Char → Bool
  | .letter d, c => c == d
  | .sign d, c => c == d.toLower
  | .gap, c => isBlank c
  | .numeral _, c | .figures, c => isDigit c

namespace Outline

/-- Whether a key can stand at the front of the texts that write an outline. -/
def mayOpen : List Char → Outline → Bool
  | [], _ => true
  | _ :: _, [] => false
  | c :: key, token :: rest =>
      token.mayHold c &&
        (mayOpen key rest || token.inner?.any fun inner => mayOpen key (inner :: rest))

/-- Whether a key can stand anywhere in the texts that write an outline. -/
def mayHold (key : List Char) : Outline → Bool
  | [] => key.isEmpty
  | token :: rest =>
      mayOpen key (token :: rest) || (token.inner?.any fun inner => mayOpen key (inner :: rest)) ||
        mayHold key rest

end Outline

section

variable {numbers : Nat → List Char} {outline : Outline} {text : List Char}
variable (isRun : ∀ index, IsRun (numbers index))

theorem Token.mayHold_of_holds {token : Token} {x : Char} (held : token.Holds x) :
    token.mayHold x.toLower = true := by
  cases token with
  | letter c => exact beq_iff_eq.2 held
  | sign c => exact beq_iff_eq.2 (congrArg Char.toLower held)
  | gap =>
      rw [mayHold, toLower_of_isBlank held]
      exact held
  | numeral index =>
      rw [mayHold, toLower_of_isDigit held]
      exact held
  | figures =>
      rw [mayHold, toLower_of_isDigit held]
      exact held

include isRun

theorem Outline.mayOpen_of_written
    {part more : List Char} (written : outline.WrittenAs numbers (part ++ more)) :
    outline.mayOpen (part.map Char.toLower) = true := by
  induction part generalizing outline with
  | nil => cases outline <;> rfl
  | cons x part inductionHypothesis =>
      cases outline with
      | nil => cases writtenAs_nil_iff.1 written
      | cons token rest =>
          obtain ⟨first, others, isToken, isRest, whole⟩ := writtenAs_cons_iff.1 written
          obtain ⟨y, inside, rfl⟩ := List.exists_cons_of_ne_nil (isToken.nonempty isRun)
          obtain ⟨rfl, same⟩ := List.cons.inj whole
          have held := Token.mayHold_of_holds (isToken.holds isRun x (by simp))
          rw [List.map_cons, mayOpen, held, Bool.true_and, Bool.or_eq_true]
          cases inside with
          | nil =>
              obtain rfl : part ++ more = others := same
              exact Or.inl (inductionHypothesis isRest)
          | cons z inside =>
              have isSplit : token.WrittenAs numbers ([x] ++ z :: inside) := isToken
              obtain ⟨inner, isInner, isRestOf⟩ := isSplit.exists_inner isRun
                (List.cons_ne_nil x []) (List.cons_ne_nil z inside)
              have goesOn : WrittenAs numbers (inner :: rest) (part ++ more) :=
                writtenAs_cons_iff.2 ⟨z :: inside, others, isRestOf, isRest, same⟩
              rw [isInner]
              exact Or.inr (inductionHypothesis goesOn)

theorem Outline.mayHold_of_written
    {opening part closing : List Char}
    (written : outline.WrittenAs numbers (opening ++ (part ++ closing))) :
    outline.mayHold (part.map Char.toLower) = true := by
  induction outline generalizing opening with
  | nil =>
      have nothing := writtenAs_nil_iff.1 written
      simp only [List.append_eq_nil_iff] at nothing
      rw [nothing.2.1]
      rfl
  | cons token rest inductionHypothesis =>
      rw [mayHold, Bool.or_eq_true, Bool.or_eq_true]
      by_cases atFront : opening = []
      · subst atFront
        exact Or.inl (Or.inl (mayOpen_of_written isRun written))
      · obtain ⟨first, others, isToken, isRest, whole⟩ := writtenAs_cons_iff.1 written
        rcases List.append_eq_append_iff.1 whole with
          ⟨behind, rfl, same⟩ | ⟨ahead, rfl, same⟩
        · cases behind with
          | nil =>
              have atEnd : WrittenAs numbers rest ([] ++ (part ++ closing)) := by
                rw [same]
                exact isRest
              exact Or.inr (inductionHypothesis atEnd)
          | cons z behind =>
              obtain ⟨inner, isInner, isRestOf⟩ := isToken.exists_inner isRun atFront
                (List.cons_ne_nil z behind)
              have goesOn : WrittenAs numbers (inner :: rest) (part ++ closing) :=
                writtenAs_cons_iff.2 ⟨z :: behind, others, isRestOf, isRest, same⟩
              rw [isInner]
              exact Or.inl (Or.inr (mayOpen_of_written isRun goesOn))
        · rw [same] at isRest
          exact Or.inr (inductionHypothesis isRest)

omit isRun

/-! ## Names that are spelled out -/

/-- The token for a character of a name that is spelled out. -/
def Token.ofSpelling (c : Char) : Token :=
  if c.isLower then .letter c else .sign c

/-- The outline of a name of which only the case of the letters is open. -/
def spelled (name : String) : Outline :=
  name.toList.map Token.ofSpelling

theorem map_toLower_of_spelled
    {name : String} (small : ∀ c ∈ name.toList, c.toLower = c)
    (written : (spelled name).WrittenAs numbers text) :
    text.map Char.toLower = name.toList := by
  unfold spelled at written
  generalize name.toList = letters at small written ⊢
  induction letters generalizing text with
  | nil => simp [Outline.writtenAs_nil_iff.1 written]
  | cons c letters inductionHypothesis =>
      rw [List.forall_mem_cons] at small
      obtain ⟨part, more, isToken, isRest, rfl⟩ := Outline.writtenAs_cons_iff.1 written
      have first : part.map Char.toLower = [c] := by
        rw [Token.ofSpelling] at isToken
        split at isToken
        · exact isToken
        · rw [show part = [c] from isToken, List.map_singleton, small.1]
      rw [List.map_append, first, inductionHypothesis small.2 isRest]
      rfl

/-- Whether the characters that a token holds have their plain small forms in every text. -/
def Token.lowersAlone : Token → Bool
  | .letter c => c.isLower
  | .sign c => Text.lowersAlone c
  | .gap | .numeral _ | .figures => true

theorem Token.lowersAlone_of_holds
    {token : Token} {x : Char} (alone : token.lowersAlone = true) (held : token.Holds x) :
    Text.lowersAlone x = true := by
  cases token with
  | letter c =>
      obtain rfl : x.toLower = c := held
      exact lowersAlone_of_plain (plain_of_isLower_toLower alone)
  | sign c =>
      obtain rfl : x = c := held
      exact alone
  | gap => exact lowersAlone_of_isBlank held
  | numeral index => exact lowersAlone_of_isDigit held
  | figures => exact lowersAlone_of_isDigit held

/-- A key is sure to be found in the texts of an outline: it is spelled out behind white space or
at the front, and no other key that is as long can stand there. -/
def singlesOut (keys : List String) (opening : Outline) (key : String) (closing : Outline) : Bool :=
  let outline := opening ++ (spelled key ++ closing)
  key ∈ keys && (key.toList.all fun c => c.toLower == c) &&
    (opening.getLast?.all fun token => token == .gap) && outline.all Token.lowersAlone &&
    keys.all fun other =>
      other == key || decide (other.length < key.length) || !outline.mayHold other.toList

include isRun in
theorem isBest_of_singlesOut
    {keys : List String} {opening closing : Outline} {key : String} {text : String}
    (singles : singlesOut keys opening key closing = true)
    (written : Outline.WrittenAs numbers (opening ++ (spelled key ++ closing)) text.toList) :
    Entries.IsBest keys (Text.lower text) key := by
  simp only [singlesOut, Bool.and_eq_true, decide_eq_true_eq, List.all_eq_true, Bool.or_eq_true,
    beq_iff_eq, Bool.not_eq_true'] at singles
  obtain ⟨⟨⟨⟨listed, small⟩, behindGap⟩, alone⟩, others⟩ := singles
  have lowered : (Text.lower text).toList = text.toList.map Char.toLower := by
    have each : ∀ c ∈ text.toList, Text.lowersAlone c = true := by
      intro c member
      obtain ⟨token, inOutline, held⟩ := written.exists_holds isRun c member
      exact Token.lowersAlone_of_holds (alone token inOutline) held
    have lowered := lower_eq_map each
    rw [String.ofList_toList] at lowered
    rw [lowered, String.toList_ofList]
  refine ⟨listed, ?_, ?_⟩
  · obtain ⟨front, _, isFront, isMore, split⟩ := Outline.writtenAs_append_iff.1 written
    obtain ⟨name, behind, isName, -, rfl⟩ := Outline.writtenAs_append_iff.1 isMore
    refine ⟨front.map Char.toLower, behind.map Char.toLower, ?_, ?_⟩
    · rw [lowered, split, List.map_append, List.map_append, map_toLower_of_spelled small isName]
    · intro c isSmall
      rw [List.getLast?_map] at isSmall
      obtain ⟨x, isLast, rfl⟩ := Option.map_eq_some_iff.1 isSmall
      have related := isFront.rel_getLast? isRun
      rw [isLast] at related
      generalize opening.getLast? = last at related behindGap
      cases related with
      | @some token _ held =>
          obtain rfl : token = .gap := beq_iff_eq.1 behindGap
          have blank : isBlank x = true := held
          cases small : x.toLower.isLower with
          | false => rfl
          | true =>
              rw [toLower_of_isBlank blank] at small
              rw [isBlank_of_isLower small] at blank
              cases blank
  · intro other otherListed occurs
    rcases others other otherListed with (same | shorter) | absent
    · exact Or.inr ⟨congrArg String.length same, Nat.le_of_eq (congrArg keys.idxOf same.symm)⟩
    · exact Or.inl shorter
    · obtain ⟨opened, closed, split, -⟩ := occurs
      rw [lowered] at split
      obtain ⟨front, _, whole, rfl, more⟩ := List.map_eq_append_iff.1 split
      obtain ⟨part, behind, rfl, isPart, rfl⟩ := List.map_eq_append_iff.1 more
      rw [whole] at written
      rw [← isPart, Outline.mayHold_of_written isRun written] at absent
      cases absent

end

end Tabletop
