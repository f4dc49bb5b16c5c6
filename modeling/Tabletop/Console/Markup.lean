import Tabletop.Fault
import Tabletop.Text.Case

/-!
Markup: tags in square brackets give a style to the text between them and are not shown. A tag
opens with a small letter, `#`, `/` or `@`; a backslash before it makes it plain text.
-/

namespace Tabletop.Console

open Tabletop.Text

/-! ## Pieces -/

/-- A piece of marked text. -/
inductive Piece where
  | plain (text : List Char)
  /-- A tag, with what stands between its brackets. -/
  | tag (body : List Char)
deriving DecidableEq, Repr

/-- Whether a tag may begin with a character. -/
def opensTag (c : Char) : Bool :=
  ('a' ≤ c && c ≤ 'z') || c = '#' || c = '/' || c = '@'

/-- The text up to a closing bracket that no opening bracket precedes, and what follows it. -/
def untilClose? : List Char → Option (List Char × List Char)
  | [] => none
  | c :: rest =>
      if c = ']' then some ([], rest)
      else if c = '[' then none
      else (untilClose? rest).map fun (body, after) => (c :: body, after)

theorem length_lt_of_untilClose? {text body after : List Char}
    (found : untilClose? text = some (body, after)) : after.length < text.length := by
  induction text generalizing body with
  | nil => simp [untilClose?] at found
  | cons c rest inductive_step =>
      simp only [untilClose?] at found
      split at found
      · simp only [Option.some.injEq, Prod.mk.injEq] at found
        simp [found.2]
      · split at found
        · simp at found
        · obtain ⟨⟨inner, last⟩, innerFound, equal⟩ := Option.map_eq_some_iff.1 found
          simp only [Prod.mk.injEq] at equal
          have := inductive_step (equal.2 ▸ innerFound)
          simp only [List.length_cons]
          omega

/-- The tag that opens a text behind its bracket, and what follows it. -/
def tagAt? (text : List Char) : Option (List Char × List Char) :=
  if text.head?.any opensTag then untilClose? text else none

theorem length_lt_of_tagAt? {text body after : List Char}
    (found : tagAt? text = some (body, after)) : after.length < text.length := by
  unfold tagAt? at found
  split at found
  · exact length_lt_of_untilClose? found
  · simp at found

/-- A number of backslashes. -/
def backslashes (count : Nat) : List Char :=
  List.replicate count '\\'

/-- The pieces of marked text, given how many backslashes precede it. Two backslashes before a tag
stand for one, and an odd one out makes the tag plain; before any other opening bracket one
backslash is dropped. -/
def pieces (before : Nat) (text : List Char) : List Piece :=
  match text with
  | [] => [.plain (backslashes before)]
  | c :: rest =>
      if c = '\\' then pieces (before + 1) rest
      else if c = '[' then
        match found : tagAt? rest with
        | some (body, after) =>
            have := length_lt_of_tagAt? found
            .plain (backslashes (before / 2)) ::
              (if before % 2 = 1 then .plain ('[' :: body ++ [']']) else .tag body) ::
              pieces 0 after
        | none => .plain (backslashes (before - 1) ++ ['[']) :: pieces 0 rest
      else .plain (backslashes before ++ [c]) :: pieces 0 rest
termination_by text.length

/-! ## Tags -/

/-- The styles of letters, each with its short name, in the order in which they are named. -/
def letterStyles : List (String × String) := [
  ("bold", "b"), ("dim", "d"), ("italic", "i"), ("underline", "u"), ("blink", "blink"),
  ("blink2", "blink2"), ("reverse", "r"), ("conceal", "c"), ("strike", "s"), ("underline2", "uu"),
  ("frame", "frame"), ("encircle", "encircle"), ("overline", "o")]

/-- The style of letters with a name. -/
def letterStyle? (name : String) : Option String :=
  (letterStyles.find? fun style => style.1 == name || style.2 == name).map Prod.fst

/-- The one spelling of the name of a tag: styles of letters by their full names and in their order,
any other name in small letters. -/
def tagForm (name : List Char) : String :=
  let lowered := lower (String.ofList (trim name))
  let named := (words lowered.toList).map fun word => letterStyle? (String.ofList word)
  if !named.isEmpty && named.all Option.isSome then
    " ".intercalate ((letterStyles.map Prod.fst).filter fun style => named.contains (some style))
  else lowered

/-- The open tags, innermost first, after a tag: one with a slash closes the innermost, or the
innermost of the name that it gives, and any other is opened itself. -/
def stepTag (openTags : List String) (body : List Char) : Except Fault (List String) :=
  match body.takeWhile (· != '=') with
  | '/' :: name =>
      if (trim name).isEmpty then
        if openTags.isEmpty then .error .unmatchedTag else .ok openTags.tail
      else if openTags.contains (tagForm name) then .ok (openTags.erase (tagForm name))
      else .error .unmatchedTag
  | name => .ok (tagForm name :: openTags)

/-! ## Shown text -/

/-- The control characters that are not shown. -/
def isSilent (c : Char) : Bool :=
  [0x07, 0x08, 0x0b, 0x0c, 0x0d].contains c.toNat

/-- The text that pieces show, given the tags that are open. -/
def shownPieces : List String → List Piece → Except Fault (List Char)
  | _, [] => .ok []
  | openTags, .plain text :: rest =>
      (text.filter (!isSilent ·) ++ ·) <$> shownPieces openTags rest
  | openTags, .tag body :: rest => do
      let openTags ← stepTag openTags body
      shownPieces openTags rest

/-- The text that marked text shows; a tag that closes nothing is a fault. -/
def shownMarkup (text : String) : Except Fault (List Char) :=
  shownPieces [] (pieces 0 text.toList)

end Tabletop.Console
