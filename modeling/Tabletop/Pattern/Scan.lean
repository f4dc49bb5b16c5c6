import Tabletop.Pattern
import Tabletop.Span

/-!
Finding a pattern in a text: its first match, or all its matches from left to right, each starting
where the one before it ended or later.
-/

namespace Tabletop

/-- A match in a text. -/
structure Hit (ι : Type) where
  span : Span
  text : List Char
  marks : Marks ι
deriving DecidableEq, Repr

namespace Hit

variable {ι : Type} [BEq ι]

/-- The text of a marked part. -/
def mark? (hit : Hit ι) (label : ι) : Option String :=
  (hit.marks.lookup label).map String.ofList

end Hit

namespace Pattern

variable {ι : Type}

/-- The preferred match at a place. -/
def hitAt? (pattern : Pattern ι) (place : Cursor) : Option (Hit ι) :=
  pattern.seek place fun stop marks =>
    some ⟨⟨place.offset, stop.offset - place.offset⟩, place.textTo stop, marks ()⟩

/-- The first match from a place on. -/
def searchFrom (pattern : Pattern ι) : Nat → Option Char → List Char → Option (Hit ι)
  | offset, before, [] => pattern.hitAt? ⟨offset, before, []⟩
  | offset, before, c :: rest =>
      match pattern.hitAt? ⟨offset, before, c :: rest⟩ with
      | some hit => some hit
      | none => searchFrom pattern (offset + 1) (some c) rest

/-- The first match in a text. -/
def search? (pattern : Pattern ι) (text : List Char) : Option (Hit ι) :=
  pattern.searchFrom 0 none text

/-- Whether a pattern occurs in a text. -/
def occursIn (pattern : Pattern ι) (text : List Char) : Bool :=
  (pattern.search? text).isSome

/-- All matches from a place on, given the number of characters that still belong to the match
before. -/
def scanFrom (pattern : Pattern ι) : Nat → Nat → Option Char → List Char → List (Hit ι)
  | _, _, _, [] => []
  | covered + 1, offset, _, c :: rest => scanFrom pattern covered (offset + 1) (some c) rest
  | 0, offset, before, c :: rest =>
      match pattern.hitAt? ⟨offset, before, c :: rest⟩ with
      | some hit =>
          hit :: scanFrom pattern (hit.span.length - 1) (offset + 1) (some c) rest
      | none => scanFrom pattern 0 (offset + 1) (some c) rest

/-- All matches in a text, from left to right. -/
def scan (pattern : Pattern ι) (text : List Char) : List (Hit ι) :=
  pattern.scanFrom 0 0 none text

end Pattern

end Tabletop
