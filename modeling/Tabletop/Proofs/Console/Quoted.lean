import Mathlib.Data.Bool.AllAny
import Tabletop.Proofs.Console.Markup
import Tabletop.Proofs.Text.Quoted

/-!
# Markup in quoted text

Quoting a text neither adds nor hides a tag: brackets and the characters with which a tag begins
stand as themselves inside quotes. A backslash is written twice, which leaves one before a bracket.
-/

namespace Tabletop.Console

open Tabletop.Text

variable {c d quote : Char} {text : List Char}

theorem heard_of_mem_quoted (member : d ∈ quoted text) : isSilent d = false := by
  have visible := le_toNat_of_mem_quoted member
  simp only [isSilent, List.contains_eq_mem, List.mem_cons, List.not_mem_nil, or_false,
    decide_eq_false_iff_not]
  omega

theorem visible_quoted : visible (quoted text) = quoted text :=
  visible_eq_self fun _ member => heard_of_mem_quoted member

end Tabletop.Console
