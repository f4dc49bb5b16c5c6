import Tabletop.Proofs.Prompt.Candidates
import Tabletop.Proofs.Span.Parts

/-!
# Texts in which the same is found

If all forms have the same hits in two texts, up to what a hit of the one becomes in the other, and
make the same of them, then both texts suggest the same rolls, up to what a suggestion becomes.
-/

namespace Tabletop

namespace Prompt

variable {text other : List Char} {onHit : Hit Label → Hit Label}
  {onward : Suggestion → Suggestion}

theorem Form.suggestionsIn_eq_of_scan
    {form : Form} (scanned : form.pattern.scan other = (form.pattern.scan text).map onHit)
    (makes : ∀ hit, form.make (onHit hit) = Option.map onward <$> form.make hit) :
    form.suggestionsIn other = List.map onward <$> form.suggestionsIn text := by
  rw [Form.suggestionsIn_eq_map, scanned, mapM_map_eq_map fun hit _ => makes hit,
    Form.suggestionsIn_eq_map]
  cases (form.pattern.scan text).mapM form.make with
  | error fault => rfl
  | ok options => exact congrArg Except.ok (filterMap_id_map onward options)

theorem candidates_eq_of_scan
    (scanned : ∀ form ∈ Form.all, form.pattern.scan other = (form.pattern.scan text).map onHit)
    (makes : ∀ form hit, form.make (onHit hit) = Option.map onward <$> Form.make form hit) :
    candidates other = List.map onward <$> candidates text := by
  have lists :
      (Form.all.map id).mapM (fun form => form.suggestionsIn other) =
        List.map (List.map onward) <$> Form.all.mapM fun form => form.suggestionsIn text :=
    mapM_map_eq_map fun form listed =>
      Form.suggestionsIn_eq_of_scan (scanned form listed) (makes form)
  rw [List.map_id] at lists
  rw [candidates, lists, candidates]
  cases Form.all.mapM fun form => form.suggestionsIn text with
  | error fault => rfl
  | ok lists => exact congrArg Except.ok List.map_flatten.symm

end Prompt

open Prompt

/-- The suggestions of a text in which all hits have become others, some places further on. -/
theorem suggestions_eq_of_scan
    {text other : String} {onHit : Hit Label → Hit Label} {onward : Suggestion → Suggestion}
    {places : Nat}
    (scanned : ∀ form ∈ Form.all,
      form.pattern.scan other.toList = (form.pattern.scan text.toList).map onHit)
    (makes : ∀ form hit, form.make (onHit hit) = Option.map onward <$> Form.make form hit)
    (spans : ∀ suggestion, (onward suggestion).span = suggestion.span.later places) :
    suggestions other = List.map onward <$> suggestions text := by
  rw [suggestions, candidates_eq_of_scan scanned makes, suggestions]
  cases candidates text.toList with
  | error fault => rfl
  | ok all => exact congrArg Except.ok (chooseDisjoint_map spans all)

end Tabletop
