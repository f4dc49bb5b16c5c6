import Tabletop.Glossary
import Tabletop.Proofs.Pattern.Caseless
import Tabletop.Proofs.Prompt.Transfer

/-!
# Prompts without capitals

A text without its capitals suggests the same rolls and mentions the same terms at the same places;
only the texts that are shown of it are without capitals too.
-/

namespace Tabletop

open Pattern

/-- A suggestion that shows its prompt without capitals. -/
def Suggestion.small (suggestion : Suggestion) : Suggestion :=
  { suggestion with description := Text.small suggestion.description }

/-- A reference that shows its term without capitals. -/
def RuleReference.small (reference : RuleReference) : RuleReference :=
  { reference with term := Text.small reference.term }

namespace Prompt

/-! ## Readings -/

/-- A reading whose names are without capitals. -/
def Reading.small (reading : Reading) : Reading :=
  { reading with
    name := reading.name.map Text.small
    ability := reading.ability.map Text.small
    skill := reading.skill.map Text.small }

theorem Form.ignoresCase : ∀ form ∈ Form.all, form.pattern.ignoresCase = true := by
  decide

theorem number?_map_small (part : Option String) :
    number? (part.map Text.small) = number? part := by
  cases part with
  | none => rfl
  | some digits => simp only [Option.map_some, number?, Text.toList_small, readNat_map_toLower]

theorem compact_small (text : String) : compact (Text.small text) = compact text := by
  have noBlanks :
      (text.toList.map Char.toLower).filter (fun c => !Text.isBlank c) =
        (text.toList.filter fun c => !Text.isBlank c).map Char.toLower := by
    simp only [List.filter_map, Function.comp_def, Text.isBlank_toLower]
  rw [compact, compact, Text.toList_small, noBlanks, ← Text.small_ofList, Text.lower_small]

theorem bracketName_map_toLower (body : List Char) :
    bracketName (body.map Char.toLower) = Text.small (bracketName body) := by
  have addedIgnores : addedName.ignoresCase = true := by decide
  have abilityIgnores : abilityWord.ignoresCase = true := by decide
  simp only [bracketName, mark?_search?_small addedIgnores, mark?_search?_small abilityIgnores,
    Option.filter_map, Function.comp_def, Ability.governing?_small]
  cases ((addedName.search? body).bind (·.mark? .name)).filter
      fun name => (Ability.governing? name).isSome with
  | some name => rfl
  | none => cases (abilityWord.search? body).bind (·.mark? .name) <;> rfl

theorem Form.read_small (form : Form) (hit : Hit Label) :
    form.read hit.small = Reading.small <$> form.read hit := by
  unfold Form.read
  split
  · have body :
        (((hit.mark? .body).map Text.small).getD "").toList =
          ((hit.mark? .body).getD "").toList.map Char.toLower := by
      cases hit.mark? .body with
      | none => rfl
      | some body => exact Text.toList_small body
    simp only [readBracket, Hit.mark?_small, body, bracketName_map_toLower, number?_map_small]
    cases number? (hit.mark? .difficulty) <;> rfl
  · simp only [readMarked, Hit.mark?_small, ← Option.map_or, number?_map_small, Option.map_map,
      Function.comp_def, compact_small, Text.lower_small]
    cases number? ((hit.mark? .difficulty).or (hit.mark? .trailingDifficulty)) with
    | error fault => rfl
    | ok difficulty => cases number? (hit.mark? .armorClass) <;> rfl

/-! ## Suggestions -/

theorem Reading.skillName?_small (reading : Reading) (kind : SuggestionKind) :
    reading.small.skillName? kind = reading.skillName? kind := by
  simp only [skillName?, small, Option.map_map, Function.comp_def, Skill.normalForm_small]
  cases reading.name with
  | none => rfl
  | some name =>
      simp only [Option.map_some, Ability.ofName?_small, Skill.ofName?_small,
        Skill.normalForm_small]

theorem Reading.ability?_small (reading : Reading) (kind : SuggestionKind) :
    reading.small.ability? kind = reading.ability? kind := by
  simp only [ability?, skillName?_small]
  simp only [small, Option.bind_map, Function.comp_def, Ability.ofName?_small]

theorem Form.suggestion?_small (form : Form) (hit : Hit Label) (reading : Reading) :
    form.suggestion? hit.small reading.small =
      (form.suggestion? hit reading).map Suggestion.small := by
  have shown : String.ofList hit.small.text = Text.small (String.ofList hit.text) :=
    (Text.small_ofList hit.text).symm
  simp only [Form.suggestion?, Reading.ability?_small, Reading.skillName?_small, shown]
  split
  · rfl
  · rw [Option.map_map]
    rfl

theorem Form.make_small (form : Form) (hit : Hit Label) :
    form.make hit.small = Option.map Suggestion.small <$> form.make hit := by
  rw [Form.make, Form.read_small, Form.make]
  cases form.read hit with
  | error fault => rfl
  | ok reading => exact congrArg Except.ok (form.suggestion?_small hit reading)

end Prompt

theorem suggestions_small (text : String) :
    suggestions (Text.small text) = List.map Suggestion.small <$> suggestions text := by
  have scanned : ∀ form ∈ Prompt.Form.all,
      form.pattern.scan (Text.small text).toList =
        (form.pattern.scan text.toList).map Hit.small := by
    intro form listed
    rw [Text.toList_small]
    exact scan_map_toLower (Prompt.Form.ignoresCase form listed) text.toList
  have sameSpan : ∀ suggestion : Suggestion,
      suggestion.small.span = suggestion.span.later 0 := fun _ => rfl
  exact suggestions_eq_of_scan scanned (fun form hit => form.make_small hit) sameSpan

/-! ## References -/

theorem Glossary.ignoresCase : ∀ term ∈ terms, term.pattern.ignoresCase = true := by
  have all : (terms.all fun term => term.pattern.ignoresCase) = true := by
    decide
  exact List.all_eq_true.1 all

theorem Glossary.mentions_map_toLower (text : List Char) :
    mentions (text.map Char.toLower) = (mentions text).map RuleReference.small := by
  rw [mentions, mentions, List.map_flatMap, List.flatMap_def, List.flatMap_def]
  refine congrArg List.flatten (List.map_congr_left fun term listed => ?_)
  rw [scan_map_toLower (ignoresCase term listed), List.map_map, List.map_map]
  refine List.map_congr_left fun hit _ => ?_
  simp only [Function.comp_apply, RuleReference.small, Text.small_ofList]
  rfl

theorem ruleReferences_small (text : String) :
    ruleReferences (Text.small text) = (ruleReferences text).map RuleReference.small := by
  have sameSpan : ∀ reference : RuleReference,
      reference.small.span = reference.span.later 0 := fun _ => rfl
  rw [ruleReferences, Text.toList_small, Glossary.mentions_map_toLower, ruleReferences,
    chooseDisjoint_map sameSpan]

end Tabletop
