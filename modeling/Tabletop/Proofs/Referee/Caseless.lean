import Tabletop.Proofs.Outcome.Stages
import Tabletop.Proofs.Prompt.Caseless
import Tabletop.Referee

/-!
# Actions without capitals

An action that is described without capitals is resolved in the same way and with the same draws;
only the description that the outcome shows is without capitals too. So case never matters.
-/

namespace Tabletop

open Pattern

/-- An outcome that shows its description without capitals. -/
def Outcome.small (outcome : Outcome) : Outcome :=
  { outcome with description := Text.small outcome.description }

theorem Outcome.small_withRolls
    (outcome : Outcome) (test : Option Test) (harm relief : Option Roll) :
    (outcome.withRolls test harm relief).small = outcome.small.withRolls test harm relief := by
  cases test <;> cases harm <;> cases relief <;> rfl

/-! ## Requests -/

theorem CheckRequest.resolve_small
    (request : CheckRequest) (character : Character) (proficiency : Int) :
    ({ request with description := Text.small request.description }).resolve character
        proficiency =
      Outcome.small <$> request.resolve character proficiency := by
  simp only [CheckRequest.resolve, CheckRequest.bonus_restated, map_bind, map_pure]
  simp only [Outcome.small, CheckRequest.key]

theorem AttackRequest.weaponIn_small
    (compendium : Compendium) (text : String) (texts : List (Option String)) :
    weaponIn compendium (some (Text.small text) :: texts) =
      weaponIn compendium (some text :: texts) := by
  have found : compendium.findWeapon? (Text.small text) = compendium.findWeapon? text :=
    Entries.find?_small compendium.weapons text
  cases empty : text.isEmpty with
  | true =>
      have left : Text.nonEmpty? (some (Text.small text)) = none := by
        simp only [Text.nonEmpty?, Option.filter_some, Text.isEmpty_small, empty]
        rfl
      have right : Text.nonEmpty? (some text) = none := by
        simp only [Text.nonEmpty?, Option.filter_some, empty]
        rfl
      rw [weaponIn, weaponIn, List.filterMap_cons_none left, List.filterMap_cons_none right]
  | false =>
      have left : Text.nonEmpty? (some (Text.small text)) = some (Text.small text) := by
        simp only [Text.nonEmpty?, Option.filter_some, Text.isEmpty_small, empty]
        rfl
      have right : Text.nonEmpty? (some text) = some text := by
        simp only [Text.nonEmpty?, Option.filter_some, empty]
        rfl
      simp only [weaponIn, List.filterMap_cons_some left, List.filterMap_cons_some right,
        List.findSome?_cons, found, List.isEmpty_cons]

theorem AttackRequest.resolve_small
    (request : AttackRequest) (compendium : Compendium) (text : String)
    (texts : List (Option String)) (character : Character) (proficiency : Int) :
    ({ request with description := Text.small request.description }).resolve compendium
        (some (Text.small text) :: texts) character proficiency =
      Outcome.small <$>
        request.resolve compendium (some text :: texts) character proficiency := by
  have sameRoll :
      ({ request with description := Text.small request.description }).rollFor =
        request.rollFor := by
    funext weapon modifier critical
    simp only [rollFor]
  simp only [AttackRequest.resolve, weaponIn_small, sameRoll, map_bind]
  refine bind_congr fun test => ?_
  have shown (outcome : Outcome) (damage : Option Roll) :
      ((outcome.withTest test).withDamage damage).small =
        (outcome.small.withTest test).withDamage damage :=
    outcome.small_withRolls (some test) damage none
  split <;>
    · rw [map_bind]
      refine bind_congr fun damage => ?_
      rw [map_pure, shown]
      rfl

theorem CastRequest.announced_small (request : CastRequest) (score proficiency : Int) :
    ({ request with description := Text.small request.description }).announced score
        proficiency =
      (request.announced score proficiency).small := by
  simp only [announced, slotTaken]
  cases request.spell.savingThrow <;> rfl

theorem CastRequest.resolve_small
    (request : CastRequest) (character : Character) (proficiency : Int) :
    ({ request with description := Text.small request.description }).resolve character
        proficiency =
      Outcome.small <$> request.resolve character proficiency := by
  have sameHit :
      ({ request with description := Text.small request.description }).rollToHit =
        request.rollToHit := by
    funext score proficiency
    simp only [rollToHit]
  have sameHarm :
      ({ request with description := Text.small request.description }).rollHarm =
        request.rollHarm := by
    funext test modifier level
    simp only [rollHarm, slotTaken]
  have sameRelief :
      ({ request with description := Text.small request.description }).rollRelief =
        request.rollRelief := by
    funext modifier level
    simp only [rollRelief, slotTaken]
  rw [CastRequest.resolve, sameHit, sameHarm, sameRelief, announced_small, CastRequest.resolve,
    map_bind]
  refine bind_congr fun test => ?_
  rw [map_bind]
  refine bind_congr fun harm => ?_
  rw [map_bind]
  refine bind_congr fun relief => ?_
  exact congrArg pure (Outcome.small_withRolls _ test harm relief).symm

/-! ## Words -/

namespace Wording

theorem ignoresCase_words :
    weaponVerb.ignoresCase = true ∧ spellWord.ignoresCase = true ∧
      saveWord.ignoresCase = true ∧ named.ignoresCase = true := by
  decide

theorem ignoresCase_numbers :
    slotLevel.ignoresCase = true ∧ armorClass.ignoresCase = true ∧
      difficulty.ignoresCase = true := by
  decide

theorem numberIn_map_toLower
    {pattern : Pattern Unit} (ignores : pattern.ignoresCase = true) (text : List Char) :
    numberIn pattern (text.map Char.toLower) = numberIn pattern text := by
  rw [numberIn, mark?_search?_small ignores, numberIn]
  cases (pattern.search? text).bind (·.mark? ()) with
  | none => rfl
  | some digits => simp only [Option.map_some, Text.toList_small, readNat_map_toLower]

end Wording

/-! ## Actions -/

namespace Referee

theorem resolveNamed_small
    (text : String) (character : Character) (proficiency : Int) (notes : List String) :
    resolveNamed (Text.small text) character proficiency notes =
      Outcome.small <$> resolveNamed text character proficiency notes := by
  obtain ⟨-, -, saveIgnores, namedIgnores⟩ := Wording.ignoresCase_words
  obtain ⟨-, -, difficultyIgnores⟩ := Wording.ignoresCase_numbers
  simp only [resolveNamed, Text.toList_small, mark?_search?_small namedIgnores,
    occursIn_map_toLower saveIgnores, Wording.numberIn_map_toLower difficultyIgnores]
  cases (Wording.named.search? text.toList).bind (·.mark? ()) with
  | none => rfl
  | some found =>
      simp only [Option.map_some, Text.lower_small, map_bind]
      refine bind_congr fun difficulty => ?_
      rw [← CheckRequest.resolve_small]

theorem resolveArmed_small
    (referee : Referee) (text : String) (character : Character) (proficiency : Int)
    (notes : List String) :
    referee.resolveArmed (Text.small text) character proficiency notes =
      Outcome.small <$> referee.resolveArmed text character proficiency notes := by
  obtain ⟨weaponIgnores, -⟩ := Wording.ignoresCase_words
  obtain ⟨-, armorIgnores, -⟩ := Wording.ignoresCase_numbers
  simp only [resolveArmed, Text.toList_small, occursIn_map_toLower weaponIgnores,
    Wording.numberIn_map_toLower armorIgnores]
  split
  · rw [map_bind]
    refine bind_congr fun target => ?_
    rw [← AttackRequest.resolve_small]
  · exact resolveNamed_small text character proficiency notes

theorem resolveFree_small
    (referee : Referee) (text : String) (character : Character) (override : Option Int) :
    referee.resolveFree (Text.small text) character override =
      Outcome.small <$> referee.resolveFree text character override := by
  obtain ⟨-, spellIgnores, -⟩ := Wording.ignoresCase_words
  obtain ⟨slotIgnores, armorIgnores, -⟩ := Wording.ignoresCase_numbers
  have found : referee.compendium.findSpell? (Text.small text) =
      referee.compendium.findSpell? text :=
    Entries.find?_small referee.compendium.spells text
  simp only [resolveFree, Text.toList_small, occursIn_map_toLower spellIgnores, found,
    Wording.numberIn_map_toLower slotIgnores, Wording.numberIn_map_toLower armorIgnores]
  split
  · cases referee.compendium.findSpell? text with
    | none => exact resolveArmed_small referee text character _ _
    | some spell =>
        rw [map_bind]
        refine bind_congr fun slot => ?_
        rw [map_bind]
        refine bind_congr fun target => ?_
        rw [← CastRequest.resolve_small]
  · exact resolveArmed_small referee text character _ []

end Referee

/-! ## Texts that differ in case -/

/-- Of two texts that differ only in the case of plain letters the suggestions, the references and
the outcomes of what they describe differ only in the case of what they show of the text. Resolving
them takes the same draws, and if it fails it fails alike. -/
theorem case_never_matters
    (one other : String)
    (sameLetters : one.toList.map Char.toLower = other.toList.map Char.toLower) :
    List.map Suggestion.small <$> suggestions one =
        List.map Suggestion.small <$> suggestions other ∧
      (ruleReferences one).map RuleReference.small =
        (ruleReferences other).map RuleReference.small ∧
      ∀ (referee : Referee) (character : Character) (override : Option Int) (tray : Tray),
        Outcome.small <$> (referee.resolveFree one character override tray).1 =
            Outcome.small <$> (referee.resolveFree other character override tray).1 ∧
          (referee.resolveFree one character override tray).2 =
            (referee.resolveFree other character override tray).2 := by
  have same : Text.small one = Text.small other := congrArg String.ofList sameLetters
  refine ⟨?_, ?_, fun referee character override tray => ?_⟩
  · rw [← suggestions_small, same, suggestions_small]
  · rw [← ruleReferences_small, same, ruleReferences_small]
  · have resolved :
        (Outcome.small <$> referee.resolveFree one character override) tray =
          (Outcome.small <$> referee.resolveFree other character override) tray := by
      rw [← referee.resolveFree_small, same, referee.resolveFree_small]
    rw [Rolling.map_run, Rolling.map_run] at resolved
    exact Prod.mk.inj resolved

/-- A check that is asked for quietly and loudly. -/
theorem case_never_matters_for_a_loud_check :
    "a Stealth check".toList.map Char.toLower = "A STEALTH check".toList.map Char.toLower ∧
      ∃ quiet loud,
        suggestions "a Stealth check" = .ok [quiet] ∧
          suggestions "A STEALTH check" = .ok [loud] ∧ quiet.small = loud.small := by
  have sameLetters :
      "a Stealth check".toList.map Char.toLower = "A STEALTH check".toList.map Char.toLower := by
    decide
  have quietFound : ∃ quiet, suggestions "a Stealth check" = .ok [quiet] := ⟨_, rfl⟩
  have loudFound : ∃ loud, suggestions "A STEALTH check" = .ok [loud] := ⟨_, rfl⟩
  obtain ⟨quiet, quietFound⟩ := quietFound
  obtain ⟨loud, loudFound⟩ := loudFound
  obtain ⟨alike, -, -⟩ := case_never_matters _ _ sameLetters
  rw [quietFound, loudFound] at alike
  exact ⟨sameLetters, quiet, loud, quietFound, loudFound,
    List.head_eq_of_cons_eq (Except.ok.inj alike)⟩

end Tabletop
