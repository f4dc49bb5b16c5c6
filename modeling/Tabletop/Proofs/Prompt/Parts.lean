import Tabletop.Proofs.Pattern.Parts
import Tabletop.Proofs.Prompt.Placement
import Tabletop.Proofs.Text.Case

/-!
# Prompts in parts of a text

What a semicolon divides is read part by part: no prompt and no term of the rules reaches across it,
and none in the one part has a bearing on the other. Only a roll in brackets may reach across, so
there must be no bracket open in front of the semicolon.
-/

namespace Tabletop

open Pattern

/-- A suggestion that is further on in a text. -/
def Suggestion.later (places : Nat) (suggestion : Suggestion) : Suggestion :=
  { suggestion with span := suggestion.span.later places }

/-- A reference that is further on in a text. -/
def RuleReference.later (places : Nat) (reference : RuleReference) : RuleReference :=
  { reference with span := reference.span.later places }

namespace Prompt

/-! ## Forms -/

/-- All forms but the roll in brackets ask for no semicolon, and that one begins with a bracket. -/
theorem Form.asksOnly_or_opensWith :
    ∀ form ∈ Form.all,
      form.pattern.asksOnly (fun set => !set.holds ';') = true ∨
        form.pattern.opensWith (.like '[') = true := by
  decide

theorem Form.staysWithin
    {form : Form} (listed : form ∈ Form.all) {text : List Char} (unopened : '[' ∉ text) :
    form.pattern.StaysWithin text := by
  refine (Form.asksOnly_or_opensWith form listed).imp_right fun opens => ⟨.like '[', opens, ?_⟩
  intro c member
  rcases List.mem_cons.1 member with rfl | member
  · decide
  · rw [CharClass.holds, beq_eq_false_iff_ne]
    intro folded
    rw [Text.eq_bracket_of_fold folded] at member
    exact unopened member

theorem Form.make_later (form : Form) (places : Nat) (hit : Hit Label) :
    form.make (hit.later places) = Option.map (Suggestion.later places) <$> form.make hit := by
  have sameReading : form.read (hit.later places) = form.read hit := rfl
  have onward (reading : Reading) :
      form.suggestion? (hit.later places) reading =
        (form.suggestion? hit reading).map (Suggestion.later places) := by
    unfold Form.suggestion?
    split
    · rfl
    · rw [Option.map_map]
      rfl
  simp only [Form.make, sameReading, onward]
  cases form.read hit <;> rfl

/-- A form suggests for a text in two parts what it suggests for each of them. -/
theorem Form.suggestionsIn_parted
    {form : Form} (listed : form ∈ Form.all) {one : List Char} (unopened : '[' ∉ one)
    (other : List Char) (found : List Suggestion) :
    form.suggestionsIn (one ++ ';' :: other) = .ok found ↔
      ∃ first second, form.suggestionsIn one = .ok first ∧ form.suggestionsIn other = .ok second ∧
        found = first ++ second.map (Suggestion.later (one.length + 1)) := by
  have scanned :=
    scan_parted (Form.shortest_pos form listed) (Form.staysWithin listed unopened) other
  have behind :
      ((form.pattern.scan other).map (Hit.later (one.length + 1))).mapM form.make =
        List.map (Option.map (Suggestion.later (one.length + 1))) <$>
          (form.pattern.scan other).mapM form.make :=
    mapM_map_eq_map fun hit _ => form.make_later (one.length + 1) hit
  simp only [Form.suggestionsIn_eq_map, scanned, List.mapM_append, behind, map_eq_ok_iff,
    bind_eq_ok_iff, pure_eq_ok_iff]
  constructor
  · rintro ⟨_, ⟨first, oneDone, _, ⟨second, otherDone, rfl⟩, rfl⟩, rfl⟩
    refine ⟨_, _, ⟨first, oneDone, rfl⟩, ⟨second, otherDone, rfl⟩, ?_⟩
    rw [List.filterMap_append, filterMap_id_map]
  · rintro ⟨_, _, ⟨first, oneDone, rfl⟩, ⟨second, otherDone, rfl⟩, rfl⟩
    refine ⟨_, ⟨first, oneDone, _, ⟨second, otherDone, rfl⟩, rfl⟩, ?_⟩
    rw [List.filterMap_append, filterMap_id_map]

theorem Form.Proposes.stop_le
    {form : Form} {text : List Char} {suggestion : Suggestion}
    (proposed : form.Proposes text suggestion) : suggestion.span.stop ≤ text.length := by
  obtain ⟨hit, member, reading, -, made⟩ := proposed
  rw [(Form.suggestion?_base made).1]
  exact (findsIn_of_mem_scan member).stop_le_length

/-- What is chosen from a text in two parts is what is chosen from each of them. -/
theorem chosen_parted
    {one : List Char} (unopened : '[' ∉ one) (other : List Char) (found : List Suggestion) :
    chooseDisjoint Suggestion.span <$> candidates (one ++ ';' :: other) = .ok found ↔
      ∃ first second,
        chooseDisjoint Suggestion.span <$> candidates one = .ok first ∧
          chooseDisjoint Suggestion.span <$> candidates other = .ok second ∧
            found = first ++ second.map (Suggestion.later (one.length + 1)) := by
  have parts := mapM_eq_ok_iff_of_parts
    fun form (listed : form ∈ Form.all) found =>
      Form.suggestionsIn_parted listed unopened other found
  have chosen
      {firsts seconds : List (List Suggestion)}
      (oneDone : Form.all.mapM (fun form => form.suggestionsIn one) = .ok firsts)
      (otherDone : Form.all.mapM (fun form => form.suggestionsIn other) = .ok seconds) :
      chooseDisjoint Suggestion.span
          (List.zipWith (· ++ ·) firsts
            (seconds.map (List.map (Suggestion.later (one.length + 1))))).flatten =
        chooseDisjoint Suggestion.span firsts.flatten ++
          (chooseDisjoint Suggestion.span seconds.flatten).map
            (Suggestion.later (one.length + 1)) := by
    have same : firsts.length = seconds.length := by
      rw [length_of_mapM_eq_ok oneDone, length_of_mapM_eq_ok otherDone]
    have found : candidates one = .ok firsts.flatten := by
      rw [candidates, oneDone]
      rfl
    refine chooseDisjoint_parted (fun _ => rfl) same fun item member => ?_
    obtain ⟨form, -, proposed⟩ := (mem_candidates_iff found).1 member
    exact Nat.lt_succ_of_le proposed.stop_le
  simp only [candidates, map_eq_ok_iff, parts]
  constructor
  · rintro ⟨_, ⟨_, ⟨firsts, seconds, oneDone, otherDone, rfl⟩, rfl⟩, rfl⟩
    exact ⟨_, _, ⟨_, ⟨firsts, oneDone, rfl⟩, rfl⟩, ⟨_, ⟨seconds, otherDone, rfl⟩, rfl⟩,
      chosen oneDone otherDone⟩
  · rintro ⟨_, _, ⟨_, ⟨firsts, oneDone, rfl⟩, rfl⟩, ⟨_, ⟨seconds, otherDone, rfl⟩, rfl⟩, rfl⟩
    exact ⟨_, ⟨_, ⟨firsts, seconds, oneDone, otherDone, rfl⟩, rfl⟩, chosen oneDone otherDone⟩

end Prompt

/-! ## Terms of the rules -/

namespace Glossary

/-- No term of the rules asks for a semicolon. -/
theorem asksOnly_terms :
    ∀ term ∈ terms, term.pattern.asksOnly (fun set => !set.holds ';') = true := by
  have all :
      (terms.all fun term => term.pattern.asksOnly fun set => !set.holds ';') = true := by
    decide
  exact List.all_eq_true.1 all

/-- The mentions of one term in a text. -/
def Term.mentionsIn (term : Term) (text : List Char) : List RuleReference :=
  (term.pattern.scan text).map fun hit => ⟨term.rule, String.ofList hit.text, hit.span⟩

theorem Term.mentionsIn_parted
    {term : Term} (listed : term ∈ terms) (one other : List Char) :
    term.mentionsIn (one ++ ';' :: other) =
      term.mentionsIn one ++
        (term.mentionsIn other).map (RuleReference.later (one.length + 1)) := by
  have stays : term.pattern.StaysWithin one := Or.inl (asksOnly_terms term listed)
  simp only [mentionsIn, scan_parted (shortest_pos term listed) stays, List.map_append,
    List.map_map]
  rfl

theorem mentions_eq_flatten (text : List Char) :
    mentions text = (terms.map fun term => term.mentionsIn text).flatten :=
  List.flatMap_def ..

/-- The terms that a text in two parts mentions are those that its parts mention. -/
theorem chosen_parted (one other : List Char) :
    chooseDisjoint RuleReference.span (mentions (one ++ ';' :: other)) =
      chooseDisjoint RuleReference.span (mentions one) ++
        (chooseDisjoint RuleReference.span (mentions other)).map
          (RuleReference.later (one.length + 1)) := by
  have lists :
      (terms.map fun term => term.mentionsIn (one ++ ';' :: other)) =
        List.zipWith (· ++ ·) (terms.map fun term => term.mentionsIn one)
          ((terms.map fun term => term.mentionsIn other).map
            (List.map (RuleReference.later (one.length + 1)))) := by
    rw [List.map_map, List.zipWith_map, List.zipWith_self]
    exact List.map_congr_left fun term listed => Term.mentionsIn_parted listed one other
  rw [mentions_eq_flatten, lists, mentions_eq_flatten, mentions_eq_flatten]
  refine chooseDisjoint_parted (fun _ => rfl) (by simp only [List.length_map]) ?_
  intro reference member
  rw [← mentions_eq_flatten] at member
  obtain ⟨term, -, hit, scanned, rfl⟩ := mem_mentions_iff.1 member
  exact Nat.lt_succ_of_le (findsIn_of_mem_scan scanned).stop_le_length

end Glossary

/-! ## Both lists -/

/-- Of a text in front of a semicolon and a text behind it first the suggestions of the one are
found, if no bracket is open, and then those of the other; so are the references in any case. -/
theorem found_items_of_parts (one other : String) :
    ('[' ∉ one.toList →
      ∀ found, suggestions (one ++ ";" ++ other) = .ok found ↔
        ∃ first second, suggestions one = .ok first ∧ suggestions other = .ok second ∧
          found = first ++ second.map (Suggestion.later (one.length + 1))) ∧
    ruleReferences (one ++ ";" ++ other) =
      ruleReferences one ++ (ruleReferences other).map (RuleReference.later (one.length + 1)) := by
  have letters : (one ++ ";" ++ other).toList = one.toList ++ ';' :: other.toList := by
    simp [String.toList_append]
  constructor
  · intro unopened found
    have parted := Prompt.chosen_parted unopened other.toList found
    rwa [← letters, String.length_toList] at parted
  · have parted := Glossary.chosen_parted one.toList other.toList
    rwa [← letters, String.length_toList] at parted

/-- A check in front of a semicolon and a roll in brackets behind it. -/
theorem found_items_of_a_check_and_a_roll :
    '[' ∉ "DC 10 Stealth check".toList ∧
      ∃ check roll,
        suggestions "DC 10 Stealth check" = .ok [check] ∧
          suggestions "[Roll: d20+Wis vs DC 12]" = .ok [roll] ∧
            suggestions ("DC 10 Stealth check" ++ ";" ++ "[Roll: d20+Wis vs DC 12]") =
              .ok [check, roll.later 20] := by
  have unopened : '[' ∉ "DC 10 Stealth check".toList := by decide
  have first : ∃ check, suggestions "DC 10 Stealth check" = .ok [check] := ⟨_, rfl⟩
  have second : ∃ roll, suggestions "[Roll: d20+Wis vs DC 12]" = .ok [roll] := ⟨_, rfl⟩
  obtain ⟨check, first⟩ := first
  obtain ⟨roll, second⟩ := second
  have together :=
    ((found_items_of_parts "DC 10 Stealth check" "[Roll: d20+Wis vs DC 12]").1 unopened
      [check, roll.later 20]).2 ⟨[check], [roll], first, second, rfl⟩
  exact ⟨unopened, check, roll, first, second, together⟩

end Tabletop
