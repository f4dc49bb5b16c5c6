import Tabletop.Prompt
import Tabletop.Proofs.Pattern.Hits
import Tabletop.Proofs.Results

/-!
# Prompts before the choice

What is proposed for a text before overlaps are resolved: each proposal is what one form of prompt
makes of one of its hits, and every form has its proposals in the order of its hits.
-/

namespace Tabletop

open Pattern

namespace Prompt

/-- A form proposes a suggestion for a text: it is made of one of the form's hits. -/
def Form.Proposes (form : Form) (text : List Char) (suggestion : Suggestion) : Prop :=
  ∃ hit ∈ form.pattern.scan text, ∃ reading,
    form.read hit = .ok reading ∧ form.suggestion? hit reading = some suggestion

/-- What a form makes of a hit. -/
def Form.make (form : Form) (hit : Hit Label) : Except Fault (Option Suggestion) := do
  let reading ← form.read hit
  pure (form.suggestion? hit reading)

theorem Form.suggestionsIn_eq_map (form : Form) (text : List Char) :
    form.suggestionsIn text = List.filterMap id <$> (form.pattern.scan text).mapM form.make := by
  change ((form.pattern.scan text).mapM form.make >>= fun found => pure (found.filterMap id)) = _
  cases (form.pattern.scan text).mapM form.make <;> rfl

/-- What the suggestion of a hit takes from the hit and from its form. -/
theorem Form.suggestion?_base
    {form : Form} {hit : Hit Label} {reading : Reading} {suggestion : Suggestion}
    (made : form.suggestion? hit reading = some suggestion) :
    suggestion.span = hit.span ∧ suggestion.description = String.ofList hit.text ∧
      suggestion.damage = reading.damage := by
  unfold Form.suggestion? at made
  split at made
  · cases made
    exact ⟨rfl, rfl, rfl⟩
  · obtain ⟨ability, -, rfl⟩ := Option.map_eq_some_iff.1 made
    exact ⟨rfl, rfl, rfl⟩

theorem Form.mem_suggestionsIn_iff
    {form : Form} {text : List Char} {found : List Suggestion}
    (done : form.suggestionsIn text = .ok found) {suggestion : Suggestion} :
    suggestion ∈ found ↔ form.Proposes text suggestion := by
  simp only [Form.suggestionsIn, bind_eq_ok_iff, pure_eq_ok_iff] at done
  obtain ⟨options, read, rfl⟩ := done
  simp only [List.mem_filterMap, id_eq, exists_eq_right, mem_of_mapM_eq_ok read,
    bind_eq_ok_iff, pure_eq_ok_iff]
  rfl

/-- The candidates in a text are what the forms propose. -/
theorem mem_candidates_iff
    {text : List Char} {found : List Suggestion}
    (done : candidates text = .ok found) {suggestion : Suggestion} :
    suggestion ∈ found ↔ ∃ form ∈ Form.all, form.Proposes text suggestion := by
  rw [candidates, map_eq_ok_iff] at done
  obtain ⟨lists, listsDone, rfl⟩ := done
  rw [List.mem_flatten]
  constructor
  · rintro ⟨list, listed, member⟩
    obtain ⟨form, formListed, formDone⟩ := (mem_of_mapM_eq_ok listsDone).1 listed
    exact ⟨form, formListed, (Form.mem_suggestionsIn_iff formDone).1 member⟩
  · rintro ⟨form, formListed, proposed⟩
    obtain ⟨before, after, split⟩ := List.append_of_mem formListed
    rw [split] at listsDone
    obtain ⟨earlier, list, later, -, formDone, rfl⟩ := split_of_mapM_eq_ok listsDone
    exact ⟨list, by simp, (Form.mem_suggestionsIn_iff formDone).2 proposed⟩

/-- Candidates are found if every number that a hit marks can be read. -/
theorem exists_candidates
    {text : List Char}
    (readable :
      ∀ form ∈ Form.all, ∀ hit ∈ form.pattern.scan text, ∃ reading, form.read hit = .ok reading) :
    ∃ found, candidates text = .ok found := by
  have perForm : ∀ form ∈ Form.all, ∃ found, form.suggestionsIn text = .ok found := by
    intro form formListed
    have perHit :
        ∀ hit ∈ form.pattern.scan text, ∃ option,
          (do
            let reading ← form.read hit
            pure (form.suggestion? hit reading)) = Except.ok option := by
      intro hit hitListed
      obtain ⟨reading, read⟩ := readable form formListed hit hitListed
      exact ⟨form.suggestion? hit reading, bind_eq_ok_iff.2 ⟨reading, read, rfl⟩⟩
    obtain ⟨options, done⟩ := exists_mapM_eq_ok perHit
    exact ⟨options.filterMap id, bind_eq_ok_iff.2 ⟨options, done, rfl⟩⟩
  obtain ⟨lists, done⟩ := exists_mapM_eq_ok perForm
  exact ⟨lists.flatten, map_eq_ok_iff.2 ⟨lists, done, rfl⟩⟩

/-- Every form of prompt takes some text. -/
theorem Form.shortest_pos : ∀ form ∈ Form.all, 0 < form.pattern.shortest := by
  decide

end Prompt

/-- Suggestions are chosen from the candidates. -/
theorem suggestions_eq_ok_iff {text : String} {found : List Suggestion} :
    suggestions text = .ok found ↔
      ∃ all, Prompt.candidates text.toList = .ok all ∧
        chooseDisjoint Suggestion.span all = found :=
  map_eq_ok_iff

end Tabletop
