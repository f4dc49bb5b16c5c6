import Tabletop.Glossary
import Tabletop.Proofs.Prompt.Candidates
import Tabletop.Proofs.Span.Choice

/-!
# Where suggestions and references stand

What is found in a text stands in the text: it covers at least one character, shows exactly what it
covers, and is over before the next item begins.
-/

namespace Tabletop

open Pattern

/-- An item with a span shows what stands there in a text, which is not nothing. -/
structure Stands (text : String) (span : Span) (shown : String) : Prop where
  positive : 0 < span.length
  inside : span.stop ≤ text.length
  shows_cut : shown = String.ofList (span.cut text.toList)

/-- Of two items in a row the first is over before the second begins. -/
def Separate (one other : Span) : Prop :=
  one.stop ≤ other.start ∧ one.overlaps other = false ∧ other.overlaps one = false

theorem separate_of_stop_le
    {one other : Span} (apart : one.stop ≤ other.start) :
    Separate one other := by
  have disjoint : one.overlaps other = false := by
    simp only [Span.overlaps, Bool.and_eq_false_iff, decide_eq_false_iff_not]
    omega
  have disjointBack : other.overlaps one = false := by
    rw [Span.overlaps, Bool.and_comm]
    exact disjoint
  exact ⟨apart, disjoint, disjointBack⟩

/-- A hit stands where it was made. -/
theorem stands_of_mem_scan
    {ι : Type} {pattern : Pattern ι} {text : String} {hit : Hit ι}
    (takes : 0 < pattern.shortest) (member : hit ∈ pattern.scan text.toList) :
    Stands text hit.span (String.ofList hit.text) := by
  have found := findsIn_of_mem_scan member
  refine ⟨Nat.lt_of_lt_of_le takes found.shortest_le_span, ?_, ?_⟩
  · have inside := found.stop_le_length
    rwa [String.length_toList] at inside
  · rw [found.cut_span]

/-! ## Suggestions -/

theorem Prompt.Form.Proposes.stands
    {form : Prompt.Form} {text : String} {suggestion : Suggestion}
    (listed : form ∈ Prompt.Form.all) (proposed : form.Proposes text.toList suggestion) :
    Stands text suggestion.span suggestion.description := by
  obtain ⟨hit, member, reading, -, made⟩ := proposed
  obtain ⟨span, description, -⟩ := Prompt.Form.suggestion?_base made
  rw [span, description]
  exact stands_of_mem_scan (Prompt.Form.shortest_pos form listed) member

/-! ## References -/

/-- Every term of the glossary takes some text. -/
theorem Glossary.shortest_pos : ∀ term ∈ Glossary.terms, 0 < term.pattern.shortest := by
  have all : (Glossary.terms.all fun term => decide (0 < term.pattern.shortest)) = true := by
    decide
  simpa using all

/-- A reference is a mention of a term: it is made of one of the term's hits. -/
def Glossary.Term.Mentions
    (term : Glossary.Term) (text : List Char) (reference : RuleReference) : Prop :=
  ∃ hit ∈ term.pattern.scan text,
    reference = ⟨term.rule, String.ofList hit.text, hit.span⟩

theorem Glossary.mem_mentions_iff {text : List Char} {reference : RuleReference} :
    reference ∈ Glossary.mentions text ↔
      ∃ term ∈ Glossary.terms, term.Mentions text reference := by
  simp [Glossary.mentions, Glossary.Term.Mentions, eq_comm]

theorem Glossary.Term.Mentions.stands
    {term : Glossary.Term} {text : String} {reference : RuleReference}
    (listed : term ∈ Glossary.terms) (mentioned : term.Mentions text.toList reference) :
    Stands text reference.span reference.term := by
  obtain ⟨hit, member, rfl⟩ := mentioned
  exact stands_of_mem_scan (Glossary.shortest_pos term listed) member

/-! ## Both lists -/

/-- Suggestions and references stand in their text, one behind the other, and each is a candidate
that a form of prompt or a term of the glossary has at just this place. -/
theorem found_items_stand_apart (text : String) :
    (∀ found, suggestions text = .ok found →
      (∀ suggestion ∈ found,
        Stands text suggestion.span suggestion.description ∧
          ∃ form ∈ Prompt.Form.all, form.Proposes text.toList suggestion) ∧
      found.Pairwise fun one other => Separate one.span other.span) ∧
    (∀ reference ∈ ruleReferences text,
      Stands text reference.span reference.term ∧
        ∃ term ∈ Glossary.terms, term.Mentions text.toList reference) ∧
    (ruleReferences text).Pairwise fun one other => Separate one.span other.span := by
  refine ⟨fun found done => ?_, fun reference member => ?_, ?_⟩
  · obtain ⟨all, allDone, rfl⟩ := suggestions_eq_ok_iff.1 done
    constructor
    · intro suggestion member
      obtain ⟨form, listed, proposed⟩ :=
        (Prompt.mem_candidates_iff allDone).1 (mem_of_mem_chooseDisjoint member)
      exact ⟨proposed.stands listed, form, listed, proposed⟩
    · have apart : (chooseDisjoint Suggestion.span all).Pairwise
          fun one other => one.span.stop ≤ other.span.start := pairwise_chooseDisjoint all
      exact apart.imp fun before => separate_of_stop_le before
  · obtain ⟨term, listed, mentioned⟩ :=
      Glossary.mem_mentions_iff.1 (mem_of_mem_chooseDisjoint member)
    exact ⟨mentioned.stands listed, term, listed, mentioned⟩
  · have apart : (ruleReferences text).Pairwise
        fun one other => one.span.stop ≤ other.span.start :=
      pairwise_chooseDisjoint (Glossary.mentions text.toList)
    exact apart.imp fun before => separate_of_stop_le before

/-- Two prompts in one text. -/
theorem found_items_stand_apart_in_two_prompts :
    ∃ first second,
      suggestions "DC 10 Stealth check or a DC 12 Dexterity save" = .ok [first, second] ∧
        Separate first.span second.span := by
  have found :
      ∃ first second,
        suggestions "DC 10 Stealth check or a DC 12 Dexterity save" = .ok [first, second] :=
    ⟨_, _, rfl⟩
  obtain ⟨first, second, found⟩ := found
  have apart := ((found_items_stand_apart _).1 _ found).2
  exact ⟨first, second, found, List.rel_of_pairwise_cons apart (List.mem_singleton_self second)⟩

end Tabletop
