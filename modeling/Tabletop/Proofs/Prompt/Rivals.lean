import Tabletop.Proofs.Pattern.Passing
import Tabletop.Proofs.Prompt.Parts
import Tabletop.Proofs.Prompt.Whole
import Tabletop.Proofs.Span.Sole

/-!
# Two prompts that share their middle

A text may fall into three parts so that one form matches the first two of them and another form the
last two. If no form matches anywhere else in the first and the last part, one of the two prompts is
all that is found: the earlier one, unless the later one is longer.
-/

namespace Tabletop.Prompt

open Pattern

/-! ## Where proposals are made -/

/-- A proposal is made at some place in front of the end of the text. -/
theorem Form.Proposes.exists_place
    {form : Form} {text : List Char} {suggestion : Suggestion} (listed : form ∈ Form.all)
    (proposed : form.Proposes text suggestion) :
    ∃ passed rest hit reading,
      text = passed ++ rest ∧ rest ≠ [] ∧
        form.pattern.hitAt? ((Cursor.front text).past passed rest) = some hit ∧
          form.read hit = .ok reading ∧ form.suggestion? hit reading = some suggestion ∧
            suggestion.span.start = passed.length := by
  obtain ⟨hit, member, reading, read, made⟩ := proposed
  have finds := findsIn_of_mem_scan member
  have long : 0 < hit.span.length :=
    Nat.lt_of_lt_of_le (Form.shortest_pos form listed) finds.shortest_le_span
  obtain ⟨passed, rest, split, span, -, found⟩ := finds
  have nonempty : hit.text ++ rest ≠ [] := by
    intro empty
    rw [span, (List.append_eq_nil_iff.1 empty).1] at long
    exact Nat.lt_irrefl 0 long
  obtain ⟨sameSpan, -⟩ := Form.suggestion?_base made
  refine ⟨passed, hit.text ++ rest, hit, reading, split, nonempty, found, read, made, ?_⟩
  rw [sameSpan, span]

/-- A form makes a suggestion of a hit. -/
def Form.Makes (form : Form) (hit : Hit Label) (suggestion : Suggestion) : Prop :=
  ∃ reading, form.read hit = .ok reading ∧ form.suggestion? hit reading = some suggestion

/-- A form makes one suggestion of a hit at most. -/
theorem Form.Makes.unique
    {form : Form} {hit : Hit Label} {one other : Suggestion} (makes : form.Makes hit one)
    (makesOther : form.Makes hit other) :
    one = other := by
  obtain ⟨reading, read, made⟩ := makes
  obtain ⟨otherReading, otherRead, otherMade⟩ := makesOther
  obtain rfl := Except.ok.inj (read.symm.trans otherRead)
  exact Option.some.inj (made.symm.trans otherMade)

/-! ## Rivals -/

/-- Where a place in front of the end of a text in three parts may be. -/
theorem places_of_split
    {lead core trail passed rest : List Char} (nonempty : rest ≠ [])
    (split : lead ++ (core ++ trail) = passed ++ rest) :
    passed = [] ∧ rest = lead ++ (core ++ trail) ∨
      (∃ closing, lead = passed ++ closing ∧ rest = closing ++ (core ++ trail) ∧
        passed ≠ [] ∧ closing ≠ []) ∨
      passed = lead ∧ rest = core ++ trail ∨
      lead.length < passed.length ∧ passed.length < lead.length + core.length ∨
      ∃ opening, passed = lead ++ (core ++ opening) ∧ trail = opening ++ rest := by
  rcases List.append_eq_append_iff.1 split with ⟨beyond, rfl, behind⟩ | ⟨closing, rfl, rfl⟩
  · rcases List.append_eq_append_iff.1 behind with ⟨opening, rfl, isTrail⟩ | ⟨closing, rfl, rfl⟩
    · exact Or.inr (Or.inr (Or.inr (Or.inr ⟨opening, rfl, isTrail⟩)))
    · by_cases opened : beyond = []
      · subst opened
        exact Or.inr (Or.inr (Or.inl ⟨List.append_nil lead, by simp⟩))
      · by_cases closed : closing = []
        · subst closed
          exact Or.inr (Or.inr (Or.inr (Or.inr ⟨[], by simp, by simp⟩)))
        · have someBefore := List.length_pos_iff.2 opened
          have someBehind := List.length_pos_iff.2 closed
          simp only [List.length_append]
          omega
  · by_cases opened : passed = []
    · subst opened
      exact Or.inl ⟨rfl, by simp⟩
    · by_cases closed : closing = []
      · subst closed
        exact Or.inr (Or.inr (Or.inl ⟨by simp, by simp⟩))
      · exact Or.inr (Or.inl ⟨closing, rfl, rfl, opened, closed⟩)

/-- Of three parts of a text the first two are matched by one form, the last two by another one, and
nothing else is matched from a place in the first or the last part. -/
structure Rivals (lead core trail : List Char) (first second : Form) : Prop where
  front : ∀ form ∈ Form.all,
    form = first ∨ form.pattern.hitAt? (Cursor.front (lead ++ (core ++ trail))) = none
  inLead : ∀ form ∈ Form.all, ∀ opening closing,
    lead = opening ++ closing → opening ≠ [] → closing ≠ [] →
      form.pattern.hitAt? ((Cursor.front (lead ++ (core ++ trail))).past opening
        (closing ++ (core ++ trail))) = none
  behindLead : ∀ form ∈ Form.all,
    form = second ∨
      form.pattern.hitAt? ((Cursor.front (lead ++ (core ++ trail))).past lead (core ++ trail)) =
        none
  inTrail : ∀ form ∈ Form.all, ∀ opening closing,
    trail = opening ++ closing → closing ≠ [] →
      form.pattern.hitAt? ((Cursor.front (lead ++ (core ++ trail))).past (lead ++ (core ++ opening))
        closing) = none

section

variable {lead core trail : List Char} {first second : Form} {hit otherHit : Hit Label}
  {leading trailing : Suggestion}

/-- What is proposed is what the two forms propose, or it begins in the middle. -/
theorem Rivals.cases_of_proposes
    {form : Form} {suggestion : Suggestion} (rivals : Rivals lead core trail first second)
    (found : first.pattern.hitAt? (Cursor.front (lead ++ (core ++ trail))) = some hit)
    (makes : first.Makes hit leading)
    (otherFound : second.pattern.hitAt?
      ((Cursor.front (lead ++ (core ++ trail))).past lead (core ++ trail)) = some otherHit)
    (otherMakes : second.Makes otherHit trailing)
    (listed : form ∈ Form.all) (proposed : form.Proposes (lead ++ (core ++ trail)) suggestion) :
    suggestion = leading ∨ suggestion = trailing ∨
      lead.length < suggestion.span.start ∧
        suggestion.span.start < lead.length + core.length := by
  obtain ⟨passed, rest, own, reading, split, nonempty, ownFound, read, made, start⟩ :=
    proposed.exists_place listed
  have ownMakes : form.Makes own suggestion := ⟨reading, read, made⟩
  have unmatched
      (missed : form.pattern.hitAt?
        ((Cursor.front (lead ++ (core ++ trail))).past passed rest) = none) : False := by
    rw [missed] at ownFound
    cases ownFound
  rcases places_of_split nonempty split with
    ⟨rfl, rfl⟩ | ⟨closing, isLead, rfl, opened, closed⟩ | ⟨rfl, rfl⟩ | inside |
      ⟨opening, rfl, isTrail⟩
  · rcases rivals.front form listed with rfl | missed
    · obtain rfl := Option.some.inj (found.symm.trans ownFound)
      exact Or.inl (ownMakes.unique makes)
    · exact (unmatched missed).elim
  · exact (unmatched (rivals.inLead form listed passed closing isLead opened closed)).elim
  · rcases rivals.behindLead form listed with rfl | missed
    · obtain rfl := Option.some.inj (otherFound.symm.trans ownFound)
      exact Or.inr (Or.inl (ownMakes.unique otherMakes))
    · exact (unmatched missed).elim
  · rw [start]
    exact Or.inr (Or.inr inside)
  · exact (unmatched (rivals.inTrail form listed opening rest isTrail nonempty)).elim

/-- The hit behind the first part is the first one of its form. -/
theorem Rivals.mem_scan
    (rivals : Rivals lead core trail first second) (different : second ≠ first)
    (listed : second ∈ Form.all) (someCore : core ≠ [])
    (found : second.pattern.hitAt?
      ((Cursor.front (lead ++ (core ++ trail))).past lead (core ++ trail)) = some otherHit) :
    otherHit ∈ second.pattern.scan (lead ++ (core ++ trail)) := by
  apply mem_scan_of_hitAt? (List.append_ne_nil_of_left_ne_nil someCore trail) _ found
  rintro opening closing isLead nonempty
  by_cases opened : opening = []
  · subst opened
    have missed := (rivals.front second listed).resolve_left different
    rw [isLead, List.nil_append] at missed ⊢
    exact missed
  · exact rivals.inLead second listed opening closing isLead opened nonempty

/-- Of the prompts of two rivals the earlier one is all that is found, unless the later one is
longer, which is all that is found then. -/
theorem suggestions_of_rivals
    {text : String} (fit : NumbersFit text.toList) (split : text.toList = lead ++ (core ++ trail))
    (rivals : Rivals lead core trail first second) (different : second ≠ first)
    (listed : first ∈ Form.all) (otherListed : second ∈ Form.all)
    (someLead : lead ≠ []) (someCore : core ≠ [])
    (found : first.pattern.hitAt? (Cursor.front (lead ++ (core ++ trail))) = some hit)
    (span : hit.span = ⟨0, lead.length + core.length⟩) (makes : first.Makes hit leading)
    (otherFound : second.pattern.hitAt?
      ((Cursor.front (lead ++ (core ++ trail))).past lead (core ++ trail)) = some otherHit)
    (otherSpan : otherHit.span = ⟨lead.length, core.length + trail.length⟩)
    (otherMakes : second.Makes otherHit trailing) :
    suggestions text =
      .ok [if trail.length ≤ lead.length then leading else trailing] := by
  obtain ⟨chosen, done⟩ := exists_suggestions fit
  obtain ⟨all, allDone, rfl⟩ := suggestions_eq_ok_iff.1 done
  rw [done]
  rw [split] at allDone
  have isLeading : leading ∈ all := by
    have nonempty : lead ++ (core ++ trail) ≠ [] := List.append_ne_nil_of_left_ne_nil someLead _
    obtain ⟨laterHits, scanned⟩ := scan_eq_cons nonempty found
    have scans : hit ∈ first.pattern.scan (lead ++ (core ++ trail)) := by
      rw [scanned]
      exact List.mem_cons_self
    exact (mem_candidates_iff allDone).2 ⟨first, listed, hit, scans, makes⟩
  have isTrailing : trailing ∈ all :=
    (mem_candidates_iff allDone).2 ⟨second, otherListed, otherHit,
      rivals.mem_scan different otherListed someCore otherFound, otherMakes⟩
  have leadingSpan : leading.span = ⟨0, lead.length + core.length⟩ := by
    obtain ⟨reading, -, made⟩ := makes
    rw [(Form.suggestion?_base made).1, span]
  have trailingSpan : trailing.span = ⟨lead.length, core.length + trail.length⟩ := by
    obtain ⟨reading, -, made⟩ := otherMakes
    rw [(Form.suggestion?_base made).1, otherSpan]
  rw [chooseDisjoint_eq_singleton_of_rivals (List.length_pos_iff.2 someLead)
    (List.length_pos_iff.2 someCore) isLeading isTrailing leadingSpan trailingSpan]
  intro other member
  obtain ⟨form, formListed, proposed⟩ := (mem_candidates_iff allDone).1 member
  have inside := proposed.stop_le
  have places := rivals.cases_of_proposes found makes otherFound otherMakes formListed proposed
  rw [List.length_append, List.length_append] at inside
  rw [← split] at proposed
  have positive := (proposed.stands formListed).positive
  exact places.imp_right fun behind => behind.imp_right fun middle =>
    ⟨middle.1, middle.2, positive, inside⟩

end

end Tabletop.Prompt
