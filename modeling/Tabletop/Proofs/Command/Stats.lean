import Tabletop.Proofs.Command.Score
import Tabletop.Proofs.Dice.Grammar

/-!
# Scores on the command line

Items such as `str=16` are read in turn. Either all of them set a score, and the last one for an
ability counts, or the first one that sets none is refused by name. Only what passes for a score
without being one slips through to the reading of integers: several minus signs, figures that are no
decimal digits, and information separators around the number.
-/

namespace Tabletop.Command

open Numeral Text

/-! ## Scores by ability -/

theorem StatList.lookup_put
    (stats : StatList) (ability : Ability) (score : Int) (other : Ability) :
    (stats.put ability score).lookup other =
      if other = ability then some score else stats.lookup other := by
  have beside (present : Ability) (old : Int) (rest : StatList) :
      List.lookup other ((present, old) :: rest) =
        if other = present then some old else rest.lookup other := by
    by_cases same : other = present
    · rw [if_pos same, List.lookup_cons, beq_iff_eq.2 same]
    · rw [if_neg same, List.lookup_cons, beq_eq_false_iff_ne.2 same]
  induction stats with
  | nil => exact beside ability score []
  | cons entry rest inductionHypothesis =>
      obtain ⟨present, old⟩ := entry
      by_cases replaced : present = ability
      · subst replaced
        rw [put, if_pos rfl, beside, beside]
        by_cases same : other = present
        · rw [if_pos same, if_pos same]
        · rw [if_neg same, if_neg same, if_neg same]
      · rw [put, if_neg replaced, beside, beside, inductionHypothesis]
        by_cases same : other = present
        · have different : ¬other = ability := fun equal => replaced (same.symm.trans equal)
          rw [if_pos same, if_neg different, if_pos same]
        · rw [if_neg same, if_neg same]

/-! ## Items -/

/-- An item is the name of an ability, an equals sign and what passes for a score. -/
structure HasParts (item : String) (ability : Ability) (parts : ScoreParts) : Prop where
  named : ∃ name,
    item.toList = name ++ '=' :: parts.text ∧ '=' ∉ name ∧
      Ability.ofName? (String.ofList name) = some ability
  proper : parts.Proper

/-- An item sets an ability to a score. -/
def Sets (item : String) (ability : Ability) (score : Int) : Prop :=
  ∃ parts, HasParts item ability parts ∧ parts.Decimal ∧ parts.score = score

/-- An item passes for one that sets a score, but no integer can be read in it. -/
def IsStray (item : String) : Prop :=
  ∃ ability parts, HasParts item ability parts ∧ ¬(parts.Decimal ∧ parts.Spaced)

theorem splitEquals?_eq_some_iff {item name value : List Char} :
    splitEquals? item = some (name, value) ↔ item = name ++ '=' :: value ∧ '=' ∉ name := by
  have unequal {name : List Char} (free : '=' ∉ name) : ∀ c ∈ name, (c != '=') = true :=
    fun c member => bne_iff_ne.2 fun same => free (same ▸ member)
  constructor
  · intro found
    rw [splitEquals?] at found
    split at found
    · cases found
    · rename_i c rest isRest
      cases found
      obtain rfl : c = '=' := by
        have known := List.head?_dropWhile_not (fun c => c != '=') item
        rw [isRest] at known
        simpa using known
      constructor
      · rw [← isRest, List.takeWhile_append_dropWhile]
      · intro member
        exact absurd (holds_of_mem_takeWhile _ member) (by decide)
  · rintro ⟨rfl, free⟩
    have kept : ('=' :: value).dropWhile (· != '=') = '=' :: value := rfl
    have none : ('=' :: value).takeWhile (· != '=') = [] := rfl
    rw [splitEquals?, List.dropWhile_append_of_pos (unequal free), kept,
      List.takeWhile_append_of_pos (unequal free), none, List.append_nil]

theorem splitStat?_eq_some_iff {item : String} {ability : Ability} {value : List Char} :
    splitStat? item.toList = some (ability, value) ↔
      ∃ parts, HasParts item ability parts ∧ value = parts.text := by
  simp only [splitStat?, Option.bind_eq_bind, Option.bind_eq_some_iff, Prod.exists,
    Option.ite_none_right_eq_some, Option.some.injEq, Prod.mk.injEq]
  constructor
  · rintro ⟨name, _, split, _, known, passes, rfl, rfl⟩
    obtain ⟨parts, proper, rfl⟩ := ScoreParts.looksLikeScore_iff.1 passes
    obtain ⟨isItem, free⟩ := splitEquals?_eq_some_iff.1 split
    exact ⟨parts, ⟨⟨name, isItem, free, known⟩, proper⟩, rfl⟩
  · rintro ⟨parts, ⟨⟨name, isItem, free, known⟩, proper⟩, rfl⟩
    exact ⟨name, parts.text, splitEquals?_eq_some_iff.2 ⟨isItem, free⟩, ability, known,
      ScoreParts.looksLikeScore_iff.2 ⟨parts, proper, rfl⟩, rfl, rfl⟩

theorem HasParts.unique
    {item : String} {one other : Ability} {parts others : ScoreParts}
    (isOne : HasParts item one parts) (isOther : HasParts item other others) :
    one = other ∧ parts = others := by
  have found := splitStat?_eq_some_iff.2 ⟨parts, isOne, rfl⟩
  rw [splitStat?_eq_some_iff.2 ⟨others, isOther, rfl⟩] at found
  obtain ⟨sameAbility, sameText⟩ := Prod.mk.inj (Option.some.inj found)
  exact ⟨sameAbility.symm, isOne.proper.ext isOther.proper sameText.symm⟩

section

variable {item : String} (short : Dice.ShortRuns item)
include short

theorem HasParts.short_text {ability : Ability} {parts : ScoreParts}
    (has : HasParts item ability parts) :
    ∀ run, run <:+: parts.text → (∀ c ∈ run, isDigit c = true) → run.length ≤ digitLimit := by
  obtain ⟨name, isItem, -⟩ := has.named
  intro run inside
  apply short run
  rw [isItem]
  exact inside.trans ((List.suffix_cons '=' _).trans (List.suffix_append name _)).isInfix

/-- Reading an item sets a score, refuses the item, or comes upon a number that is none. -/
theorem readStat_cases :
    (∃ ability score,
      readStat item = .ok (ability, score) ∧ Sets item ability score ∧ ¬IsStray item) ∨
    (readStat item = .error (.notAScore (Datum.quoteText item)) ∧
      (∀ ability score, ¬Sets item ability score) ∧ ¬IsStray item) ∨
    (∃ shown, readStat item = .error (.notAnInteger shown)) ∧ IsStray item := by
  cases found : splitStat? item.toList with
  | none =>
      right
      left
      have noParts : ∀ ability parts, ¬HasParts item ability parts := by
        intro ability parts has
        rw [splitStat?_eq_some_iff.2 ⟨parts, has, rfl⟩] at found
        cases found
      refine ⟨by rw [readStat, found], ?_, ?_⟩
      · rintro ability score ⟨parts, has, -⟩
        exact noParts ability parts has
      · rintro ⟨ability, parts, has, -⟩
        exact noParts ability parts has
  | some split =>
      obtain ⟨ability, value⟩ := split
      obtain ⟨parts, has, rfl⟩ := splitStat?_eq_some_iff.1 found
      by_cases sound : parts.Decimal ∧ parts.Spaced
      · left
        refine ⟨ability, parts.score, ?_, ⟨parts, has, sound.1, rfl⟩, ?_⟩
        · have read :=
            parts.readInt_of_decimal has.proper (has.short_text short) sound.1 sound.2
          simp only [readStat, found, read]
          rfl
        · rintro ⟨other, others, otherHas, stray⟩
          obtain ⟨rfl, rfl⟩ := has.unique otherHas
          exact stray sound
      · right
        right
        obtain ⟨shown, unread⟩ :=
          parts.readInt_of_stray has.proper (has.short_text short) sound
        refine ⟨⟨shown, ?_⟩, ability, parts, has, sound⟩
        simp only [readStat, found, unread]
        rfl

end

theorem Sets.unique
    {item : String} {one other : Ability} {score otherScore : Int}
    (isOne : Sets item one score) (isOther : Sets item other otherScore) :
    one = other ∧ score = otherScore := by
  obtain ⟨parts, has, -, rfl⟩ := isOne
  obtain ⟨others, otherHas, -, rfl⟩ := isOther
  obtain ⟨sameAbility, rfl⟩ := has.unique otherHas
  exact ⟨sameAbility, rfl⟩

/-- What an item sets takes the place of what was set before. -/
theorem Sets.lookup_put_eq_some_iff
    {item : String} {ability : Ability} {score : Int} (sets : Sets item ability score)
    (stats : StatList) (other : Ability) (otherScore : Int) :
    (stats.put ability score).lookup other = some otherScore ↔
      Sets item other otherScore ∨
        stats.lookup other = some otherScore ∧ ∀ score, ¬Sets item other score := by
  rw [StatList.lookup_put]
  by_cases same : other = ability
  · subst same
    rw [if_pos rfl, Option.some.injEq]
    constructor
    · rintro rfl
      exact Or.inl sets
    · rintro (otherSets | ⟨-, none⟩)
      · exact (sets.unique otherSets).2
      · exact absurd sets (none score)
  · have none : ∀ score, ¬Sets item other score :=
      fun _ otherSets => same (otherSets.unique sets).1
    rw [if_neg same]
    constructor
    · exact fun found => Or.inr ⟨found, none⟩
    · rintro (otherSets | ⟨found, -⟩)
      · exact absurd otherSets (none otherScore)
      · exact found

/-! ## Lists of items -/

/-- The last item for an ability sets it to a score. -/
def SetsLast (items : List String) (ability : Ability) (score : Int) : Prop :=
  ∃ before item after, items = before ++ item :: after ∧ Sets item ability score ∧
    ∀ other ∈ after, ∀ otherScore, ¬Sets other ability otherScore

theorem setsLast_cons_iff
    {item : String} {items : List String} {ability : Ability} {score : Int} :
    SetsLast (item :: items) ability score ↔
      SetsLast items ability score ∨ Sets item ability score ∧
        ∀ other ∈ items, ∀ otherScore, ¬Sets other ability otherScore := by
  constructor
  · rintro ⟨before, last, after, split, sets, none⟩
    cases before with
    | nil =>
        obtain ⟨rfl, rfl⟩ := List.cons.inj split
        exact Or.inr ⟨sets, none⟩
    | cons first before =>
        obtain ⟨rfl, rest⟩ := List.cons.inj split
        exact Or.inl ⟨before, last, after, rest, sets, none⟩
  · rintro (⟨before, last, after, rfl, sets, none⟩ | ⟨sets, none⟩)
    · exact ⟨item :: before, last, after, rfl, sets, none⟩
    · exact ⟨[], item, items, rfl, sets, none⟩

/-- Every item sets a score, and no number in them is none. -/
def AllSet (items : List String) : Prop :=
  ∀ item ∈ items, (∃ ability score, Sets item ability score) ∧ ¬IsStray item

/-- Reading goes on to the first item that sets no score. -/
theorem readStatsFrom_cases
    {items : List String} (short : ∀ item ∈ items, Dice.ShortRuns item) (stats : StatList) :
    (∃ result, readStatsFrom stats items = .ok result ∧ AllSet items ∧
      ∀ ability score, result.lookup ability = some score ↔
        SetsLast items ability score ∨
          stats.lookup ability = some score ∧
            ∀ item ∈ items, ∀ otherScore, ¬Sets item ability otherScore) ∨
    ∃ before item after, items = before ++ item :: after ∧ AllSet before ∧
      ((readStatsFrom stats items = .error (.notAScore (Datum.quoteText item)) ∧
        (∀ ability score, ¬Sets item ability score) ∧ ¬IsStray item) ∨
      (∃ shown, readStatsFrom stats items = .error (.notAnInteger shown)) ∧ IsStray item) := by
  induction items generalizing stats with
  | nil =>
      left
      refine ⟨stats, rfl, nofun, fun ability score => ⟨fun found => Or.inr ⟨found, nofun⟩, ?_⟩⟩
      rintro (⟨before, item, after, split, -⟩ | ⟨found, -⟩)
      · exact absurd split.symm (List.append_ne_nil_of_right_ne_nil before (List.cons_ne_nil _ _))
      · exact found
  | cons item items inductionHypothesis =>
      rcases readStat_cases (short item List.mem_cons_self) with
        ⟨ability, score, read, sets, sound⟩ | ⟨refused, noScore, sound⟩ | ⟨⟨shown, unread⟩, stray⟩
      case inl =>
        have step :
            readStatsFrom stats (item :: items) =
              readStatsFrom (stats.put ability score) items := by
          rw [readStatsFrom, read]
          rfl
        have setHere : (∃ ability score, Sets item ability score) ∧ ¬IsStray item :=
          ⟨⟨ability, score, sets⟩, sound⟩
        rw [step]
        have shortRest : ∀ other ∈ items, Dice.ShortRuns other :=
          fun other member => short other (List.mem_cons_of_mem item member)
        rcases inductionHypothesis shortRest (stats.put ability score) with
          ⟨result, done, allSet, looked⟩ | ⟨before, last, after, rfl, allSet, failed⟩
        · left
          refine ⟨result, done, List.forall_mem_cons.2 ⟨setHere, allSet⟩, ?_⟩
          intro other otherScore
          rw [looked, sets.lookup_put_eq_some_iff, setsLast_cons_iff, List.forall_mem_cons,
            or_and_right, or_assoc, and_assoc]
        · right
          exact ⟨item :: before, last, after, rfl, List.forall_mem_cons.2 ⟨setHere, allSet⟩, failed⟩
      case inr.inl =>
        right
        refine ⟨[], item, items, rfl, nofun, Or.inl ⟨?_, noScore, sound⟩⟩
        rw [readStatsFrom, refused]
        rfl
      case inr.inr =>
        right
        refine ⟨[], item, items, rfl, nofun, Or.inr ⟨⟨shown, ?_⟩, stray⟩⟩
        rw [readStatsFrom, unread]
        rfl

/-- Items without overlong numbers either all set scores, of which the last one for an ability
counts, or the first of them that sets none is refused by name. If that first one is stray, the
reading of its number fails in place of the item being refused. -/
theorem scores_are_set_or_refused
    (items : List String) (short : ∀ item ∈ items, Dice.ShortRuns item) :
    (∃ stats, readStats items = .ok stats ∧ AllSet items ∧
      ∀ ability score, stats.lookup ability = some score ↔ SetsLast items ability score) ∨
    ∃ before item after, items = before ++ item :: after ∧ AllSet before ∧
      ((readStats items = .error (.notAScore (Datum.quoteText item)) ∧
        (∀ ability score, ¬Sets item ability score) ∧ ¬IsStray item) ∨
      (∃ shown, readStats items = .error (.notAnInteger shown)) ∧ IsStray item) := by
  rcases readStatsFrom_cases short [] with ⟨stats, done, allSet, looked⟩ | failed
  · left
    refine ⟨stats, done, allSet, fun ability score => (looked ability score).trans ?_⟩
    refine ⟨fun known => known.resolve_right ?_, Or.inl⟩
    rintro ⟨found, -⟩
    cases found
  · exact Or.inr failed

/-- The second score of strength takes the place of the first. -/
theorem scores_are_set_or_refused_for_two_abilities :
    readStats ["str=16", " Wis = -1 ", "STRENGTH=18"] = .ok [(.strength, 18), (.wisdom, -1)] ∧
      SetsLast ["str=16", " Wis = -1 ", "STRENGTH=18"] .strength 18 := by
  have read :
      readStats ["str=16", " Wis = -1 ", "STRENGTH=18"] =
        .ok [(.strength, 18), (.wisdom, -1)] := by
    decide +kernel
  have short : ∀ item ∈ ["str=16", " Wis = -1 ", "STRENGTH=18"], Dice.ShortRuns item := by
    have few : ∀ item ∈ ["str=16", " Wis = -1 ", "STRENGTH=18"],
        item.toList.length ≤ digitLimit := by
      decide
    exact fun item member run inside _ => Nat.le_trans inside.length_le (few item member)
  rcases scores_are_set_or_refused _ short with
    ⟨stats, done, -, looked⟩ | ⟨_, item, _, -, -, ⟨refused, -⟩ | ⟨⟨shown, unread⟩, -⟩⟩
  · rw [read] at done
    cases done
    exact ⟨read, (looked .strength 18).1 rfl⟩
  · rw [read] at refused
    cases refused
  · rw [read] at unread
    cases unread

/-- A superscript and a doubled minus sign are not refused as scores, and a number before an
information separator is not read, though it is a score between white space. -/
theorem superscripts_and_doubled_minus_signs_slip_through :
    readStats ["str=\u00b2"] = .error (.notAnInteger "'\u00b2'") ∧
      readStats ["str=--5"] = .error (.notAnInteger "'--5'") ∧
      Sets "str=5\u001f" .strength 5 ∧
      readStats ["str=5\u001f"] = .error (.notAnInteger "'5\\x1f'") := by
  refine ⟨by decide +kernel, by decide +kernel, ?_, by decide +kernel⟩
  have proper : ScoreParts.Proper ⟨[], [], ['5'], ['\u001f']⟩ :=
    ⟨nofun, nofun, List.cons_ne_nil '5' [], List.forall_mem_singleton.2 rfl,
      List.forall_mem_singleton.2 rfl⟩
  have decimal : ScoreParts.Decimal ⟨[], [], ['5'], ['\u001f']⟩ :=
    ⟨Nat.zero_le 1, List.forall_mem_singleton.2 rfl⟩
  exact ⟨_, ⟨⟨['s', 't', 'r'], rfl, by decide, by decide⟩, proper⟩, decimal, by decide⟩

end Tabletop.Command
