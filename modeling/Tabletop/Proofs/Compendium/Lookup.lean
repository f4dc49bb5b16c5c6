import Mathlib.Data.List.Basic
import Mathlib.Data.List.Induction
import Tabletop.Compendium
import Tabletop.Proofs.Sorting

/-!
# Search by names

A table that is made of named things keeps one entry for each name in small letters: it stands where
the name came first and holds the thing that bore it last. A search finds the longest of the names
that occur in a text, of names of one length the one that came first, and finds nothing only if no
name occurs.
-/

namespace Tabletop

namespace Entries

variable {α : Type}

/-! ## Putting entries in -/

section Putting

variable {key : String} {value : α} {table : Entries α}

theorem keys_put_of_mem (known : key ∈ keys table) : keys (put key value table) = keys table := by
  induction table with
  | nil => cases known
  | cons entry rest inductionHypothesis =>
      obtain ⟨present, old⟩ := entry
      by_cases replaced : present = key
      · rw [put, if_pos replaced, ← replaced]
        rfl
      · have listed : key ∈ keys rest :=
          (List.mem_cons.1 known).resolve_left fun same => replaced same.symm
        rw [put, if_neg replaced]
        exact congrArg (List.cons present) (inductionHypothesis listed)

theorem put_of_not_mem (unknown : key ∉ keys table) :
    put key value table = table ++ [(key, value)] := by
  induction table with
  | nil => rfl
  | cons entry rest inductionHypothesis =>
      obtain ⟨present, old⟩ := entry
      have different : present ≠ key := fun same => unknown (List.mem_cons.2 (Or.inl same.symm))
      have missing : key ∉ keys rest := fun listed => unknown (List.mem_cons_of_mem present listed)
      rw [put, if_neg different, inductionHypothesis missing]
      rfl

theorem mem_put_iff {entry : String × α} (distinct : (keys table).Nodup) :
    entry ∈ put key value table ↔ entry = (key, value) ∨ entry ∈ table ∧ entry.1 ≠ key := by
  induction table with
  | nil => simp [put]
  | cons head rest inductionHypothesis =>
      obtain ⟨present, old⟩ := head
      obtain ⟨fresh, restDistinct⟩ := List.nodup_cons.1 distinct
      by_cases replaced : present = key
      · subst replaced
        have others : entry ∈ rest → entry.1 ≠ present := by
          intro member same
          have listed : entry.1 ∈ keys rest := List.mem_map_of_mem member
          exact fresh (same ▸ listed)
        rw [put, if_pos rfl, List.mem_cons, List.mem_cons]
        constructor
        · rintro (rfl | member)
          · exact Or.inl rfl
          · exact Or.inr ⟨Or.inr member, others member⟩
        · rintro (rfl | ⟨rfl | member, different⟩)
          · exact Or.inl rfl
          · exact absurd rfl different
          · exact Or.inr member
      · rw [put, if_neg replaced, List.mem_cons, inductionHypothesis restDistinct, List.mem_cons]
        constructor
        · rintro (rfl | rfl | ⟨member, different⟩)
          · exact Or.inr ⟨Or.inl rfl, replaced⟩
          · exact Or.inl rfl
          · exact Or.inr ⟨Or.inr member, different⟩
        · rintro (rfl | ⟨rfl | member, different⟩)
          · exact Or.inr (Or.inl rfl)
          · exact Or.inl rfl
          · exact Or.inr (Or.inr ⟨member, different⟩)

end Putting

/-! ## Tables of lists -/

section Tables

/-- One key comes before another one in a list. -/
def ComesBefore (names : List String) (one other : String) : Prop :=
  names.idxOf one < names.idxOf other

/-- The last entry under a key. -/
def last? (key : String) (entries : List (String × α)) : Option (String × α) :=
  (entries.filter fun entry => entry.1 == key).getLast?

theorem ofList_concat (entries : List (String × α)) (entry : String × α) :
    ofList (entries ++ [entry]) = put entry.1 entry.2 (ofList entries) := by
  rw [ofList, List.foldl_append]
  rfl

theorem mem_keys_ofList_iff {key : String} {entries : List (String × α)} :
    key ∈ keys (ofList entries) ↔ key ∈ keys entries := by
  induction entries using List.reverseRecOn with
  | nil => rfl
  | append_singleton entries entry inductionHypothesis =>
      have listed : key ∈ keys (entries ++ [entry]) ↔ key ∈ keys entries ∨ key = entry.1 := by
        simp [keys]
      rw [ofList_concat, listed, ← inductionHypothesis]
      by_cases known : entry.1 ∈ keys (ofList entries)
      · rw [keys_put_of_mem known]
        refine ⟨Or.inl, ?_⟩
        rintro (member | rfl)
        · exact member
        · exact known
      · rw [put_of_not_mem known]
        simp [keys]

/-- Keys stand in a table in the order in which they came first. -/
theorem pairwise_keys_ofList (entries : List (String × α)) :
    (keys (ofList entries)).Pairwise (ComesBefore (keys entries)) := by
  induction entries using List.reverseRecOn with
  | nil => exact List.Pairwise.nil
  | append_singleton entries entry inductionHypothesis =>
      have extended : keys (entries ++ [entry]) = keys entries ++ [entry.1] := List.map_append
      have kept : (keys (ofList entries)).Pairwise (ComesBefore (keys (entries ++ [entry]))) := by
        refine inductionHypothesis.imp_of_mem fun oneListed otherListed before => ?_
        rw [ComesBefore, extended,
          List.idxOf_append_of_mem (mem_keys_ofList_iff.1 oneListed),
          List.idxOf_append_of_mem (mem_keys_ofList_iff.1 otherListed)]
        exact before
      rw [ofList_concat]
      by_cases known : entry.1 ∈ keys (ofList entries)
      · rw [keys_put_of_mem known]
        exact kept
      · rw [put_of_not_mem known]
        have appended : keys (ofList entries ++ [(entry.1, entry.2)]) =
            keys (ofList entries) ++ [entry.1] := List.map_append
        rw [appended]
        refine List.pairwise_append.2 ⟨kept, List.pairwise_singleton _ _, ?_⟩
        intro one oneListed other isEntry
        rw [List.mem_singleton.1 isEntry, ComesBefore, extended,
          List.idxOf_append_of_mem (mem_keys_ofList_iff.1 oneListed),
          List.idxOf_append_of_notMem fun listed => known (mem_keys_ofList_iff.2 listed)]
        have inside := List.idxOf_lt_length_iff.2 (mem_keys_ofList_iff.1 oneListed)
        exact Nat.lt_of_lt_of_le inside (Nat.le_add_right _ _)

theorem nodup_keys_ofList (entries : List (String × α)) : (keys (ofList entries)).Nodup := by
  refine (pairwise_keys_ofList entries).imp ?_
  rintro one _ before rfl
  exact Nat.lt_irrefl _ before

/-- A table holds the last entry under each of its keys. -/
theorem mem_ofList_iff {entries : List (String × α)} {entry : String × α} :
    entry ∈ ofList entries ↔ last? entry.1 entries = some entry := by
  induction entries using List.reverseRecOn with
  | nil => simp [ofList, last?]
  | append_singleton entries newest inductionHypothesis =>
      have last : last? entry.1 (entries ++ [newest]) =
          if newest.1 = entry.1 then some newest else last? entry.1 entries := by
        by_cases same : newest.1 = entry.1 <;> simp [last?, same]
      rw [ofList_concat, mem_put_iff (nodup_keys_ofList entries), inductionHypothesis, last]
      by_cases same : newest.1 = entry.1
      · rw [if_pos same]
        refine ⟨?_, fun isNewest => Or.inl (Option.some.inj isNewest).symm⟩
        rintro (isNewest | ⟨-, different⟩)
        · rw [isNewest]
        · exact absurd same.symm different
      · rw [if_neg same]
        refine ⟨?_, fun isLast => Or.inr ⟨isLast, fun equal => same equal.symm⟩⟩
        rintro (isNewest | ⟨isLast, -⟩)
        · exact absurd (congrArg Prod.fst isNewest).symm same
        · exact isLast

end Tables

/-! ## Occurrences -/

/-- A key occurs in a text where no small letter of the plain alphabet precedes it. -/
def OccursIn (key text : List Char) : Prop :=
  ∃ opening closing, text = opening ++ (key ++ closing) ∧
    ∀ c ∈ opening.getLast?, c.isLower = false

theorem OccursIn.length_le {key text : List Char} (occurs : OccursIn key text) :
    key.length ≤ text.length := by
  obtain ⟨opening, closing, rfl, -⟩ := occurs
  simp only [List.length_append]
  omega

theorem occursIn_self (key : List Char) : OccursIn key key :=
  ⟨[], [], (List.append_nil key).symm, fun _ member => nomatch member⟩

theorem OccursIn.eq_of_length_le
    {key text : List Char} (occurs : OccursIn key text) (whole : text.length ≤ key.length) :
    key = text := by
  obtain ⟨opening, closing, rfl, -⟩ := occurs
  simp only [List.length_append] at whole
  have noOpening : opening = [] := List.eq_nil_of_length_eq_zero (by omega)
  have noClosing : closing = [] := List.eq_nil_of_length_eq_zero (by omega)
  simp [noOpening, noClosing]

theorem all_before_iff {before : Option Char} :
    (!before.any Char.isLower) = true ↔ ∀ c ∈ before, c.isLower = false := by
  cases before <;> simp

theorem getLast?_cons_or (first : Char) (opening : List Char) (before : Option Char) :
    (first :: opening).getLast?.or before = opening.getLast?.or (some first) := by
  rw [List.getLast?_cons]
  cases opening.getLast? <;> rfl

theorem beginsIn_iff {key text : List Char} {before : Option Char} :
    beginsIn key before text = true ↔
      ∃ opening closing, text = opening ++ (key ++ closing) ∧
        ∀ c ∈ opening.getLast?.or before, c.isLower = false := by
  induction text generalizing before with
  | nil =>
      rw [beginsIn, Bool.and_eq_true, all_before_iff, List.isEmpty_iff]
      constructor
      · rintro ⟨rfl, free⟩
        exact ⟨[], [], rfl, free⟩
      · rintro ⟨opening, closing, split, free⟩
        obtain ⟨rfl, rest⟩ := List.append_eq_nil_iff.1 split.symm
        exact ⟨(List.append_eq_nil_iff.1 rest).1, free⟩
  | cons first rest inductionHypothesis =>
      rw [beginsIn, Bool.or_eq_true, Bool.and_eq_true, all_before_iff, List.isPrefixOf_iff_prefix,
        inductionHypothesis]
      constructor
      · rintro (⟨free, closing, split⟩ | ⟨opening, closing, split, free⟩)
        · exact ⟨[], closing, split.symm, free⟩
        · refine ⟨first :: opening, closing, congrArg (List.cons first) split, ?_⟩
          rwa [getLast?_cons_or]
      · rintro ⟨opening, closing, split, free⟩
        cases opening with
        | nil => exact Or.inl ⟨free, closing, split.symm⟩
        | cons head opening =>
            obtain ⟨rfl, restSplit⟩ := List.cons.inj split
            rw [getLast?_cons_or] at free
            exact Or.inr ⟨opening, closing, restSplit, free⟩

theorem beginsIn_none_iff {key text : List Char} :
    beginsIn key none text = true ↔ OccursIn key text := by
  rw [beginsIn_iff]
  simp only [Option.or_none]
  rfl

/-! ## What is found -/

/-- Of the names that occur in a text the longest, of those of one length the first. -/
structure IsBest (names : List String) (text key : String) : Prop where
  listed : key ∈ names
  occurs : OccursIn key.toList text.toList
  best : ∀ other ∈ names, OccursIn other.toList text.toList →
    other.length < key.length ∨
      other.length = key.length ∧ names.idxOf key ≤ names.idxOf other

theorem IsBest.unique
    {names : List String} {text one other : String}
    (oneBest : IsBest names text one) (otherBest : IsBest names text other) :
    one = other := by
  rcases oneBest.best other otherBest.listed otherBest.occurs with shorter | ⟨asLong, first⟩
  · rcases otherBest.best one oneBest.listed oneBest.occurs with longer | ⟨asLong, -⟩
    · exact absurd longer (Nat.lt_asymm shorter)
    · exact absurd asLong (Nat.ne_of_gt shorter)
  · rcases otherBest.best one oneBest.listed oneBest.occurs with longer | ⟨-, second⟩
    · exact absurd asLong (Nat.ne_of_gt longer)
    · exact (List.idxOf_inj oneBest.listed).1 (Nat.le_antisymm first second)

/-- A text that is itself one of the names has no better one in it. -/
theorem isBest_self {names : List String} {key : String} (listed : key ∈ names) :
    IsBest names key key := by
  refine ⟨listed, occursIn_self key.toList, fun other _ occurs => ?_⟩
  rcases Nat.lt_or_eq_of_le occurs.length_le with shorter | asLong
  · exact Or.inl shorter
  · have same : other = key :=
      String.toList_inj.1 (occurs.eq_of_length_le (Nat.le_of_eq asLong.symm))
    rw [same]
    exact Or.inr ⟨rfl, Nat.le_refl _⟩

section Finding

variable {entries : List (String × α)} {text : String}

/-- What is found is a value of the table under the best of its keys. -/
theorem exists_isBest_of_find?
    {value : α} (found : (ofList entries).find? text = some value) :
    ∃ key, IsBest (keys entries) (Text.lower text) key ∧ (key, value) ∈ ofList entries := by
  obtain ⟨⟨key, value⟩, isEntry, rfl⟩ := Option.map_eq_some_iff.1 found
  have listed : (key, value) ∈ ofList entries :=
    mem_sortBy_iff.1 (List.mem_of_find?_eq_some isEntry)
  have occurs : beginsIn key.toList none (Text.lower text).toList = true := by
    simpa using List.find?_some isEntry
  refine ⟨key, ⟨?_, beginsIn_none_iff.1 occurs, fun other otherListed otherOccurs => ?_⟩, listed⟩
  · exact mem_keys_ofList_iff.1 (List.mem_map_of_mem listed)
  · obtain ⟨entry, isOther, rfl⟩ := List.mem_map.1 (mem_keys_ofList_iff.2 otherListed)
    have inOrder := List.pairwise_map.1 (pairwise_keys_ofList entries)
    rcases comesFirst_of_find?_sortBy
        (fun one other => by simpa using Nat.le_total other.1.length one.1.length)
        (fun one middle other => by simpa using fun first second => Nat.le_trans second first)
        inOrder isEntry entry isOther (beginsIn_none_iff.2 otherOccurs) with rfl | comesFirst
    · exact Or.inr ⟨rfl, Nat.le_refl _⟩
    · rcases Nat.lt_or_eq_of_le (of_decide_eq_true comesFirst.mayPrecede) with shorter | asLong
      · exact Or.inl shorter
      · have before := comesFirst.inFront_of_tied (decide_eq_true (Nat.le_of_eq asLong.symm))
        exact Or.inr ⟨asLong, Nat.le_of_lt before⟩

theorem find?_ofList_eq_none_iff :
    (ofList entries).find? text = none ↔
      ∀ key ∈ keys entries, ¬OccursIn key.toList (Text.lower text).toList := by
  rw [find?, Option.map_eq_none_iff, List.find?_eq_none]
  constructor
  · intro nothing key listed occurs
    obtain ⟨entry, isEntry, rfl⟩ := List.mem_map.1 (mem_keys_ofList_iff.2 listed)
    exact nothing entry (mem_sortBy_iff.2 isEntry) (beginsIn_none_iff.2 occurs)
  · intro nothing entry isSorted begins
    have isEntry : entry ∈ ofList entries := mem_sortBy_iff.1 isSorted
    have listed : entry.1 ∈ keys entries := mem_keys_ofList_iff.1 (List.mem_map_of_mem isEntry)
    exact nothing entry.1 listed (beginsIn_none_iff.1 begins)

theorem find?_ofList_eq_some_iff {value : α} :
    (ofList entries).find? text = some value ↔
      ∃ key, IsBest (keys entries) (Text.lower text) key ∧ (key, value) ∈ ofList entries := by
  refine ⟨exists_isBest_of_find?, ?_⟩
  rintro ⟨key, isBest, isEntry⟩
  cases found : (ofList entries).find? text with
  | none =>
      exact absurd isBest.occurs (find?_ofList_eq_none_iff.1 found key isBest.listed)
  | some other =>
      obtain ⟨otherKey, otherBest, otherEntry⟩ := exists_isBest_of_find? found
      rw [isBest.unique otherBest] at isEntry
      have otherIsLast : last? otherKey entries = some (otherKey, other) :=
        mem_ofList_iff.1 otherEntry
      have isLast : last? otherKey entries = some (otherKey, value) := mem_ofList_iff.1 isEntry
      have same := Option.some.inj (otherIsLast.symm.trans isLast)
      exact congrArg some (congrArg Prod.snd same)

end Finding

/-! ## Named things -/

/-- The last of some things whose name in small letters is a given one. -/
def lastNamed? (name : α → String) (values : List α) (key : String) : Option α :=
  (values.filter fun value => Text.lower (name value) == key).getLast?

/-- How a search among named things goes: it comes to the last bearer of the longest name in the
text, of names of one length of the one that came first, and to nothing if no name occurs. A name
that is searched for as it stands is found. -/
structure SearchesNames (name : α → String) (values : List α) (search : String → Option α) :
    Prop where
  some_iff : ∀ text value, search text = some value ↔
    ∃ key, IsBest (values.map fun value => Text.lower (name value)) (Text.lower text) key ∧
      lastNamed? name values key = some value
  none_iff : ∀ text, search text = none ↔
    ∀ value ∈ values, ¬OccursIn (Text.lower (name value)).toList (Text.lower text).toList
  own : ∀ value ∈ values, ∃ last,
    lastNamed? name values (Text.lower (name value)) = some last ∧ search (name value) = some last

section Named

variable {name : α → String} {values : List α}

theorem keys_named :
    keys (values.map fun value => (Text.lower (name value), value)) =
      values.map fun value => Text.lower (name value) := by
  rw [keys, List.map_map]
  rfl

theorem last?_named (key : String) :
    last? key (values.map fun value => (Text.lower (name value), value)) =
      (lastNamed? name values key).map fun value => (Text.lower (name value), value) := by
  rw [last?, List.filter_map, List.getLast?_map]
  rfl

theorem mem_ofNamed_iff {key : String} {value : α} :
    (key, value) ∈ ofNamed name values ↔ lastNamed? name values key = some value := by
  have isEntry : (key, value) ∈ ofNamed name values ↔
      last? key (values.map fun value => (Text.lower (name value), value)) = some (key, value) :=
    mem_ofList_iff
  rw [isEntry, last?_named, Option.map_eq_some_iff]
  constructor
  · rintro ⟨last, found, same⟩
    exact found.trans (congrArg some (congrArg Prod.snd same))
  · intro found
    have bearer := (List.mem_filter.1 (List.mem_of_getLast? found)).2
    exact ⟨value, found, congrArg (·, value) (beq_iff_eq.1 bearer)⟩

theorem exists_lastNamed?
    (name : α → String) {value : α} (listed : value ∈ values) :
    ∃ last, lastNamed? name values (Text.lower (name value)) = some last := by
  apply Option.isSome_iff_exists.1
  apply List.getLast?_isSome.2
  exact List.ne_nil_of_mem (List.mem_filter.2 ⟨listed, beq_self_eq_true _⟩)

theorem find?_ofNamed_eq_some_iff {text : String} {value : α} :
    (ofNamed name values).find? text = some value ↔
      ∃ key, IsBest (values.map fun value => Text.lower (name value)) (Text.lower text) key ∧
        lastNamed? name values key = some value := by
  rw [ofNamed, find?_ofList_eq_some_iff, keys_named]
  exact exists_congr fun key => and_congr_right fun _ => mem_ofNamed_iff

theorem searchesNames_ofNamed (name : α → String) (values : List α) :
    SearchesNames name values (ofNamed name values).find? where
  some_iff _ _ := find?_ofNamed_eq_some_iff
  none_iff text := by
    rw [ofNamed, find?_ofList_eq_none_iff, keys_named, List.forall_mem_map]
  own value listed := by
    obtain ⟨last, isLast⟩ := exists_lastNamed? name listed
    refine ⟨last, isLast, find?_ofNamed_eq_some_iff.2 ⟨_, isBest_self ?_, isLast⟩⟩
    exact List.mem_map_of_mem listed

-- the second name has the first one in it, and the third one takes the place of the first
example :
    ["Swing the GREATCLUB!", "Swing the club!", "Swing the golfclub!"].map
        (ofNamed id ["Club", "Greatclub", "CLUB"]).find? =
      [some "Greatclub", some "CLUB", none] := by
  decide +kernel

end Named

end Entries

/-- Weapons and spells are found by the longest of their names in a text, whatever its case. -/
theorem names_are_found
    (weapons : List Weapon) (spells : List Spell) :
    let compendium : Compendium :=
      ⟨Entries.ofNamed Weapon.name weapons, Entries.ofNamed Spell.name spells⟩
    Entries.SearchesNames Weapon.name weapons compendium.findWeapon? ∧
      Entries.SearchesNames Spell.name spells compendium.findSpell? :=
  ⟨Entries.searchesNames_ofNamed Weapon.name weapons,
    Entries.searchesNames_ofNamed Spell.name spells⟩

end Tabletop
