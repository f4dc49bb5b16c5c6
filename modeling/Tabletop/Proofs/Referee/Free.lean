import Tabletop.Proofs.Casting
import Tabletop.Proofs.Outcome.Stages
import Tabletop.Proofs.Pattern.Search
import Tabletop.Proofs.Referee.Resolution

/-!
# Described actions come to an outcome

Whatever a player says, there is an outcome. It stays unresolved just if the text speaks of no spell
of the compendium, of no attack with a weapon and of no ability or skill; then nothing is rolled, and
a note says why.
-/

namespace Tabletop

open Numeral Pattern Text

variable {Allowed : Fault → Prop}

/-! ## The numbers of an action -/

namespace Wording

theorem eq_digits_of_mem_parts :
    ∀ pattern ∈ [slotLevel, armorClass, difficulty],
      ∀ part ∈ pattern.parts (), part = digits := by
  decide

theorem failsOnly_numberIn
    {pattern : Pattern Unit} {text : List Char}
    (listed : pattern ∈ [slotLevel, armorClass, difficulty])
    (short : ∀ run, run <:+: text → (∀ c ∈ run, isDigit c = true) → run.length ≤ digitLimit) :
    (Rolling.lift (numberIn pattern text)).FailsOnly Allowed := by
  apply Rolling.failsOnly_lift
  intro fault failed
  rw [numberIn] at failed
  cases isSaid : (pattern.search? text).bind (·.mark? ()) with
  | none =>
      rw [isSaid] at failed
      cases failed
  | some said =>
      obtain ⟨inner, isPart, _, reads, inside⟩ := part_of_mark?_search? isSaid
      rw [eq_digits_of_mem_parts pattern listed inner isPart] at reads
      have saidShort : said.toList.length ≤ digitLimit := short said.toList inside reads.1
      simp only [isSaid, readNat_eq_ok saidShort] at failed
      cases failed

theorem named_alwaysMarks : named.alwaysMarks () = true := by
  decide

end Wording

/-! ## What kind of outcome -/

theorem CheckRequest.ensures_kind
    (request : CheckRequest) (character : Character) (proficiency : Int) :
    (request.resolve character proficiency).Ensures fun outcome => outcome.kind = request.kind := by
  intro tray outcome done
  have shown := request.ensures_unrolled character proficiency tray outcome done
  exact congrArg Outcome.kind shown

theorem AttackRequest.ensures_kind
    (request : AttackRequest) (compendium : Compendium) (texts : List (Option String))
    (character : Character) (proficiency : Int) :
    (request.resolve compendium texts character proficiency).Ensures fun outcome =>
      outcome.kind = request.kind := by
  intro tray outcome done
  obtain ⟨weapon, ability, notes, shown⟩ :=
    request.ensures_unrolled compendium texts character proficiency tray outcome done
  exact congrArg Outcome.kind shown

theorem CastRequest.ensures_kind
    (request : CastRequest) (character : Character) (proficiency : Int) :
    (request.resolve character proficiency).Ensures fun outcome => outcome.kind = .spellCast := by
  intro tray outcome done
  have shown := request.ensures_unrolled character proficiency tray outcome done
  exact (congrArg Outcome.kind shown).trans (request.announced_shows _ proficiency).1

namespace Referee

variable (referee : Referee)

/-! ## What is understood -/

/-- The spell that an action casts: one of the compendium, if the text speaks of spells. -/
def spellIn? (text : String) : Option Spell :=
  if Wording.spellWord.occursIn text.toList then referee.compendium.findSpell? text else none

/-- An action is understood if it casts a spell, attacks with a weapon or names an ability or a
skill. -/
def Understands (text : String) : Prop :=
  (Wording.spellWord.occursIn text.toList = true ∧
      (referee.compendium.findSpell? text).isSome = true) ∨
    Wording.weaponVerb.occursIn text.toList = true ∨ Wording.named.occursIn text.toList = true

theorem spellIn?_eq_some_iff {text : String} {spell : Spell} :
    referee.spellIn? text = some spell ↔
      Wording.spellWord.occursIn text.toList = true ∧
        referee.compendium.findSpell? text = some spell := by
  rw [spellIn?]
  by_cases speaksOfSpell : Wording.spellWord.occursIn text.toList = true
  · simp [speaksOfSpell]
  · simp [speaksOfSpell]

theorem resolveFree_of_spell
    {text : String} {spell : Spell} (casts : referee.spellIn? text = some spell)
    (character : Character) (override : Option Int) :
    referee.resolveFree text character override = (do
      let slot ← Rolling.lift (Wording.numberIn Wording.slotLevel text.toList)
      let target ← Rolling.lift (Wording.numberIn Wording.armorClass text.toList)
      let request : CastRequest :=
        { spell := spell, description := text, slot := slot, target := target }
      request.resolve character (referee.proficiency character override)) := by
  obtain ⟨speaksOfSpell, found⟩ := referee.spellIn?_eq_some_iff.1 casts
  rw [resolveFree, if_pos speaksOfSpell, found]

/-- Without a spell an action is an attack or a check; it may have a note on the spell that was
looked for. -/
theorem exists_notes_of_no_spell
    {text : String} (noSpell : referee.spellIn? text = none)
    (character : Character) (override : Option Int) :
    ∃ notes,
      referee.resolveFree text character override =
        referee.resolveArmed text character (referee.proficiency character override) notes := by
  rw [spellIn?] at noSpell
  by_cases speaksOfSpell : Wording.spellWord.occursIn text.toList = true
  · rw [if_pos speaksOfSpell] at noSpell
    rw [resolveFree, if_pos speaksOfSpell, noSpell]
    exact ⟨_, rfl⟩
  · rw [resolveFree, if_neg speaksOfSpell]
    exact ⟨_, rfl⟩

/-! ## Actions that are not understood -/

/-- The outcome of an action that is not understood. -/
def notUnderstood (text : String) (notes : List String) : Outcome where
  kind := .unresolved
  description := text
  notes := notes ++ ["No ability, skill, weapon or spell recognized"]

theorem exists_notes_of_not_understands
    {text : String} (unknown : ¬referee.Understands text)
    (character : Character) (override : Option Int) :
    ∃ notes,
      referee.resolveFree text character override = pure (notUnderstood text notes) := by
  obtain ⟨noSpell, unarmed, unnamed⟩ :
      referee.spellIn? text = none ∧ Wording.weaponVerb.occursIn text.toList = false ∧
        Wording.named.occursIn text.toList = false := by
    rw [Understands, not_or, not_or, Bool.not_eq_true, Bool.not_eq_true] at unknown
    refine ⟨?_, unknown.2⟩
    cases casts : referee.spellIn? text with
    | none => rfl
    | some spell =>
        obtain ⟨speaksOfSpell, found⟩ := referee.spellIn?_eq_some_iff.1 casts
        exact absurd ⟨speaksOfSpell, Option.isSome_of_eq_some found⟩ unknown.1
  obtain ⟨notes, isArmed⟩ := referee.exists_notes_of_no_spell noSpell character override
  have noName : (Wording.named.search? text.toList).bind (·.mark? ()) = none :=
    (mark?_search?_eq_none_iff Wording.named_alwaysMarks text.toList).2 unnamed
  have isWeaponless : ¬Wording.weaponVerb.occursIn text.toList = true := by
    rw [unarmed]
    exact Bool.false_ne_true
  refine ⟨notes, ?_⟩
  rw [isArmed, resolveArmed, if_neg isWeaponless, resolveNamed, noName]
  rfl

/-! ## Actions that are understood -/

theorem ensures_isResolved
    {text : String} (known : referee.Understands text)
    (character : Character) (override : Option Int) :
    (referee.resolveFree text character override).Ensures fun outcome =>
      outcome.kind ≠ .unresolved := by
  have isKind {work : Rolling Outcome} {kind : ActionKind} (other : kind ≠ .unresolved)
      (ensured : work.Ensures fun outcome => outcome.kind = kind) :
      work.Ensures fun outcome => outcome.kind ≠ .unresolved := by
    intro tray outcome done
    rw [ensured tray outcome done]
    exact other
  cases casts : referee.spellIn? text with
  | some spell =>
      rw [referee.resolveFree_of_spell casts]
      refine Rolling.ensures_bind fun slot => Rolling.ensures_bind fun target => ?_
      exact isKind (by decide) (CastRequest.ensures_kind _ character _)
  | none =>
      obtain ⟨notes, isArmed⟩ := referee.exists_notes_of_no_spell casts character override
      rw [isArmed, resolveArmed]
      by_cases armed : Wording.weaponVerb.occursIn text.toList = true
      · rw [if_pos armed]
        refine Rolling.ensures_bind fun target => ?_
        exact isKind (by simp) (AttackRequest.ensures_kind _ _ _ character _)
      · rw [if_neg armed, resolveNamed]
        have named : Wording.named.occursIn text.toList = true := by
          rcases known with ⟨speaksOfSpell, found⟩ | armed' | named
          · obtain ⟨spell, found⟩ := Option.isSome_iff_exists.1 found
            rw [referee.spellIn?_eq_some_iff.2 ⟨speaksOfSpell, found⟩] at casts
            cases casts
          · exact absurd armed' armed
          · exact named
        cases isSaid : (Wording.named.search? text.toList).bind (·.mark? ()) with
        | none =>
            rw [mark?_search?_eq_none_iff Wording.named_alwaysMarks, named] at isSaid
            cases isSaid
        | some said =>
            refine Rolling.ensures_bind fun difficulty => ?_
            refine isKind ?_ (CheckRequest.ensures_kind _ character _)
            split <;> simp

/-! ## Faults -/

section Faults

variable {text : String}
  (short : ∀ run, run <:+: text.toList → (∀ c ∈ run, isDigit c = true) →
    run.length ≤ digitLimit)
include short

theorem failsOnly_resolveNamed
    (character : Character) (proficiency : Int) (notes : List String) :
    (resolveNamed text character proficiency notes).FailsOnly Allowed := by
  rw [resolveNamed]
  split
  · exact Rolling.failsOnly_pure _
  · refine Rolling.failsOnly_bind (Wording.failsOnly_numberIn (by simp) short) fun _ => ?_
    exact CheckRequest.failsOnly_resolve _ character proficiency

theorem failsOnly_resolveArmed
    (rollable : referee.compendium.Rollable)
    (character : Character) (proficiency : Int) (notes : List String) :
    (referee.resolveArmed text character proficiency notes).FailsOnly Allowed := by
  rw [resolveArmed]
  split
  · refine Rolling.failsOnly_bind (Wording.failsOnly_numberIn (by simp) short) fun target => ?_
    have noDamage : DamageFails none Allowed := by
      intro damage absent
      cases absent
    exact AttackRequest.failsOnly_resolve noDamage rollable _ character proficiency
  · exact failsOnly_resolveNamed short character proficiency notes

theorem failsOnly_resolveFree
    (moderate : referee.compendium.Moderate)
    (character : Character) (override : Option Int) :
    (referee.resolveFree text character override).FailsOnly Allowed := by
  cases casts : referee.spellIn? text with
  | some spell =>
      obtain ⟨-, found⟩ := referee.spellIn?_eq_some_iff.1 casts
      obtain ⟨entry, listed, rfl⟩ := Entries.exists_mem_of_find? found
      have spellModerate : ∀ dice ∈ entry.2.dice, dice.Moderate := by
        intro dice member
        apply moderate
        exact List.mem_append_right _ (List.mem_flatMap.2 ⟨entry, listed, member⟩)
      rw [referee.resolveFree_of_spell casts]
      refine Rolling.failsOnly_bind (Wording.failsOnly_numberIn (by simp) short) fun slot => ?_
      refine Rolling.failsOnly_bind (Wording.failsOnly_numberIn (by simp) short) fun target => ?_
      exact CastRequest.failsOnly_resolve _ spellModerate character _
  | none =>
      -- without a spell only weapons are rolled for, and their dice as they are
      have rollable : referee.compendium.Rollable := by
        intro entry listed
        have isWeapon : entry.2.damage.dice ∈ referee.compendium.dice :=
          List.mem_append_left _ (List.mem_map_of_mem listed)
        exact (moderate _ isWeapon).rollable
      obtain ⟨notes, isArmed⟩ := referee.exists_notes_of_no_spell casts character override
      rw [isArmed]
      exact referee.failsOnly_resolveArmed short rollable character _ notes

end Faults

end Referee

/-- A described action without overlong numbers comes to an outcome. The outcome is unresolved just
if the action is not understood, and then no draw was taken and there is a note. -/
theorem described_actions_resolve
    (referee : Referee) (text : String) (character : Character) (override : Option Int)
    (tray : Tray)
    (short : ∀ run, run <:+: text.toList → (∀ c ∈ run, isDigit c = true) →
      run.length ≤ digitLimit)
    (moderate : referee.compendium.Moderate) (below : tray.BelowOne) :
    ∃ outcome after,
      referee.resolveFree text character override tray = (.ok outcome, after) ∧
        (outcome.kind = .unresolved ↔ ¬referee.Understands text) ∧
        (outcome.kind = .unresolved → after = tray ∧ outcome.notes ≠ []) := by
  by_cases known : referee.Understands text
  · have fails : (referee.resolveFree text character override).FailsOnly fun _ => False :=
      referee.failsOnly_resolveFree short moderate character override
    rcases fails.cases below with ⟨outcome, done⟩ | ⟨_, -, impossible⟩
    · have isResolved : outcome.kind ≠ .unresolved :=
        referee.ensures_isResolved known character override tray outcome done
      refine ⟨outcome, _, Prod.ext done rfl, ?_, fun unresolved => absurd unresolved isResolved⟩
      exact ⟨fun unresolved => absurd unresolved isResolved, fun unknown => absurd known unknown⟩
    · exact impossible.elim
  · obtain ⟨notes, isUnresolved⟩ :=
      referee.exists_notes_of_not_understands known character override
    rw [isUnresolved]
    refine ⟨Referee.notUnderstood text notes, tray, rfl, ?_, fun _ => ⟨rfl, ?_⟩⟩
    · exact ⟨fun _ => known, fun _ => rfl⟩
    · exact List.append_ne_nil_of_right_ne_nil notes (List.cons_ne_nil _ [])

/-- A fireball, for which dice are rolled, and a dance, which is not understood. -/
theorem described_actions_resolve_for_a_fireball_and_a_dance :
    (∃ outcome after,
      Referee.resolveFree ⟨Compendium.standard, {}⟩ "I cast fireball at level 5" {} none
          ⟨Source.ofList [], 0⟩ = (.ok outcome, after) ∧
        outcome.kind ≠ .unresolved) ∧
      ∃ outcome,
        Referee.resolveFree ⟨Compendium.standard, {}⟩ "I dance" {} none
            ⟨Source.ofList [], 0⟩ = (.ok outcome, ⟨Source.ofList [], 0⟩) ∧
          outcome.kind = .unresolved ∧ outcome.notes ≠ [] := by
  have short (text : String) (few : text.toList.length ≤ digitLimit) :
      ∀ run, run <:+: text.toList → (∀ c ∈ run, isDigit c = true) → run.length ≤ digitLimit :=
    fun run inside _ => inside.length_le.trans few
  have below : Tray.BelowOne ⟨Source.ofList [], 0⟩ := Source.belowOne_ofList (by simp)
  constructor
  · obtain ⟨outcome, after, done, unresolved, -⟩ :=
      described_actions_resolve ⟨Compendium.standard, {}⟩ "I cast fireball at level 5" {} none
        ⟨Source.ofList [], 0⟩ (short _ (by decide)) Compendium.standard_moderate below
    have known :
        Referee.Understands ⟨Compendium.standard, {}⟩ "I cast fireball at level 5" := by
      left
      decide
    exact ⟨outcome, after, done, fun isUnresolved => unresolved.1 isUnresolved known⟩
  · obtain ⟨outcome, after, done, unresolved, quiet⟩ :=
      described_actions_resolve ⟨Compendium.standard, {}⟩ "I dance" {} none
        ⟨Source.ofList [], 0⟩ (short _ (by decide)) Compendium.standard_moderate below
    have unknown : ¬Referee.Understands ⟨Compendium.standard, {}⟩ "I dance" := by
      unfold Referee.Understands
      decide
    have isUnresolved := unresolved.2 unknown
    obtain ⟨rfl, noted⟩ := quiet isUnresolved
    exact ⟨outcome, done, isUnresolved, noted⟩

end Tabletop
