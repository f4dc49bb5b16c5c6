import Tabletop.Proofs.Prompt.Checks
import Tabletop.Proofs.Prompt.Difficulties
import Tabletop.Proofs.Prompt.Opening

/-!
# Two difficulties behind a request

A request of a check or a saving throw with two difficulties is one prompt, which has the one in
front. Only where a skill is named in brackets is there no form for a request: its words go for
nothing.
-/

namespace Tabletop.Prompt

open Numeral Pattern

namespace Task

/-! ## Forms of requests -/

/-- The form of a request of a task; there is none for a skill in brackets. -/
def requestForm? : Task → Option Form
  | .check _ _ => some Form.requestedCheck
  | .save _ _ => some Form.requestedSave
  | .skillCheck _ _ _ => none

/-- The number of forms that go before the one of a request. -/
def requestRank : Task → Nat
  | .check _ _ => 2
  | .save _ _ => 7
  | .skillCheck _ _ _ => 0

/-- A form is sure to match all of a request, while the forms that go before do not match at its
beginning. -/
def asks (task : Task) (form : Form) : Bool :=
  ((Form.all.take task.requestRank).all fun other =>
      (other.pattern.sketch none (request ++ task.outline)).isEmpty) &&
    match form.pattern.sketch none (request ++ task.outline) with
    | .sure _ [] marks :: _ => task.marksFit 0 marks
    | _ => false

theorem asks_of_ability :
    ∀ ability ∈ Ability.all, ∀ short ∈ [true, false],
      (check short ability).asks Form.requestedCheck = true ∧
        (save short ability).asks Form.requestedSave = true := by
  decide +kernel

theorem asks_of_requestForm? {task : Task} {form : Form} (isForm : task.requestForm? = some form) :
    task.asks form = true := by
  have known (short : Bool) (ability : Ability) :=
    asks_of_ability ability ability.mem_all short (by cases short <;> decide)
  cases task with
  | check short ability =>
      obtain rfl := Option.some.inj isForm
      exact (known short ability).1
  | save short ability =>
      obtain rfl := Option.some.inj isForm
      exact (known short ability).2
  | skillCheck short ability skill => cases isForm

theorem requestForm_split {task : Task} {form : Form} (isForm : task.requestForm? = some form) :
    Form.all = Form.all.take task.requestRank ++
      form :: Form.all.drop (task.requestRank + 1) := by
  cases task with
  | check short ability | save short ability =>
      obtain rfl := Option.some.inj isForm
      rfl
  | skillCheck short ability skill => cases isForm

/-! ## Requests of a skill in brackets -/

/-- The forms that do not begin with a request. -/
def otherwiseBegun : List Form :=
  Form.all.take 2 ++ ((Form.all.drop 3).take 4 ++ (Form.all.drop 8).take 2 ++ Form.all.drop 11)

/-- Of the forms that begin with a request, the patterns in front of all that asks for a bracket,
with the patterns behind. -/
def requestParts : List (List (Pattern Label) × List (Pattern Label)) :=
  [([Prompt.request, optional leadingDifficulty, anyName, abilityCheck],
      [trailing .trailingDifficulty]),
    ([Prompt.request, optional leadingDifficulty, .mark .name Pattern.ability, Prompt.save],
      [trailing .trailingDifficulty]),
    ([Prompt.request, mode, phrase "attack roll", .wordEdge, optional target, damage], [])]

theorem begun_or_otherwise {form : Form} (listed : form ∈ Form.all) :
    form ∈ otherwiseBegun ∨
      ∃ parts ∈ requestParts, form.pattern = sequence (parts.1 ++ parts.2) := by
  have split : Form.all =
      Form.all.take 2 ++ Form.requestedCheck :: ((Form.all.drop 3).take 4 ++ Form.requestedSave ::
        ((Form.all.drop 8).take 2 ++ Form.requestedAttack :: Form.all.drop 11)) := rfl
  rw [split] at listed
  simp only [List.mem_append, List.mem_cons] at listed
  simp only [otherwiseBegun, List.mem_append]
  rcases listed with member | rfl | member | rfl | member | rfl | member
  · exact Or.inl (Or.inl member)
  · exact Or.inr ⟨_, List.mem_cons_self, rfl⟩
  · exact Or.inl (Or.inr (Or.inl (Or.inl member)))
  · exact Or.inr ⟨_, List.mem_cons_of_mem _ List.mem_cons_self, rfl⟩
  · exact Or.inl (Or.inr (Or.inl (Or.inr member)))
  · exact Or.inr ⟨_, List.mem_cons_of_mem _ (List.mem_cons_of_mem _ List.mem_cons_self), rfl⟩
  · exact Or.inl (Or.inr (Or.inr member))

/-- No form matches further on in the words of a request, whatever follows. -/
theorem passes_request (rest : Outline) :
    (Form.all.all fun form => form.pattern.passes request.head? request.tail rest) = true := by
  rfl

theorem misses_request (rest : Outline) :
    (otherwiseBegun.all fun form =>
      form.pattern.misses none (request ++ (lead ++ rest))) = true := by
  rfl

/-- The outline of a request up to the bracket. -/
def openingOutline (short : Bool) (ability : Ability) : Outline :=
  request ++ (lead ++ (plain (ability.word short) ++ [.gap]))

theorem misses_openingOutline :
    ∀ parts ∈ requestParts,
      (sequence parts.1).asksOnly (fun set => !set.holds '(') = true ∧
        ∀ ability ∈ Ability.all, ∀ short ∈ [true, false],
          (sequence parts.1).misses none (openingOutline short ability) = true := by
  decide +kernel

namespace Written

section

variable {task : Task} (written : task.Written) {requestText : List Char}
  (isRequest : Task.request.WrittenAs written.numbers requestText)
include isRequest

theorem isAsked :
    Outline.WrittenAs written.numbers (Task.request ++ task.outline)
      (requestText ++ written.text) :=
  isRequest.append written.isOutline

/-! ## Requests with a form -/

theorem suggestions_of_request
    {form : Form} (isForm : task.requestForm? = some form) :
    suggestions (String.ofList (requestText ++ written.text)) =
      .ok [task.suggestion form (written.numbers 0) ⟨0, (requestText ++ written.text).length⟩
        (requestText ++ written.text)] := by
  have isAsked : Outline.WrittenAs written.numbers (Task.request ++ task.outline)
      (String.ofList (requestText ++ written.text)).toList := by
    rw [String.toList_ofList]
    exact written.isAsked isRequest
  have apart : numbersApart (Task.request ++ task.outline) = true := task.numbersApart_outline
  have fit : NumbersFit (String.ofList (requestText ++ written.text)).toList :=
    numbersFit_of_apart written.isRun written.short apart isAsked
  have nonempty : Task.request ++ task.outline ≠ [] := List.cons_ne_nil _ _
  have known := asks_of_requestForm? isForm
  rw [asks, Bool.and_eq_true, List.all_eq_true] at known
  obtain ⟨unmatched, sure⟩ := known
  split at sure
  case h_2 => cases sure
  case h_1 marks others sketched =>
    obtain ⟨hit, span, shown, isMarked, found⟩ :=
      exists_hit_of_sketch written.isRun isAsked nonempty fit (requestForm_split isForm)
        (fun other listed => List.isEmpty_iff.1 (unmatched other listed)) sketched
    have kinds : form.bracketed = false ∧ form.kind = task.kind := by
      cases task with
      | check short ability | save short ability =>
          obtain rfl := Option.some.inj isForm
          exact ⟨rfl, rfl⟩
      | skillCheck short ability skill => cases isForm
    obtain ⟨reading, read, made⟩ :=
      makes written.isRun (written.short 0) isMarked sure kinds.1 kinds.2
    rw [found reading _ read made, span, shown, String.length_ofList, String.toList_ofList]

end

/-! ## Requests without a form -/

section

variable {short : Bool} {ability : Ability} {skill : Skill}
  (written : (skillCheck short ability skill).Written) {requestText : List Char}
  (isRequest : Task.request.WrittenAs written.numbers requestText)
include isRequest

/-- What is in front of the bracket with the skill. -/
theorem exists_opening :
    ∃ opening more, requestText ++ written.text = opening ++ '(' :: more ∧
      (openingOutline short ability).WrittenAs written.numbers opening := by
  have isAsked := written.isAsked isRequest
  have split : Task.request ++ (skillCheck short ability skill).outline =
      openingOutline short ability ++
        .sign '(' :: (plain skill.name ++ plain ") check" ++ Task.trail) := by
    have bracket : plain " (" = [.gap, .sign '('] := by decide
    simp [outline, openingOutline, Task.core, bracket]
  rw [split] at isAsked
  obtain ⟨opening, behind, isOpening, isBehind, textSplit⟩ := Outline.writtenAs_append_iff.1 isAsked
  obtain ⟨sign, more, isSign, -, rfl⟩ := Outline.writtenAs_cons_iff.1 isBehind
  obtain rfl : sign = ['('] := isSign
  exact ⟨opening, more, textSplit, isOpening⟩

theorem hitAt?_eq_none_at_request {form : Form} (listed : form ∈ Form.all) :
    form.pattern.hitAt? (Cursor.front (requestText ++ written.text)) = none := by
  rcases begun_or_otherwise listed with otherwise | ⟨parts, partsListed, begun⟩
  · have missed := List.all_eq_true.1
      (misses_request ((skillCheck short ability skill).core ++ Task.trail)) form otherwise
    exact hitAt?_eq_none_of_misses written.isRun ⟨Option.Rel.none, written.isAsked isRequest⟩ missed
  · obtain ⟨opening, more, split, isOpening⟩ := written.exists_opening isRequest
    obtain ⟨asks, missed⟩ := misses_openingOutline parts partsListed
    have standing : Standing written.numbers none (openingOutline short ability)
        (Cursor.front opening) := ⟨Option.Rel.none, isOpening⟩
    have unmatched := hitAt?_eq_none_of_misses written.isRun standing
      (missed ability ability.mem_all short (by cases short <;> decide))
    rw [begun, split]
    exact hitAt?_eq_none_before_bracket asks unmatched

/-- In the words of the request there is no hit. -/
theorem hitAt?_eq_none_in_request
    {form : Form} {passed closing : List Char} (listed : form ∈ Form.all)
    (split : requestText = passed ++ closing) (nonempty : closing ≠ []) :
    form.pattern.hitAt?
      ((Cursor.front (requestText ++ written.text)).past passed (closing ++ written.text)) =
        none := by
  by_cases opened : passed = []
  · subst opened
    rw [List.nil_append] at split
    subst split
    exact written.hitAt?_eq_none_at_request isRequest listed
  · have passedOver := List.all_eq_true.1
      (passes_request (skillCheck short ability skill).outline) form listed
    exact hitAt?_eq_none_further_on written.isRun rfl passedOver isRequest written.isOutline split
      opened nonempty

theorem suggestions_of_idle_request :
    suggestions (String.ofList (requestText ++ written.text)) =
      .ok [written.reported.later requestText.length] := by
  have ends : requestText.getLast?.any Text.isWord = false := by
    have related : Option.Rel Token.Holds (some .gap) requestText.getLast? :=
      isRequest.rel_getLast? written.isRun
    generalize requestText.getLast? = last at related ⊢
    cases related with
    | some held => exact Token.inWord?_sound rfl held
  rw [suggestions_behind_opening ends, written.suggestions_eq]
  · rfl
  · intro form listed passed closing split nonempty
    exact written.hitAt?_eq_none_in_request isRequest listed split nonempty

end

/-- What is suggested of a request: the task with the difficulty in front, or what is suggested
without the request if that has no form. -/
def asked {task : Task} (written : task.Written) (requestText : List Char) : Suggestion :=
  match task.requestForm? with
  | some form =>
      task.suggestion form (written.numbers 0) ⟨0, (requestText ++ written.text).length⟩
        (requestText ++ written.text)
  | none => written.reported.later requestText.length

end Written

end Task

/-- A check or a saving throw with a difficulty in front of it and another one behind it is one
prompt. Without a request the one in front is reported if it takes at least as much room as the one
behind, which has the brackets: if all gaps are as wide, it needs two digits more. With a request it
is always the one in front, but for a skill in brackets the request makes no difference. -/
theorem suggestions_of_two_difficulties
    {task : Task} (written : task.Written) {requestText : List Char}
    (isRequest : Task.request.WrittenAs written.numbers requestText) :
    suggestions (String.ofList written.text) = .ok [written.reported] ∧
      written.reported.difficulty =
        some (value (if written.trail.length ≤ written.lead.length then written.numbers 0
          else written.numbers 1) : Int) ∧
      suggestions (String.ofList (requestText ++ written.text)) =
        .ok [written.asked requestText] := by
  refine ⟨written.suggestions_eq, ?_, ?_⟩
  · rw [Task.Written.reported]
    split <;> rfl
  · cases task with
    | check short ability => exact written.suggestions_of_request isRequest rfl
    | save short ability => exact written.suggestions_of_request isRequest rfl
    | skillCheck short ability skill => exact written.suggestions_of_idle_request isRequest

/-- A check of wisdom with two difficulties of two digits. -/
def wisdomCheck : (Task.check false .wisdom).Written where
  numbers index := if index = 0 then ['1', '5'] else ['1', '0']
  lead := "DC 15 ".toList
  core := "Wisdom check".toList
  trail := " (DC 10)".toList
  isRun index := by
    split
    · exact ⟨by decide, List.all_eq_true.1 (by decide)⟩
    · exact ⟨by decide, List.all_eq_true.1 (by decide)⟩
  short index := by
    split <;> decide
  isLead := ⟨[['D'], ['C'], [' '], ['1', '5'], [' ']], by decide, by decide⟩
  isCore :=
    ⟨[['W'], ['i'], ['s'], ['d'], ['o'], ['m'], [' '], ['c'], ['h'], ['e'], ['c'], ['k']],
      by decide, by decide⟩
  isTrail := ⟨[[' '], ['('], ['D'], ['C'], [' '], ['1', '0'], [')']], by decide, by decide⟩

/-- The second difficulty is reported without the request, the first one with it. -/
theorem suggestions_of_two_difficulties_of_a_wisdom_check :
    suggestions "DC 15 Wisdom check (DC 10)" =
        .ok [{
          kind := .skill
          ability := some "wisdom"
          difficulty := some 10
          span := ⟨6, 20⟩
          description := "Wisdom check (DC 10)"
          form := "ability_check" }] ∧
      suggestions "make a DC 15 Wisdom check (DC 10)" =
        .ok [{
          kind := .skill
          ability := some "wisdom"
          difficulty := some 15
          span := ⟨0, 33⟩
          description := "make a DC 15 Wisdom check (DC 10)"
          form := "requested_check" }] := by
  have isRequest : Task.request.WrittenAs wisdomCheck.numbers "make a ".toList :=
    ⟨[['m'], ['a'], ['k'], ['e'], [' '], ['a'], [' ']], by decide, by decide⟩
  obtain ⟨found, -, asked⟩ := suggestions_of_two_difficulties wisdomCheck isRequest
  have text : String.ofList wisdomCheck.text = "DC 15 Wisdom check (DC 10)" := by decide
  have requestText : String.ofList ("make a ".toList ++ wisdomCheck.text) =
      "make a DC 15 Wisdom check (DC 10)" := by decide
  rw [text] at found
  rw [requestText] at asked
  rw [found, asked]
  decide

/-- The first difficulty is not reported without a request. -/
theorem difficulty_in_front_is_lost :
    ¬ ∃ suggestion,
      suggestions "DC 15 Wisdom check (DC 10)" = .ok [suggestion] ∧
        suggestion.difficulty = some 15 := by
  rintro ⟨suggestion, found, isFirst⟩
  rw [← show String.ofList wisdomCheck.text = "DC 15 Wisdom check (DC 10)" by decide,
    wisdomCheck.suggestions_eq] at found
  obtain rfl := (List.cons.inj (Except.ok.inj found)).1
  exact absurd isFirst (by decide)

end Tabletop.Prompt
