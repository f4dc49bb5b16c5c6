import Mathlib.Data.List.Forall2
import Tabletop.Fault

/-!
# Results that may be faults

When work in several steps gives a value, and what it then gave on the way.
-/

namespace Tabletop

variable {ε α β : Type}

instance decidableEqExcept [DecidableEq ε] [DecidableEq α] : DecidableEq (Except ε α)
  | .ok one, .ok other => decidable_of_iff (one = other) ⟨congrArg Except.ok, Except.ok.inj⟩
  | .error one, .error other =>
      decidable_of_iff (one = other) ⟨congrArg Except.error, Except.error.inj⟩
  | .ok _, .error _ => isFalse nofun
  | .error _, .ok _ => isFalse nofun

theorem map_ok (f : α → β) (value : α) : f <$> (.ok value : Except ε α) = .ok (f value) :=
  rfl

theorem bind_eq_ok_iff
    {work : Except ε α} {next : α → Except ε β} {value : β} :
    work >>= next = .ok value ↔ ∃ middle, work = .ok middle ∧ next middle = .ok value := by
  cases work with
  | error fault =>
      constructor
      · intro equal
        cases equal
      · rintro ⟨middle, equal, -⟩
        cases equal
  | ok middle =>
      constructor
      · intro equal
        exact ⟨middle, rfl, equal⟩
      · rintro ⟨other, equal, next⟩
        cases equal
        exact next

theorem map_eq_ok_iff
    {work : Except ε α} {f : α → β} {value : β} :
    f <$> work = .ok value ↔ ∃ middle, work = .ok middle ∧ f middle = value := by
  cases work with
  | error fault =>
      constructor
      · intro equal
        cases equal
      · rintro ⟨middle, equal, -⟩
        cases equal
  | ok middle =>
      constructor
      · intro equal
        exact ⟨middle, rfl, Except.ok.inj equal⟩
      · rintro ⟨other, equal, rfl⟩
        cases equal
        rfl

theorem pure_eq_ok_iff {given value : α} :
    (pure given : Except ε α) = .ok value ↔ given = value :=
  ⟨Except.ok.inj, congrArg Except.ok⟩

theorem exists_of_isSome_toOption
    {result : Except ε α} (isSome : result.toOption.isSome = true) :
    ∃ value, result = .ok value := by
  cases result with
  | error fault => cases isSome
  | ok value => exact ⟨value, rfl⟩

/-! ## Lists of work -/

theorem mem_of_mapM_eq_ok
    {step : α → Except ε β} {items : List α} {results : List β}
    (done : items.mapM step = .ok results) {result : β} :
    result ∈ results ↔ ∃ item ∈ items, step item = .ok result := by
  induction items generalizing results with
  | nil =>
      rw [List.mapM_nil, pure_eq_ok_iff] at done
      simp [← done]
  | cons item rest inductionHypothesis =>
      simp only [List.mapM_cons, bind_eq_ok_iff, pure_eq_ok_iff] at done
      obtain ⟨first, firstDone, others, othersDone, rfl⟩ := done
      simp [inductionHypothesis othersDone, firstDone, eq_comm]

theorem exists_mapM_eq_ok
    {step : α → Except ε β} {items : List α}
    (succeeds : ∀ item ∈ items, ∃ result, step item = .ok result) :
    ∃ results, items.mapM step = .ok results := by
  induction items with
  | nil => exact ⟨[], rfl⟩
  | cons item rest inductionHypothesis =>
      obtain ⟨result, done⟩ := succeeds item (by simp)
      obtain ⟨results, restDone⟩ :=
        inductionHypothesis fun other member => succeeds other (List.mem_cons_of_mem item member)
      refine ⟨result :: results, ?_⟩
      simp only [List.mapM_cons, bind_eq_ok_iff, pure_eq_ok_iff]
      exact ⟨result, done, results, restDone, rfl⟩

/-- The results of a list of work fall apart where the list does. -/
theorem split_of_mapM_eq_ok
    {step : α → Except ε β} {before after : List α} {item : α} {results : List β}
    (done : (before ++ item :: after).mapM step = .ok results) :
    ∃ earlier result later,
      before.mapM step = .ok earlier ∧ step item = .ok result ∧
        results = earlier ++ result :: later := by
  simp only [List.mapM_append, List.mapM_cons, bind_eq_ok_iff, pure_eq_ok_iff] at done
  obtain ⟨earlier, earlierDone, rest, ⟨result, itemDone, later, -, rfl⟩, rfl⟩ := done
  exact ⟨earlier, result, later, earlierDone, itemDone, rfl⟩

theorem mapM_eq_ok_map
    {step : α → Except ε β} {f : α → β} {items : List α}
    (each : ∀ item ∈ items, step item = .ok (f item)) :
    items.mapM step = .ok (items.map f) := by
  induction items with
  | nil => rfl
  | cons item items inductionHypothesis =>
      have later := inductionHypothesis
        fun other member => each other (List.mem_cons_of_mem item member)
      rw [List.mapM_cons, each item (by simp), later]
      rfl

/-- Work on items that another function gives, if the work on each of them is known. -/
theorem mapM_map_eq_map
    {γ δ : Type} {step : β → Except ε δ} {known : α → Except ε γ} {f : α → β} {g : γ → δ}
    {items : List α} (same : ∀ item ∈ items, step (f item) = g <$> known item) :
    (items.map f).mapM step = List.map g <$> items.mapM known := by
  induction items with
  | nil => rfl
  | cons item items inductionHypothesis =>
      have later := inductionHypothesis
        fun other member => same other (List.mem_cons_of_mem item member)
      simp only [List.map_cons, List.mapM_cons, same item (by simp), later]
      cases known item with
      | error fault => rfl
      | ok first => cases items.mapM known <;> rfl

/-- Work that falls into two parts for each item falls into two parts for all of them. -/
theorem mapM_eq_ok_iff_of_parts
    {step one other : α → Except ε (List β)} {onward : List β → List β} {items : List α}
    (parts : ∀ item ∈ items, ∀ result, step item = .ok result ↔
      ∃ first second, one item = .ok first ∧ other item = .ok second ∧
        result = first ++ onward second)
    (results : List (List β)) :
    items.mapM step = .ok results ↔
      ∃ firsts seconds, items.mapM one = .ok firsts ∧ items.mapM other = .ok seconds ∧
        results = List.zipWith (· ++ ·) firsts (seconds.map onward) := by
  induction items generalizing results with
  | nil =>
      simp only [List.mapM_nil, pure_eq_ok_iff]
      constructor
      · rintro rfl
        exact ⟨[], [], rfl, rfl, rfl⟩
      · rintro ⟨_, _, rfl, rfl, rfl⟩
        rfl
  | cons item items inductionHypothesis =>
      have later := inductionHypothesis
        fun other member => parts other (List.mem_cons_of_mem item member)
      simp only [List.mapM_cons, bind_eq_ok_iff, pure_eq_ok_iff, parts item (by simp), later]
      constructor
      · rintro ⟨_, ⟨first, second, oneDone, otherDone, rfl⟩, _,
          ⟨firsts, seconds, onesDone, othersDone, rfl⟩, rfl⟩
        exact ⟨first :: firsts, second :: seconds, ⟨first, oneDone, firsts, onesDone, rfl⟩,
          ⟨second, otherDone, seconds, othersDone, rfl⟩, rfl⟩
      · rintro ⟨_, _, ⟨first, oneDone, firsts, onesDone, rfl⟩,
          ⟨second, otherDone, seconds, othersDone, rfl⟩, rfl⟩
        exact ⟨_, ⟨first, second, oneDone, otherDone, rfl⟩, _,
          ⟨firsts, seconds, onesDone, othersDone, rfl⟩, rfl⟩

/-- What is there of results that may be missing, after a function was applied to them. -/
theorem filterMap_id_map (f : α → β) (options : List (Option α)) :
    (options.map (Option.map f)).filterMap id = (options.filterMap id).map f := by
  simp only [List.filterMap_map, List.map_filterMap, Function.comp_def, id_eq]

theorem length_of_mapM_eq_ok
    {step : α → Except ε β} {items : List α} {results : List β}
    (done : items.mapM step = .ok results) :
    results.length = items.length := by
  induction items generalizing results with
  | nil =>
      rw [List.mapM_nil, pure_eq_ok_iff] at done
      simp [← done]
  | cons item rest inductionHypothesis =>
      simp only [List.mapM_cons, bind_eq_ok_iff, pure_eq_ok_iff] at done
      obtain ⟨first, -, others, othersDone, rfl⟩ := done
      rw [List.length_cons, inductionHypothesis othersDone, List.length_cons]

end Tabletop
