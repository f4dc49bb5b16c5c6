import Tabletop.Proofs.Draw

/-!
# Work with draws

What the value of some work is sure to be, if there is one, and the faults with which it can end
when all draws are below one.
-/

namespace Tabletop.Rolling

variable {α β : Type}

theorem bind_run (work : Rolling α) (next : α → Rolling β) (tray : Tray) :
    (work >>= next) tray =
      match work tray with
      | (.ok middle, after) => next middle after
      | (.error fault, after) => (.error fault, after) := by
  change (ExceptT.bindCont next (work tray).1 : StateM Tray (Except Fault β)) (work tray).2 = _
  cases work tray with
  | mk result after =>
      cases result <;> rfl

theorem map_eq_bind (f : α → β) (work : Rolling α) :
    f <$> work = work >>= fun value => pure (f value) :=
  rfl

theorem map_run (f : α → β) (work : Rolling α) (tray : Tray) :
    (f <$> work) tray = (f <$> (work tray).1, (work tray).2) := by
  rw [map_eq_bind, bind_run]
  cases work tray with
  | mk result after => cases result <;> rfl

/-! ## Values -/

/-- The values of some work all have a property. -/
def Ensures (work : Rolling α) (Holds : α → Prop) : Prop :=
  ∀ tray value, (work tray).1 = .ok value → Holds value

theorem ensures_pure
    {given : α} {Holds : α → Prop} (holds : Holds given) :
    Ensures (pure given) Holds := by
  intro tray value done
  cases done
  exact holds

theorem ensures_lift
    {result : Except Fault α} {Holds : α → Prop}
    (holds : ∀ value, result = .ok value → Holds value) :
    Ensures (lift result) Holds :=
  fun _ value done => holds value done

theorem Ensures.bind
    {work : Rolling α} {next : α → Rolling β} {Middle : α → Prop} {Holds : β → Prop}
    (first : Ensures work Middle) (rest : ∀ value, Middle value → Ensures (next value) Holds) :
    Ensures (work >>= next) Holds := by
  intro tray value done
  rw [bind_run] at done
  split at done
  · rename_i middle after ran
    have holds : Middle middle := first tray middle (by rw [ran])
    exact rest middle holds after value done
  · cases done

theorem Ensures.map
    {work : Rolling α} {f : α → β} {Holds : β → Prop}
    (holds : Ensures work fun value => Holds (f value)) :
    Ensures (f <$> work) Holds := by
  rw [map_eq_bind]
  exact holds.bind fun value held => ensures_pure held

/-- Nothing needs to be known of the work that comes first. -/
theorem ensures_bind
    {work : Rolling α} {next : α → Rolling β} {Holds : β → Prop}
    (rest : ∀ value, Ensures (next value) Holds) :
    Ensures (work >>= next) Holds :=
  have unknown : Ensures work fun _ => True := fun _ _ _ => trivial
  unknown.bind fun value _ => rest value

/-! ## Faults -/

/-- With draws below one, some work ends with a value or an allowed fault, and leaves such draws. -/
def FailsOnly (work : Rolling α) (Allowed : Fault → Prop) : Prop :=
  ∀ tray, tray.BelowOne →
    (work tray).2.BelowOne ∧ ∀ fault, (work tray).1 = .error fault → Allowed fault

section Faults

variable {Allowed : Fault → Prop}

theorem failsOnly_pure (given : α) : FailsOnly (pure given) Allowed := by
  intro tray below
  refine ⟨below, fun fault failed => ?_⟩
  cases failed

theorem failsOnly_lift
    {result : Except Fault α} (allowed : ∀ fault, result = .error fault → Allowed fault) :
    FailsOnly (lift result) Allowed :=
  fun _ below => ⟨below, allowed⟩

theorem FailsOnly.bind
    {work : Rolling α} {next : α → Rolling β} {Middle : α → Prop}
    (first : FailsOnly work Allowed) (known : Ensures work Middle)
    (rest : ∀ value, Middle value → FailsOnly (next value) Allowed) :
    FailsOnly (work >>= next) Allowed := by
  intro tray below
  obtain ⟨afterBelow, allowed⟩ := first tray below
  rw [bind_run]
  split
  · rename_i middle after ran
    rw [ran] at afterBelow
    have holds : Middle middle := known tray middle (by rw [ran])
    exact rest middle holds after afterBelow
  · rename_i fault after ran
    rw [ran] at afterBelow allowed
    refine ⟨afterBelow, fun other failed => ?_⟩
    cases failed
    exact allowed fault rfl

theorem failsOnly_bind
    {work : Rolling α} {next : α → Rolling β}
    (first : FailsOnly work Allowed) (rest : ∀ value, FailsOnly (next value) Allowed) :
    FailsOnly (work >>= next) Allowed := by
  have unknown : Ensures work fun _ => True := fun _ _ _ => trivial
  exact first.bind unknown fun value _ => rest value

theorem FailsOnly.map
    {work : Rolling α} (f : α → β) (first : FailsOnly work Allowed) :
    FailsOnly (f <$> work) Allowed := by
  rw [map_eq_bind]
  exact failsOnly_bind first fun value => failsOnly_pure (f value)

/-- Work that fails only so ends with a value or with such a fault. -/
theorem FailsOnly.cases
    {work : Rolling α} {tray : Tray} (fails : FailsOnly work Allowed) (below : tray.BelowOne) :
    (∃ value, (work tray).1 = .ok value) ∨
      ∃ fault, (work tray).1 = .error fault ∧ Allowed fault := by
  obtain ⟨-, allowed⟩ := fails tray below
  cases result : (work tray).1 with
  | ok value => exact Or.inl ⟨value, rfl⟩
  | error fault => exact Or.inr ⟨fault, rfl, allowed fault result⟩

end Faults

end Tabletop.Rolling
