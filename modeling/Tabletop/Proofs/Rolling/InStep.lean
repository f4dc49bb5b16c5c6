import Tabletop.Proofs.Rolling

/-!
# Two works with the same draws

Two works that start from one tray go in step as long as they take the same draws. Then their values
can be compared one by one; behind the point where they part, only what each of them is sure of is
left.
-/

namespace Tabletop.Rolling

variable {α β γ δ : Type}

/-- If both works have a value, the values are related. -/
def Beside (one : Rolling α) (other : Rolling β) (Related : α → β → Prop) : Prop :=
  ∀ tray value second,
    (one tray).1 = .ok value → (other tray).1 = .ok second → Related value second

/-- If both works have a value, the values are related and the same draws were taken. -/
def InStep (one : Rolling α) (other : Rolling β) (Related : α → β → Prop) : Prop :=
  ∀ tray value second,
    (one tray).1 = .ok value → (other tray).1 = .ok second →
      Related value second ∧ (one tray).2 = (other tray).2

theorem InStep.beside
    {one : Rolling α} {other : Rolling β} {Related : α → β → Prop}
    (inStep : InStep one other Related) : Beside one other Related :=
  fun tray value second done otherDone => (inStep tray value second done otherDone).1

theorem inStep_self (work : Rolling α) : InStep work work Eq := by
  intro tray value second done otherDone
  rw [done] at otherDone
  exact ⟨Except.ok.inj otherDone, rfl⟩

theorem inStep_pure
    {given : α} {counterpart : β} {Related : α → β → Prop} (related : Related given counterpart) :
    InStep (pure given) (pure counterpart) Related := by
  intro tray value second done otherDone
  cases done
  cases otherDone
  exact ⟨related, rfl⟩

section Bind

variable {one : Rolling α} {other : Rolling β} {next : α → Rolling γ} {after : β → Rolling δ}
  {Middle : α → β → Prop} {Related : γ → δ → Prop}

/-- A value of work in two parts comes from a value of the first. -/
theorem exists_middle_of_bind
    {tray : Tray} {value : γ} (done : ((one >>= next) tray).1 = .ok value) :
    ∃ middle, (one tray).1 = .ok middle ∧
      (one >>= next) tray = next middle (one tray).2 := by
  rw [bind_run] at done ⊢
  cases ran : one tray with
  | mk result tray =>
      rw [ran] at done
      cases result with
      | error fault => cases done
      | ok middle => exact ⟨middle, rfl, rfl⟩

/-- Works that begin in step may end beside each other. -/
theorem InStep.bind_beside
    (first : InStep one other Middle)
    (rest : ∀ value second, Middle value second → Beside (next value) (after second) Related) :
    Beside (one >>= next) (other >>= after) Related := by
  intro tray value second done otherDone
  obtain ⟨middle, isMiddle, ran⟩ := exists_middle_of_bind done
  obtain ⟨otherMiddle, isOther, otherRan⟩ := exists_middle_of_bind otherDone
  obtain ⟨related, sameTray⟩ := first tray middle otherMiddle isMiddle isOther
  rw [ran] at done
  rw [otherRan, ← sameTray] at otherDone
  exact rest middle otherMiddle related _ value second done otherDone

theorem InStep.bind
    (first : InStep one other Middle)
    (rest : ∀ value second, Middle value second → InStep (next value) (after second) Related) :
    InStep (one >>= next) (other >>= after) Related := by
  intro tray value second done otherDone
  obtain ⟨middle, isMiddle, ran⟩ := exists_middle_of_bind done
  obtain ⟨otherMiddle, isOther, otherRan⟩ := exists_middle_of_bind otherDone
  obtain ⟨related, sameTray⟩ := first tray middle otherMiddle isMiddle isOther
  rw [ran] at done ⊢
  rw [otherRan, ← sameTray] at otherDone ⊢
  exact rest middle otherMiddle related _ value second done otherDone

end Bind

theorem InStep.map
    {one : Rolling α} {other : Rolling β} {Middle : α → β → Prop} {Related : γ → δ → Prop}
    {f : α → γ} {g : β → δ} (first : InStep one other Middle)
    (related : ∀ value second, Middle value second → Related (f value) (g second)) :
    InStep (f <$> one) (g <$> other) Related := by
  rw [map_eq_bind, map_eq_bind]
  exact first.bind fun value second middle => inStep_pure (related value second middle)

/-- Works that have nothing in common are related by what each is sure of. -/
theorem beside_of_ensures
    {one : Rolling α} {other : Rolling β} {Holds : α → Prop} {Also : β → Prop}
    {Related : α → β → Prop} (ensured : Ensures one Holds) (otherEnsured : Ensures other Also)
    (related : ∀ value second, Holds value → Also second → Related value second) :
    Beside one other Related :=
  fun tray value second done otherDone =>
    related value second (ensured tray value done) (otherEnsured tray second otherDone)

end Tabletop.Rolling
