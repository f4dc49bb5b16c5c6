import Tabletop.Proofs.Rolling

/-!
# Work that breaks off

Some work fails whatever is drawn for it, with one fault and after one number of draws. Other work
is sure to end with a value and takes a certain number of draws. From the two it can be told where
work in several parts breaks off.
-/

namespace Tabletop.Rolling

variable {α β : Type} {fault : Fault} {draws more : Nat}

/-- With draws below one, some work has a value after a number of draws, and leaves such draws. -/
def Lasts (work : Rolling α) (draws : Nat) : Prop :=
  ∀ tray, tray.BelowOne →
    ∃ value after,
      work tray = (.ok value, after) ∧ after.BelowOne ∧ after.taken = tray.taken + draws

/-- With draws below one, some work ends with a fault after a number of draws. -/
def Breaks (work : Rolling α) (fault : Fault) (draws : Nat) : Prop :=
  ∀ tray, tray.BelowOne →
    (work tray).1 = .error fault ∧ (work tray).2.taken = tray.taken + draws

/-! ## Work that lasts -/

theorem lasts_pure (value : α) : Lasts (pure value) 0 :=
  fun tray below => ⟨value, tray, rfl, below, rfl⟩

theorem Lasts.bind
    {work : Rolling α} {next : α → Rolling β}
    (first : Lasts work draws) (rest : ∀ value, Lasts (next value) more) :
    Lasts (work >>= next) (draws + more) := by
  intro tray below
  obtain ⟨middle, between, ran, betweenBelow, taken⟩ := first tray below
  obtain ⟨value, after, alsoRan, afterBelow, moreTaken⟩ := rest middle between betweenBelow
  refine ⟨value, after, ?_, afterBelow, by omega⟩
  rw [bind_run, ran]
  exact alsoRan

/-! ## Work that breaks off -/

theorem breaks_lift
    {result : Except Fault α} (failed : result = .error fault) :
    Breaks (lift result) fault 0 :=
  fun _ _ => ⟨failed, rfl⟩

theorem Breaks.bind
    {work : Rolling α} (breaks : Breaks work fault draws) (next : α → Rolling β) :
    Breaks (work >>= next) fault draws := by
  intro tray below
  obtain ⟨failed, taken⟩ := breaks tray below
  rw [bind_run]
  cases ran : work tray with
  | mk result after =>
      rw [ran] at failed taken
      obtain rfl : result = .error fault := failed
      exact ⟨rfl, taken⟩

theorem Breaks.map
    {work : Rolling α} (breaks : Breaks work fault draws) (f : α → β) :
    Breaks (f <$> work) fault draws := by
  rw [map_eq_bind]
  exact breaks.bind _

theorem Lasts.bind_breaks
    {work : Rolling α} {next : α → Rolling β}
    (first : Lasts work draws) (rest : ∀ value, Breaks (next value) fault more) :
    Breaks (work >>= next) fault (draws + more) := by
  intro tray below
  obtain ⟨middle, between, ran, betweenBelow, taken⟩ := first tray below
  obtain ⟨failed, moreTaken⟩ := rest middle between betweenBelow
  have total : (next middle between).2.taken = tray.taken + (draws + more) := by omega
  rw [bind_run, ran]
  exact ⟨failed, total⟩

/-! ## Work that goes wrong in one way, if at all -/

/-- Some work breaks off with a known fault after a known number of draws, or, if none is known,
never fails. -/
def GoesWrongBy (work : Rolling α) : Option (Fault × Nat) → Prop
  | some (fault, draws) => work.Breaks fault draws
  | none => work.FailsOnly fun _ => False

namespace GoesWrongBy

variable {work : Rolling α} {flaw? : Option (Fault × Nat)}

theorem map (wrong : work.GoesWrongBy flaw?) (f : α → β) : (f <$> work).GoesWrongBy flaw? := by
  cases flaw? with
  | none => exact FailsOnly.map f wrong
  | some flaw => exact Breaks.map wrong f

theorem bind_pure (wrong : work.GoesWrongBy flaw?) (f : α → β) :
    (work >>= fun value => pure (f value)).GoesWrongBy flaw? := by
  rw [← map_eq_bind]
  exact wrong.map f

theorem error_iff
    (wrong : work.GoesWrongBy flaw?) {tray : Tray} (below : tray.BelowOne) (fault : Fault) :
    (work tray).1 = .error fault ↔ ∃ draws, flaw? = some (fault, draws) := by
  cases flaw? with
  | none =>
      obtain ⟨-, never⟩ := wrong tray below
      constructor
      · intro failed
        exact (never fault failed).elim
      · rintro ⟨_, ⟨⟩⟩
  | some flaw =>
      obtain ⟨known, draws⟩ := flaw
      obtain ⟨failed, -⟩ := wrong tray below
      rw [failed]
      constructor
      · rintro ⟨⟩
        exact ⟨draws, rfl⟩
      · rintro ⟨_, ⟨⟩⟩
        rfl

theorem taken
    (wrong : work.GoesWrongBy (some (fault, draws))) {tray : Tray} (below : tray.BelowOne) :
    (work tray).2.taken = tray.taken + draws :=
  (wrong tray below).2

end GoesWrongBy

end Tabletop.Rolling
