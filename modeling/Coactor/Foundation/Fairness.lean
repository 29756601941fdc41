import Coactor.Foundation.Descent

/-!
# Fair runs

A fair run does not pass over an action that stays enabled.  So an action that is
taken finitely often only is disabled again and again.  A run that has come to a
state with a step back into itself goes on for ever.
-/

namespace Coactor.Foundation.Transition

variable {State Label Measure : Type} {system : System State Label}

/-- What stays enabled is done at some time. -/
def WeaklyFair (enabled acts : Nat → Prop) : Prop :=
  ∀ time, (∀ later, time ≤ later → enabled later) → ∃ later, time ≤ later ∧ acts later

/-- What is not done any more is disabled again and again. -/
theorem WeaklyFair.disabled {enabled acts : Nat → Prop} (fair : WeaklyFair enabled acts)
    {start : Nat} (silent : ∀ later, start ≤ later → ¬ acts later) (time : Nat) :
    ∃ later, time ≤ later ∧ start ≤ later ∧ ¬ enabled later := by
  by_contra always
  obtain ⟨later, after, done⟩ := fair (max time start) fun later after => by
    by_contra blocked
    exact always ⟨later, by omega, by omega, blocked⟩
  exact silent later (by omega) done

/-- From some time on, what makes a measure fall that never rises is not done. -/
theorem finitely_often_from {below : Measure → Measure → Prop} (wellFounded : WellFounded below)
    {measure : Nat → Measure} {acts : Nat → Prop} (start : Nat)
    (falls : ∀ time, start ≤ time → acts time → below (measure (time + 1)) (measure time))
    (rests : ∀ time, start ≤ time → measure (time + 1) = measure time ∨
      below (measure (time + 1)) (measure time)) :
    ∃ time, start ≤ time ∧ ∀ later, time ≤ later → ¬ acts later := by
  obtain ⟨time, silent⟩ := @finitely_often Measure below wellFounded
    (fun time => measure (start + time)) (fun time => acts (start + time))
    (fun time => falls (start + time) (Nat.le_add_right _ _))
    fun time => rests (start + time) (Nat.le_add_right _ _)
  refine ⟨start + time, Nat.le_add_right _ _, fun later after act => ?_⟩
  have same : start + (later - start) = later := by omega
  exact silent (later - start) (by omega) (same.symm ▸ act)

/-- A finite run goes on for ever with a step that changes nothing any more. -/
theorem isRun_of_still {state final : State} {labels : List Label} {idle : Label}
    (starts : system.initial state) (run : system.run? state labels = some final)
    (still : system.step? final idle = some final) :
    system.IsRun (system.follow (fun time => labels.getD time idle) state)
      fun time => labels.getD time idle := by
  refine ⟨starts, fun time => ?_⟩
  clear starts
  induction labels generalizing state time with
  | nil =>
      cases run
      induction time with
      | zero => simp [System.follow, still]
      | succ time ih => simpa [System.follow, still] using ih
  | cons label labels ih =>
      obtain ⟨next, stepped, rest⟩ := run?_cons run
      cases time with
      | zero => simp [System.follow, stepped]
      | succ time => simpa [System.follow, stepped] using ih rest time

/-- From its end on, such a run stands still. -/
theorem follow_of_still {state final : State} {labels : List Label} {idle : Label}
    (run : system.run? state labels = some final)
    (still : system.step? final idle = some final) {time : Nat} (later : labels.length ≤ time) :
    system.follow (fun time => labels.getD time idle) state time = final := by
  induction labels generalizing state time with
  | nil =>
      cases run
      clear later
      induction time with
      | zero => rfl
      | succ time ih => simpa [System.follow, still] using ih
  | cons label labels ih =>
      obtain ⟨next, stepped, rest⟩ := run?_cons run
      cases time with
      | zero => simp at later
      | succ time => simpa [System.follow, stepped] using ih rest (by simpa using later)

end Coactor.Foundation.Transition
