import Coactor.Foundation.Transition
import Mathlib.Data.Nat.Find

/-!
# Infinite runs and measures

An infinite run takes a step at every time.  Where a measure into a well-founded
relation never rises and falls with every step of one kind, the run takes
finitely many steps of that kind.
-/

namespace Coactor.Foundation.Transition

variable {State Label Measure : Type} {system : System State Label}

/-- A run that never ends. -/
structure System.IsRun (system : System State Label) (states : Nat → State)
    (labels : Nat → Label) : Prop where
  starts : system.initial (states 0)
  steps : ∀ time, system.step? (states time) (labels time) = some (states (time + 1))

theorem reachableWhile_of_isRun {guard : State → Label → Prop} {states : Nat → State}
    {labels : Nat → Label} (run : system.IsRun states labels)
    (met : ∀ time, guard (states time) (labels time)) (time : Nat) :
    system.ReachableWhile guard (states time) := by
  induction time with
  | zero => exact .start run.starts
  | succ time ih => exact .step ih (met time) (run.steps time)

/-- The states that an infinite sequence of labels leads through; a label that is
not enabled is skipped. -/
def System.follow (system : System State Label) : (Nat → Label) → State → Nat → State
  | _, state, 0 => state
  | labels, state, time + 1 =>
      follow system (fun later => labels (later + 1))
        ((system.step? state (labels 0)).getD state) time

/-- What makes a measure fall that never rises happens finitely often. -/
theorem finitely_often {below : Measure → Measure → Prop} (wellFounded : WellFounded below)
    {measure : Nat → Measure} {acts : Nat → Prop}
    (falls : ∀ time, acts time → below (measure (time + 1)) (measure time))
    (rests : ∀ time, measure (time + 1) = measure time ∨
      below (measure (time + 1)) (measure time)) :
    ∃ time, ∀ later, time ≤ later → ¬ acts later := by
  classical
  have from_value : ∀ value time, measure time = value →
      ∃ time, ∀ later, time ≤ later → ¬ acts later := by
    intro value
    induction value using wellFounded.induction with
    | _ value ih =>
        intro time here
        by_cases again : ∃ gap, below (measure (time + gap + 1)) (measure (time + gap))
        · have first := Nat.find_spec again
          have still : ∀ gap, gap ≤ Nat.find again → measure (time + gap) = value := by
            intro gap
            induction gap with
            | zero => exact fun _ => here
            | succ gap same =>
                intro less
                rcases rests (time + gap) with kept | fell
                · exact kept.trans (same (Nat.le_of_succ_le less))
                · exact absurd fell (Nat.find_min again less)
          rw [still _ (Nat.le_refl _)] at first
          exact ih _ first _ rfl
        · refine ⟨time, fun later above act => again ⟨later - time, ?_⟩⟩
          rw [Nat.add_sub_cancel' above]
          exact falls later act
  exact from_value _ 0 rfl

end Coactor.Foundation.Transition
