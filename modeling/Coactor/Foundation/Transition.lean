import Mathlib.Order.Basic

/-!
# Labelled transition systems with an executable step

A system is a set of initial states and a partial step function on labels.
Concurrency is expressed by the choice of labels: an interleaving is a list of
labels, and every list is allowed as long as each label is enabled when it is
taken.  Reachability is relative to a guard on the steps, so that one notion
covers both all runs and the runs whose steps all meet a side condition.
-/

namespace Coactor.Foundation.Transition

variable {State Label : Type}

/-- Initial states and a partial step; `none` marks a label that is not enabled. -/
structure System (State Label : Type) where
  initial : State → Prop
  step? : State → Label → Option State

namespace System

variable (system : System State Label)

/-- Execute a finite interleaving from one state. -/
def run? : State → List Label → Option State
  | state, [] => some state
  | state, label :: labels => (system.step? state label).bind fun next => run? next labels

/-- Every step of the interleaving meets the guard in the state it is taken from. -/
def Meets (guard : State → Label → Prop) : State → List Label → Prop
  | _, [] => True
  | state, label :: labels =>
      guard state label ∧ ∀ next, system.step? state label = some next →
        Meets guard next labels

/-- Check the guard along an interleaving. -/
def meets? (guard : State → Label → Prop) [∀ state label, Decidable (guard state label)] :
    State → List Label → Bool
  | _, [] => true
  | state, label :: labels =>
      decide (guard state label) &&
        match system.step? state label with
        | some next => meets? guard next labels
        | none => true

/-- States reached from an initial state by steps that all meet the guard. -/
inductive ReachableWhile (guard : State → Label → Prop) : State → Prop where
  | start {state : State} (initial : system.initial state) : ReachableWhile guard state
  | step {before after : State} {label : Label}
      (earlier : ReachableWhile guard before) (met : guard before label)
      (taken : system.step? before label = some after) : ReachableWhile guard after

/-- States reached by arbitrary interleavings. -/
def Reachable : State → Prop := system.ReachableWhile fun _ _ => True

end System

variable {system : System State Label}

theorem run?_cons {state final : State} {label : Label} {labels : List Label}
    (run : system.run? state (label :: labels) = some final) :
    ∃ next, system.step? state label = some next ∧ system.run? next labels = some final := by
  simpa only [System.run?, Option.bind_eq_some_iff] using run

theorem run?_append (state : State) (first second : List Label) :
    system.run? state (first ++ second) =
      (system.run? state first).bind fun middle => system.run? middle second := by
  induction first generalizing state with
  | nil => rfl
  | cons label labels ih =>
      simp only [List.cons_append, System.run?, Option.bind_assoc]
      exact congrArg _ (funext fun next => ih next)

/-- An invariant needs one check at the start and one for each kind of step. -/
theorem invariant_of_step (Invariant : State → Prop) {guard : State → Label → Prop}
    (holdsInitially : ∀ state, system.initial state → Invariant state)
    (preserved : ∀ before label after, Invariant before → guard before label →
      system.step? before label = some after → Invariant after)
    {state : State} (reach : system.ReachableWhile guard state) : Invariant state := by
  induction reach with
  | start initial => exact holdsInitially _ initial
  | step _ met taken ih => exact preserved _ _ _ ih met taken

/-- A guarded run extends a guarded reachability proof. -/
theorem reachableWhile_of_run? {guard : State → Label → Prop} {state final : State}
    {labels : List Label} (reach : system.ReachableWhile guard state)
    (meets : system.Meets guard state labels)
    (run : system.run? state labels = some final) : system.ReachableWhile guard final := by
  induction labels generalizing state with
  | nil =>
      cases run
      exact reach
  | cons label labels ih =>
      obtain ⟨next, taken, rest⟩ := run?_cons run
      exact ih (.step reach meets.1 taken) (meets.2 next taken) rest

theorem meets_of_forall {guard : State → Label → Prop}
    (always : ∀ state label, guard state label) (state : State) (labels : List Label) :
    system.Meets guard state labels := by
  induction labels generalizing state with
  | nil => trivial
  | cons label labels ih => exact ⟨always state label, fun next _ => ih next⟩

theorem meets_mono {guard weaker : State → Label → Prop}
    (implies : ∀ state label, guard state label → weaker state label) {state : State}
    {labels : List Label} (meets : system.Meets guard state labels) :
    system.Meets weaker state labels := by
  induction labels generalizing state with
  | nil => trivial
  | cons label labels ih =>
      exact ⟨implies state label meets.1, fun next taken => ih (meets.2 next taken)⟩

theorem meets_of_meets? {guard : State → Label → Prop}
    [∀ state label, Decidable (guard state label)] {state : State} {labels : List Label}
    (checked : system.meets? guard state labels = true) : system.Meets guard state labels := by
  induction labels generalizing state with
  | nil => trivial
  | cons label labels ih =>
      simp only [System.meets?, Bool.and_eq_true, decide_eq_true_eq] at checked
      refine ⟨checked.1, fun next taken => ih ?_⟩
      simpa only [taken] using checked.2

/-- A guard that cannot be checked is met where an invariant of the run reduces
it to one that can. -/
theorem meets_of_check (Invariant : State → Prop) {guard check : State → Label → Prop}
    [∀ state label, Decidable (check state label)] {state : State} {labels : List Label}
    (keeps : ∀ before label after, label ∈ labels → Invariant before →
      system.step? before label = some after → Invariant after)
    (sound : ∀ state label, Invariant state → check state label → guard state label)
    (holds : Invariant state) (checked : system.meets? check state labels = true) :
    system.Meets guard state labels := by
  induction labels generalizing state with
  | nil => trivial
  | cons label labels ih =>
      simp only [System.meets?, Bool.and_eq_true, decide_eq_true_eq] at checked
      refine ⟨sound state label holds checked.1, fun next taken => ?_⟩
      refine ih (fun before label after member => keeps before label after (.tail _ member))
        (keeps state label next List.mem_cons_self holds taken) ?_
      simpa only [taken] using checked.2

theorem meets_left {guard : State → Label → Prop} {state : State} {first second : List Label}
    (meets : system.Meets guard state (first ++ second)) : system.Meets guard state first := by
  induction first generalizing state with
  | nil => trivial
  | cons label labels ih => exact ⟨meets.1, fun next taken => ih (meets.2 next taken)⟩

theorem meets_right {guard : State → Label → Prop} {state middle : State}
    {first second : List Label} (meets : system.Meets guard state (first ++ second))
    (run : system.run? state first = some middle) : system.Meets guard middle second := by
  induction first generalizing state with
  | nil =>
      cases run
      exact meets
  | cons label labels ih =>
      obtain ⟨next, taken, rest⟩ := run?_cons run
      exact ih (meets.2 next taken) rest

/-- Every executable interleaving from an initial state reaches its final state. -/
theorem reachable_of_run? {state final : State} {labels : List Label}
    (initial : system.initial state)
    (run : system.run? state labels = some final) : system.Reachable final :=
  reachableWhile_of_run? (.start initial)
    (meets_of_forall (fun _ _ => trivial) state labels) run

/-- Dropping the guard keeps a state reachable. -/
theorem reachable_of_reachableWhile {guard : State → Label → Prop} {state : State}
    (reach : system.ReachableWhile guard state) : system.Reachable state := by
  induction reach with
  | start initial => exact .start initial
  | step _ _ taken ih => exact .step ih trivial taken

theorem reachableWhile_mono {guard weaker : State → Label → Prop}
    (implies : ∀ state label, guard state label → weaker state label) {state : State}
    (reach : system.ReachableWhile guard state) : system.ReachableWhile weaker state := by
  induction reach with
  | start initial => exact .start initial
  | step _ met taken ih => exact .step ih (implies _ _ met) taken

/-- A state reached under a guard can be assumed reachable in a preservation proof. -/
theorem invariant_of_reachable_step (Invariant : State → Prop)
    {guard : State → Label → Prop}
    (holdsInitially : ∀ state, system.initial state → Invariant state)
    (preserved : ∀ before label after, system.ReachableWhile guard before →
      Invariant before → guard before label →
      system.step? before label = some after → Invariant after)
    {state : State} (reach : system.ReachableWhile guard state) : Invariant state := by
  induction reach with
  | start initial => exact holdsInitially _ initial
  | step earlier met taken ih => exact preserved _ _ _ earlier ih met taken

end Coactor.Foundation.Transition
