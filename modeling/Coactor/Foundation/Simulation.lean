import Mathlib.Data.List.Forall2
import Coactor.Foundation.Transition

/-!
# Simulation

An object answers one call after the other and keeps a state.  If each call leads
related states to related states with agreeing answers, then two objects that
start in related states agree on every sequence of calls.  A system refines
another if an image of its states takes the steps of the other or none.
-/

namespace Coactor.Foundation

variable {Call State State' Answer Answer' : Type}

/-- How an object answers a call. -/
abbrev Object (Call State Answer : Type) := State → Call → Answer × State

namespace Object

/-- The answers to a sequence of calls. -/
def answers (object : Object Call State Answer) : State → List Call → List Answer
  | _, [] => []
  | state, call :: rest => (object state call).1 :: answers object (object state call).2 rest

/-- The state after a sequence of calls. -/
def after (object : Object Call State Answer) : State → List Call → State
  | state, [] => state
  | state, call :: rest => after object (object state call).2 rest

variable {object : Object Call State Answer} {object' : Object Call State' Answer'}
  {state : State} {state' : State'} {calls : List Call}

theorem after_append (more : List Call) :
    object.after state (calls ++ more) = object.after (object.after state calls) more := by
  induction calls generalizing state with
  | nil => rfl
  | cons call rest ih => exact ih

/-- Each call leads related states to related ones, with answers that agree. -/
def Simulates (object : Object Call State Answer) (object' : Object Call State' Answer')
    (related : State → State' → Prop) (agree : Answer → Answer' → Prop) : Prop :=
  ∀ state state' call, related state state' →
    agree (object state call).1 (object' state' call).1 ∧
      related (object state call).2 (object' state' call).2

variable {related : State → State' → Prop} {agree : Answer → Answer' → Prop}

/-- Related objects stay related. -/
theorem Simulates.after (simulates : Simulates object object' related agree)
    (here : related state state') (calls : List Call) :
    related (object.after state calls) (object'.after state' calls) := by
  induction calls generalizing state state' with
  | nil => exact here
  | cons call rest ih => exact ih (simulates state state' call here).2

/-- Related objects agree on every sequence of calls. -/
theorem Simulates.answers (simulates : Simulates object object' related agree)
    (here : related state state') (calls : List Call) :
    List.Forall₂ agree (object.answers state calls) (object'.answers state' calls) := by
  induction calls generalizing state state' with
  | nil => exact .nil
  | cons call rest ih =>
      obtain ⟨same, still⟩ := simulates state state' call here
      exact .cons same (ih still)

end Object

/-! ## Systems that refine systems -/

namespace Transition

variable {State' Label Label' : Type}

/-- What a step does to the image of its state, the abstract system does too, or the
image stays as it is. -/
structure Refines (concrete : System State Label) (abstract : System State' Label')
    (image : State → State') : Prop where
  initial : ∀ state, concrete.initial state → abstract.initial (image state)
  step : ∀ before label after, concrete.Reachable before →
    concrete.step? before label = some after →
    image after = image before ∨ ∃ label', abstract.step? (image before) label' = some (image after)

/-- So everything that holds of the abstract system holds of the images. -/
theorem Refines.reachable {concrete : System State Label} {abstract : System State' Label'}
    {image : State → State'} (refines : Refines concrete abstract image) {state : State}
    (reach : concrete.Reachable state) : abstract.Reachable (image state) := by
  refine invariant_of_reachable_step (fun state => abstract.Reachable (image state)) ?_ ?_ reach
  · exact fun state initial => .start (refines.initial state initial)
  · intro before label after earlier image _ taken
    rcases refines.step before label after earlier taken with same | ⟨label', stepped⟩
    · rw [same]
      exact image
    · exact .step image trivial stepped

end Transition

end Coactor.Foundation
