import Mathlib.Logic.Function.Basic

/-!
# Locks and the tasks that hold them

One map tells which locks are taken and another which lock a task holds.  A
taken lock has at most one holder, and only its holder gives it back.
-/

namespace Coactor.Foundation

variable {Task Lock : Type} {taken : Lock → Bool} {holds : Task → Option Lock}
  {task other : Task} {lock : Lock}

/-- Every lock that is held is taken, and no two tasks hold the same one. -/
structure Exclusion (taken : Lock → Bool) (holds : Task → Option Lock) : Prop where
  held : ∀ task lock, holds task = some lock → taken lock = true
  alone : ∀ one two lock, holds one = some lock → holds two = some lock → one = two

namespace Exclusion

theorem idle (idle : ∀ task, holds task = none) : Exclusion taken holds where
  held task lock found := by
    rw [idle task] at found
    cases found
  alone one two lock found := by
    rw [idle one] at found
    cases found

/-- A task that holds nothing and another that holds a free lock are no holders of it. -/
theorem unheld (exclusion : Exclusion taken holds) (free : taken lock = false) (task : Task) :
    holds task ≠ some lock := by
  intro found
  rw [exclusion.held task lock found] at free
  cases free

section

variable [DecidableEq Task]

/-- A task that goes on with what it holds. -/
theorem keep (exclusion : Exclusion taken holds) {now : Option Lock} (same : now = holds task) :
    Exclusion taken (Function.update holds task now) := by
  rw [same, Function.update_eq_self]
  exact exclusion

variable [DecidableEq Lock]

theorem acquire (exclusion : Exclusion taken holds) (free : taken lock = false) :
    Exclusion (Function.update taken lock true)
      (Function.update holds task (some lock)) := by
  constructor
  · intro holder held found
    by_cases same : held = lock
    · rw [same, Function.update_self]
    · rw [Function.update_of_ne same]
      by_cases own : holder = task
      · rw [own, Function.update_self] at found
        exact absurd (Option.some.inj found).symm same
      · rw [Function.update_of_ne own] at found
        exact exclusion.held holder held found
  · intro one two held first second
    by_cases own : one = task
    · by_cases same : two = task
      · exact own.trans same.symm
      · rw [own, Function.update_self] at first
        rw [Function.update_of_ne same, ← Option.some.inj first] at second
        exact absurd second (exclusion.unheld free two)
    · rw [Function.update_of_ne own] at first
      by_cases same : two = task
      · rw [same, Function.update_self] at second
        rw [← Option.some.inj second] at first
        exact absurd first (exclusion.unheld free one)
      · rw [Function.update_of_ne same] at second
        exact exclusion.alone one two held first second

theorem release (exclusion : Exclusion taken holds) (held : holds task = some lock) :
    Exclusion (Function.update taken lock false) (Function.update holds task none) := by
  have others : ∀ {holder found}, Function.update holds task none holder = some found →
      holder ≠ task ∧ holds holder = some found := by
    intro holder found now
    by_cases own : holder = task
    · rw [own, Function.update_self] at now
      cases now
    · rw [Function.update_of_ne own] at now
      exact ⟨own, now⟩
  constructor
  · intro holder found now
    obtain ⟨own, before⟩ := others now
    rw [Function.update_of_ne]
    · exact exclusion.held holder found before
    · rintro rfl
      exact own (exclusion.alone holder task found before held)
  · intro one two found first second
    exact exclusion.alone one two found (others first).2 (others second).2

end

end Exclusion

/-! ## Locks that somebody holds -/

/-- Every lock that is taken is held. -/
def AllHeld (taken : Lock → Bool) (holds : Task → Option Lock) : Prop :=
  ∀ lock, taken lock = true → ∃ task, holds task = some lock

namespace AllHeld

variable [DecidableEq Task]

theorem keep (allHeld : AllHeld taken holds) {now : Option Lock} (same : now = holds task) :
    AllHeld taken (Function.update holds task now) := by
  rw [same, Function.update_eq_self]
  exact allHeld

/-- The holder of another lock has not changed. -/
theorem elsewhere (allHeld : AllHeld taken holds) {now : Option Lock} (apart : holds task ≠ some lock)
    (busy : taken lock = true) : ∃ holder, Function.update holds task now holder = some lock := by
  obtain ⟨holder, held⟩ := allHeld lock busy
  refine ⟨holder, ?_⟩
  rw [Function.update_of_ne]
  · exact held
  · rintro rfl
    exact apart held

variable [DecidableEq Lock]

theorem acquire (allHeld : AllHeld taken holds) (idle : holds task = none) :
    AllHeld (Function.update taken lock true) (Function.update holds task (some lock)) := by
  intro other busy
  by_cases same : other = lock
  · exact ⟨task, by rw [Function.update_self, same]⟩
  · rw [Function.update_of_ne same] at busy
    exact allHeld.elsewhere (by simp [idle]) busy

theorem release (allHeld : AllHeld taken holds) (held : holds task = some lock) :
    AllHeld (Function.update taken lock false) (Function.update holds task none) := by
  intro other busy
  by_cases same : other = lock
  · rw [same, Function.update_self] at busy
    cases busy
  · rw [Function.update_of_ne same] at busy
    refine allHeld.elsewhere ?_ busy
    rw [held]
    exact fun same' => same (Option.some.inj same').symm

end AllHeld

end Coactor.Foundation
