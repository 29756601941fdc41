import Mathlib.Logic.Function.Basic
import Mathlib.Logic.Relation

/-!
# Who waits for whom

A party that cannot go on waits for another one.  Where a rank falls along every
wait, nobody waits for itself, and every wait leads to a party that can go on.
The parties that wait for a lock wait for its owner, so the map of owners has to
name parties that do hold their locks: no lock is lost.
-/

namespace Coactor.Foundation

/-! ## Ranked waits -/

section Waits

variable {Party : Type} {waits : Party → Party → Prop} {rank : Party → Nat}

/-- The rank falls along a chain of waits. -/
theorem rank_lt_of_waits (falls : ∀ one other, waits one other → rank other < rank one)
    {one other : Party} (chain : Relation.TransGen waits one other) : rank other < rank one := by
  induction chain with
  | single first => exact falls _ _ first
  | tail _ last ih => exact Nat.lt_trans (falls _ _ last) ih

/-- Nobody waits for itself, however many others stand between. -/
theorem no_circular_wait (falls : ∀ one other, waits one other → rank other < rank one)
    (party : Party) : ¬ Relation.TransGen waits party party :=
  fun circle => Nat.lt_irrefl _ (rank_lt_of_waits falls circle)

/-- If an engaged party goes on or waits for an engaged one, its waits lead to
one that goes on. -/
theorem wait_leads {engaged ready : Party → Prop}
    (falls : ∀ one other, waits one other → rank other < rank one)
    (onward : ∀ one, engaged one → ready one ∨ ∃ other, waits one other ∧ engaged other)
    {party : Party} (busy : engaged party) :
    ∃ other, Relation.ReflTransGen waits party other ∧ ready other := by
  induction party using (measure rank).wf.induction with
  | _ party ih =>
      rcases onward party busy with goes | ⟨next, waiting, occupied⟩
      · exact ⟨party, .refl, goes⟩
      · obtain ⟨last, chain, goes⟩ := ih next (falls party next waiting) occupied
        exact ⟨last, .head waiting chain, goes⟩

end Waits

/-! ## Owners of locks -/

variable {Lock Party : Type} [DecidableEq Lock]

/-- Every owner on record holds the lock. -/
def Tenure (owner : Lock → Option Party) (holds : Party → Option Lock) : Prop :=
  ∀ lock party, owner lock = some party → holds party = some lock

/-- Every lock that is held is on record for its holder. -/
def Recorded (owner : Lock → Option Party) (holds : Party → Option Lock) : Prop :=
  ∀ party lock, holds party = some lock → owner lock = some party

/-- What one step of a party does to its locks: it keeps what it has, takes a
free one while it has none, or gives the one back that it had. -/
inductive LockMove (owner owner' : Lock → Option Party) (party : Party)
    (held held' : Option Lock) : Prop where
  | kept (same : held' = held) (unchanged : owner' = owner)
  | taken (lock : Lock) (free : owner lock = none) (idle : held = none) (now : held' = some lock)
      (recorded : owner' = Function.update owner lock (some party))
  | left (lock : Lock) (had : held = some lock) (idle : held' = none)
      (recorded : owner' = Function.update owner lock none)

variable {owner owner' : Lock → Option Party} {holds holds' : Party → Option Lock} {party : Party}

theorem Tenure.step (tenure : Tenure owner holds)
    (others : ∀ other, other ≠ party → holds' other = holds other)
    (move : LockMove owner owner' party (holds party) (holds' party)) : Tenure owner' holds' := by
  have stays : ∀ lock other, owner lock = some other → (other = party → holds' party = some lock) →
      holds' other = some lock := by
    intro lock other recorded own
    by_cases same : other = party
    · rw [same]
      exact own same
    · rw [others other same]
      exact tenure lock other recorded
  intro lock other recorded
  cases move with
  | kept same unchanged =>
      rw [unchanged] at recorded
      refine stays lock other recorded fun own => ?_
      rw [same, ← own]
      exact tenure lock other recorded
  | taken lock' free idle now update =>
      rw [update] at recorded
      by_cases here : lock = lock'
      · rw [here, Function.update_self, Option.some.injEq] at recorded
        rw [← recorded, now, here]
      · rw [Function.update_of_ne here] at recorded
        refine stays lock other recorded fun own => ?_
        have had := tenure lock other recorded
        rw [own, idle] at had
        cases had
  | left lock' had idle update =>
      rw [update] at recorded
      by_cases here : lock = lock'
      · rw [here, Function.update_self] at recorded
        cases recorded
      · rw [Function.update_of_ne here] at recorded
        refine stays lock other recorded fun own => ?_
        have mine := tenure lock other recorded
        rw [own, had, Option.some.injEq] at mine
        exact absurd mine.symm here

theorem Recorded.step (recorded : Recorded owner holds)
    (others : ∀ other lock, other ≠ party → holds' other = some lock → holds other = some lock)
    (move : LockMove owner owner' party (holds party) (holds' party)) :
    Recorded owner' holds' := by
  intro other lock now
  cases move with
  | kept same unchanged =>
      rw [unchanged]
      by_cases own : other = party
      · subst own
        exact recorded other lock (same ▸ now)
      · exact recorded other lock (others other lock own now)
  | taken lock' free idle took update =>
      rw [update]
      by_cases own : other = party
      · subst own
        rw [took, Option.some.injEq] at now
        rw [now, Function.update_self]
      · have before := recorded other lock (others other lock own now)
        have apart : lock ≠ lock' := by
          rintro rfl
          rw [free] at before
          cases before
        rw [Function.update_of_ne apart, before]
  | left lock' had idle update =>
      by_cases own : other = party
      · subst own
        rw [idle] at now
        cases now
      · have before := recorded other lock (others other lock own now)
        have apart : lock ≠ lock' := by
          rintro rfl
          rw [recorded party lock had, Option.some.injEq] at before
          exact own before.symm
        rw [update, Function.update_of_ne apart, before]

end Coactor.Foundation
