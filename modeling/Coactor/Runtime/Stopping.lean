import Coactor.Foundation.Fairness
import Coactor.Runtime.Completeness
import Coactor.Runtime.Progress
import Mathlib.Order.RelClasses

/-!
# A task that is told to stop

Every step of an actor task whose shutdown signal is set brings it nearer to its
end: to a later part of its life, to a shorter mailbox or list of Sessions, or to
what a reply leaves of `release_local_owner`.  Nobody can set it back, since its
receiver is closed before it drains.  So in every run the task takes finitely
many more steps, and in a fair run it completes, unless other tasks keep the
lock of its address from it again and again.
-/

namespace Coactor.Runtime

open Coactor.Foundation
open Coactor.Foundation.Transition
open Coactor.Coordination
open Server

variable {server after : Server} {config : RuntimeConfig} {generation : Nat}
  {task next : ActorTask}

/-! ## How far a task is from its end -/

/-- The parts of the life of a task that is told to stop, counted from the end. -/
def TaskPc.stopPhase : TaskPc → Nat
  | .ended => 0
  | .dropReceiver => 1
  | .guardComplete => 2
  | .guardDrop => 3
  | .removing => 4
  | .releasing _ => 5
  | .releaseLock => 6
  | .deactivating => 7
  | .shutdownDeactivating => 8
  | .terminating _ .leave => 9
  | .terminateAll _ .leave => 10
  | .terminating _ .deactivate => 11
  | .terminateAll _ .deactivate => 12
  | .draining | .executing _ true => 13
  | .shutdownClose => 14
  | .failPending _ => 15
  | .failRemove _ => 16
  | .failClose _ => 17
  | .receiving => 18
  | .idleBegin => 19
  | .idleCount => 20
  | .executing _ false => 21
  | .activating => 22
  | .spawned => 23

/-- The task empties its mailbox. -/
def TaskPc.isEmptying : TaskPc → Bool
  | .draining | .executing _ true => true
  | _ => false

/-- The messages and Sessions left to a part of its life. -/
def ActorTask.stopWork (task : ActorTask) : Nat :=
  match task.pc with
  | .draining => 2 * task.mailbox.length
  | .executing _ true => 2 * task.mailbox.length + 1
  | .terminating sessions _ => sessions.length
  | _ => 0

/-- What is left of the release of its record. -/
def TaskPc.stopProgram : TaskPc → ClusterRouter.ReleaseProgram
  | .releasing program => program
  | _ => .ret (.ok ())

def ActorTask.stopRank (task : ActorTask) : Nat × Nat × ClusterRouter.ReleaseProgram :=
  (task.pc.stopPhase, task.stopWork, task.pc.stopProgram)

/-- The first rank is that of a task nearer to its end. -/
abbrev Nearer : (Nat × Nat × ClusterRouter.ReleaseProgram) →
    (Nat × Nat × ClusterRouter.ReleaseProgram) → Prop :=
  Prod.Lex (· < ·) (Prod.Lex (· < ·) Program.Follows)

theorem nearer_wellFounded : WellFounded Nearer :=
  WellFounded.prod_lex Nat.lt_wfRel.wf
    (WellFounded.prod_lex Nat.lt_wfRel.wf Program.follows_wellFounded)

/-- A task that empties its mailbox has closed it. -/
def ActorTask.Shut (task : ActorTask) : Prop := task.pc.isEmptying = true → task.closed = true

theorem shut_of_not_emptying (keeps : task.pc.isEmptying = false) : task.Shut := by
  intro emptying
  rw [keeps] at emptying
  cases emptying

/-- A step of a task that is told to stop brings it nearer to its end. -/
structure Approaches (task next : ActorTask) : Prop where
  nearer : task.shutdownSignal = true → Nearer next.stopRank task.stopRank
  shut : task.Shut → next.Shut

theorem approaches_phase {pc : TaskPc} (here : task.pc = pc)
    (earlier : next.pc.stopPhase < pc.stopPhase) (keeps : next.pc.isEmptying = false) :
    Approaches task next where
  nearer := fun _ => .left _ _ (here ▸ earlier)
  shut := fun _ => shut_of_not_emptying keeps

theorem approaches_work (same : next.pc.stopPhase = task.pc.stopPhase)
    (less : next.stopWork < task.stopWork) (shut : task.Shut → next.Shut) :
    Approaches task next where
  nearer := by
    intro _
    unfold ActorTask.stopRank
    rw [same]
    exact .right _ (.left _ _ less)
  shut := shut

theorem approaches_untold (untold : task.shutdownSignal = false)
    (keeps : next.pc.isEmptying = false) : Approaches task next where
  nearer := by
    intro told
    rw [untold] at told
    cases told
  shut := fun _ => shut_of_not_emptying keeps

namespace Server

/-- A task that leaves a callback. -/
theorem handled_approaches {message : MailboxMessage} {draining completed : Bool}
    (here : task.pc = .executing message draining) :
    Approaches task { task with pc := .afterMessage draining completed } := by
  cases completed with
  | false =>
      cases draining <;> exact approaches_phase here (Nat.le_of_ble_eq_true rfl) rfl
  | true =>
      cases draining with
      | false =>
          exact approaches_phase here (Nat.le_of_ble_eq_true rfl) rfl
      | true =>
          refine approaches_work (by rw [here]; rfl) ?_ ?_
          · simp [ActorTask.stopWork, TaskPc.afterMessage, here]
          · intro shut _
            exact shut (by rw [here]; rfl)

theorem passage_approaches {event : TaskEvent} {onward : TaskPc}
    (passage : TaskPassage server generation task event onward) :
    Approaches task { task with pc := onward } := by
  cases passage with
  | @listed error onward here =>
      cases onward <;> exact approaches_phase here (Nat.le_of_ble_eq_true rfl) rfl
  | closed _ untold | idled _ untold => exact approaches_untold untold rfl
  | handled here => exact handled_approaches here
  | asked here resumed =>
      obtain ⟨request, resume, answer, before, -, follows⟩ := RouterProgram.resume?_cases resumed
      refine ⟨fun _ => ?_, by rintro - ⟨⟩⟩
      simp only [ActorTask.stopRank, ActorTask.stopWork, here]
      exact .right _ (.right _ ⟨request, resume, answer, before, follows⟩)
  | aborted quiet =>
      cases here : task.pc <;> rw [here] at quiet <;> first
        | (cases quiet; done)
        | exact approaches_phase here (Nat.le_of_ble_eq_true rfl) rfl
  | polled here | activated here | activationFailed here | activationPanicked here | left here
  | swept here | told here | unused here | used here | retained here | deactivated here
  | drained here | stopped here =>
      exact approaches_phase here (Nat.le_of_ble_eq_true rfl) rfl

/-- Every step of a task brings it nearer to its end, if it is told to stop. -/
theorem taskStep?_approaches {event : TaskEvent}
    (stepped : server.taskStep? config generation task task.pc event = some after)
    (tasks : after.tasks = Function.update server.tasks generation (some next)) :
    Approaches task next := by
  obtain ⟨middle, moved, rfl, step⟩ := taskStep?_case stepped
  rw [next_of_tasks tasks]
  cases step with
  | passed passage => exact passage_approaches passage
  | @terminated session rest onward here =>
      refine approaches_work ?_ ?_ ?_
      · rw [here]
        cases onward <;> rfl
      · simp [ActorTask.stopWork, here]
      · rintro - ⟨⟩
  | received _ untold => exact approaches_untold untold rfl
  | opened here => exact handled_approaches here
  | shutdownClosed here =>
      refine ⟨fun _ => .left _ _ ?_, fun _ _ => rfl⟩
      rw [here]
      exact Nat.le_of_ble_eq_true rfl
  | drained here first =>
      refine approaches_work (by rw [here]; rfl) ?_ ?_
      · simp only [ActorTask.stopWork, here, first, List.length_cons]
        omega
      · intro shut _
        exact shut (by rw [here]; rfl)
  | @interrupted message draining here =>
      cases draining <;> exact approaches_phase here (Nat.le_of_ble_eq_true rfl) rfl
  | failClosed here | failRemoved here | failAnswered here | begun here | locked here
  | released here | removed here | guardDropped here | guardCompleted here | receiverDropped here
  | unpolled here | unlocked here =>
      exact approaches_phase here (Nat.le_of_ble_eq_true rfl) rfl

end Server

/-! ## What others do to a task -/

/-- A task after a step of another one: it stands where it stood, and is as far
from its end. -/
structure LeftAlone (task later : ActorTask) : Prop where
  pc : later.pc = task.pc
  shut : task.Shut → later.Shut
  rank : task.Shut → later.stopRank = task.stopRank

theorem LeftAlone.refl (task : ActorTask) : LeftAlone task task := ⟨rfl, id, fun _ => rfl⟩

/-- Only a task that empties its mailbox is measured by it. -/
theorem stopWork_of_calm {later : ActorTask} (same : later.pc = task.pc)
    (calm : task.pc.isEmptying = false) : later.stopWork = task.stopWork := by
  unfold ActorTask.stopWork
  rw [same]
  cases here : task.pc with
  | draining =>
      rw [here] at calm
      cases calm
  | executing message draining =>
      cases draining with
      | false => rfl
      | true =>
          rw [here] at calm
          cases calm
  | _ => rfl

theorem leftAlone_fed {message : MailboxMessage} (isOpen : task.closed = false) :
    LeftAlone task { task with mailbox := task.mailbox ++ [message] } where
  pc := rfl
  shut := id
  rank := by
    intro shut
    have calm : task.pc.isEmptying = false := by
      by_contra emptying
      have closed := shut (by simpa using emptying)
      rw [isOpen] at closed
      cases closed
    have work := @stopWork_of_calm task { task with mailbox := task.mailbox ++ [message] } rfl calm
    simp only [ActorTask.stopRank, work]

theorem SameTask.leftAlone {marked : ActorTask} (same : SameTask task marked) :
    LeftAlone task marked where
  pc := same.pc
  shut := by
    intro shut emptying
    rw [same.closed]
    exact shut (same.pc ▸ emptying)
  rank := by
    intro _
    simp only [ActorTask.stopRank, ActorTask.stopWork, same.pc, same.mailbox]

theorem ControlEffect.leftAlone (effect : ControlEffect server after)
    (found : server.tasks generation = some task) :
    ∃ later, after.tasks generation = some later ∧ LeftAlone task later := by
  obtain ⟨mark, keeps, same⟩ := effect.tasks generation
  exact ⟨mark task, by rw [same, found]; rfl, (keeps task).leftAlone⟩

/-- A step of another task or of the Server leaves the task alone. -/
theorem step?_leaves_alone (routes : RoutesOk server) {authorityValid : Bool}
    {event : ServerEvent} (stepped : server.step? config authorityValid event = some after)
    (foreign : ∀ own, event ≠ .task generation own)
    (found : server.tasks generation = some task) :
    ∃ later, after.tasks generation = some later ∧ LeftAlone task later := by
  cases event with
  | conn id event =>
      cases (connStep?_moves rfl stepped).grown routes generation with
      | same tasks => exact ⟨task, tasks.trans found, .refl task⟩
      | fed old message known isOpen tasks =>
          rw [found, Option.some.injEq] at known
          subst known
          exact ⟨_, tasks, leftAlone_fed isOpen⟩
      | born address message absent tasks =>
          rw [found] at absent
          cases absent
  | task other event =>
      obtain ⟨actor, -, moved⟩ := Option.bind_eq_some_iff.mp stepped
      obtain ⟨next, effect⟩ := taskStep?_effect moved
      have different : generation ≠ other := fun same => foreign event (by rw [same])
      exact ⟨task, by rw [effect.tasks, Function.update_of_ne different, found], .refl task⟩
  | shutdown expired => exact (shutdownStep?_cases stepped).leftAlone found
  | fence => exact (fenceStep?_cases stepped).leftAlone found

/-- A task of a later state was there before, or is new. -/
theorem step?_origin (routes : RoutesOk server) {authorityValid : Bool} {event : ServerEvent}
    (stepped : server.step? config authorityValid event = some after)
    (found : after.tasks generation = some next) :
    (∃ task, server.tasks generation = some task) ∨ next.pc = .spawned := by
  cases event with
  | conn id event =>
      cases (connStep?_moves rfl stepped).grown routes generation with
      | same tasks => exact .inl ⟨next, tasks.symm.trans found⟩
      | fed old message known isOpen tasks => exact .inl ⟨old, known⟩
      | born address message absent tasks =>
          rw [tasks, Option.some.injEq] at found
          exact .inr (by rw [← found])
  | task other event =>
      obtain ⟨actor, known, moved⟩ := Option.bind_eq_some_iff.mp stepped
      obtain ⟨moved', effect⟩ := taskStep?_effect moved
      by_cases own : generation = other
      · exact .inl ⟨actor, own ▸ known⟩
      · rw [effect.tasks, Function.update_of_ne own] at found
        exact .inl ⟨next, found⟩
  | shutdown expired =>
      obtain ⟨mark, -, same⟩ := (shutdownStep?_cases stepped).tasks generation
      rw [same, Option.map_eq_some_iff] at found
      obtain ⟨old, known, -⟩ := found
      exact .inl ⟨old, known⟩
  | fence =>
      obtain ⟨mark, -, same⟩ := (fenceStep?_cases stepped).tasks generation
      rw [same, Option.map_eq_some_iff] at found
      obtain ⟨old, known, -⟩ := found
      exact .inl ⟨old, known⟩

/-- A step of the task itself. -/
theorem step?_own {authorityValid : Bool} {own : TaskEvent}
    (stepped : server.step? config authorityValid (.task generation own) = some after)
    (found : server.tasks generation = some task) :
    ∃ next, after.tasks generation = some next ∧ Approaches task next := by
  obtain ⟨actor, known, moved⟩ := Option.bind_eq_some_iff.mp stepped
  rw [found, Option.some.injEq] at known
  subst known
  obtain ⟨next, effect⟩ := taskStep?_effect moved
  exact ⟨next, by rw [effect.tasks, Function.update_self],
    taskStep?_approaches moved effect.tasks⟩

/-- In every reachable state, a task that empties its mailbox has closed it. -/
theorem shut_of_reachable (reach : (serverSystem config).Reachable server)
    (found : server.tasks generation = some task) : task.Shut := by
  have invariant : ∀ generation task, server.tasks generation = some task → task.Shut := by
    refine invariant_of_reachable_step
      (fun server => ∀ generation task, server.tasks generation = some task → task.Shut)
      ?_ ?_ reach
    · rintro start rfl generation task found
      cases found
    · rintro before ⟨authorityValid, event⟩ after earlier ok - taken generation next found
      have routes := routesOk_of_reachable earlier
      have stepped : before.step? config authorityValid event = some after := taken
      rcases step?_origin routes stepped found with ⟨task, known⟩ | new
      · by_cases own : ∃ mine, event = .task generation mine
        · obtain ⟨mine, rfl⟩ := own
          obtain ⟨later, there, approaches⟩ := step?_own stepped known
          rw [found, Option.some.injEq] at there
          subst there
          exact approaches.shut (ok generation task known)
        · obtain ⟨later, there, alone⟩ := step?_leaves_alone routes stepped
            (fun mine same => own ⟨mine, same⟩) known
          rw [found, Option.some.injEq] at there
          subst there
          exact alone.shut (ok generation task known)
      · exact shut_of_not_emptying (by rw [new]; rfl)
  exact invariant generation task found

/-! ## Told to stop -/

/-- The events of one actor task. -/
def IsOwn (generation : Nat) (label : Bool × ServerEvent) : Prop :=
  ∃ event, label.2 = .task generation event

section Runs

variable {states : Nat → Server} {labels : Nat → Bool × ServerEvent} {start : Nat}

/-- A state of an infinite run can be reached. -/
theorem reachable_of_isRun (run : (serverSystem config).IsRun states labels) (time : Nat) :
    (serverSystem config).Reachable (states time) :=
  reachableWhile_of_isRun run (fun _ => trivial) time

/-- Once it is told to stop, a task stays so. -/
theorem told_later (run : (serverSystem config).IsRun states labels)
    (found : (states start).tasks generation = some task) (told : task.shutdownSignal = true)
    {time : Nat} (later : start ≤ time) :
    ∃ current, (states time).tasks generation = some current ∧
      current.shutdownSignal = true := by
  induction time, later using Nat.le_induction with
  | base => exact ⟨task, found, told⟩
  | succ time later ih =>
      obtain ⟨current, here, still⟩ := ih
      have stepped : (states time).step? config (labels time).1 (labels time).2 =
          some (states (time + 1)) := run.steps time
      have routes := routesOk_of_reachable (reachable_of_isRun run time)
      obtain ⟨next, there, shuts, -⟩ := step?_told routes stepped generation current here
      exact ⟨next, there, shuts still⟩

/-- The rank of the task of a generation; one that does not exist has ended. -/
def Server.stopRank (server : Server) (generation : Nat) :
    Nat × Nat × ClusterRouter.ReleaseProgram :=
  ((server.tasks generation).map ActorTask.stopRank).getD (0, 0, .ret (.ok ()))

theorem stopRank_of_task (found : server.tasks generation = some task) :
    server.stopRank generation = task.stopRank := by
  simp [Server.stopRank, found]

/-- A task that is told to stop takes finitely many more steps. -/
theorem told_task_falls_silent (run : (serverSystem config).IsRun states labels)
    (found : (states start).tasks generation = some task) (told : task.shutdownSignal = true) :
    ∃ time, start ≤ time ∧ ∀ later, time ≤ later → ¬ IsOwn generation (labels later) := by
  refine @finitely_often_from _ Nearer nearer_wellFounded
    (fun time => (states time).stopRank generation)
    (fun time => IsOwn generation (labels time)) start ?_ ?_
  · rintro time later ⟨own, label⟩
    obtain ⟨current, here, still⟩ := told_later run found told later
    have stepped : (states time).step? config (labels time).1 (labels time).2 =
        some (states (time + 1)) := run.steps time
    rw [label] at stepped
    obtain ⟨next, there, approaches⟩ := step?_own stepped here
    simp only [stopRank_of_task here, stopRank_of_task there]
    exact approaches.nearer still
  · intro time later
    obtain ⟨current, here, still⟩ := told_later run found told later
    have reach := reachable_of_isRun run time
    have stepped : (states time).step? config (labels time).1 (labels time).2 =
        some (states (time + 1)) := run.steps time
    by_cases own : IsOwn generation (labels time)
    · obtain ⟨mine, label⟩ := own
      rw [label] at stepped
      obtain ⟨next, there, approaches⟩ := step?_own stepped here
      simp only [stopRank_of_task here, stopRank_of_task there]
      exact .inr (approaches.nearer still)
    · obtain ⟨next, there, alone⟩ := step?_leaves_alone (routesOk_of_reachable reach) stepped
        (fun mine label => own ⟨mine, label⟩) here
      simp only [stopRank_of_task here, stopRank_of_task there]
      exact .inl (alone.rank (shut_of_reachable reach here))

/-- While it takes no step, a task stands where it stands. -/
theorem stands_still (run : (serverSystem config).IsRun states labels)
    (found : (states start).tasks generation = some task)
    (silent : ∀ later, start ≤ later → ¬ IsOwn generation (labels later)) {time : Nat}
    (later : start ≤ time) :
    ∃ current, (states time).tasks generation = some current ∧ current.pc = task.pc := by
  induction time, later using Nat.le_induction with
  | base => exact ⟨task, found, rfl⟩
  | succ time later ih =>
      obtain ⟨current, here, same⟩ := ih
      have stepped : (states time).step? config (labels time).1 (labels time).2 =
          some (states (time + 1)) := run.steps time
      have routes := routesOk_of_reachable (reachable_of_isRun run time)
      obtain ⟨next, there, alone⟩ := step?_leaves_alone routes stepped
        (fun mine label => silent time later ⟨mine, label⟩) here
      exact ⟨next, there, alone.pc.trans same⟩

/-- In every run in which an actor task that is told to stop is not passed over
for ever while it can move, it completes, or it waits for ever at the resolution
lock of its address, which others hold again and again. -/
theorem told_task_completes_or_starves (run : (serverSystem config).IsRun states labels)
    (found : (states start).tasks generation = some task) (told : task.shutdownSignal = true)
    (fair : WeaklyFair (fun time => (states time).CanMove config (.task generation))
      fun time => IsOwn generation (labels time)) :
    ∃ time, start ≤ time ∧
      (∀ later, time ≤ later → ¬ IsOwn generation (labels later)) ∧
      ((∀ later, time ≤ later → (states later).hasCompleted generation = true) ∨
        (∀ later, time ≤ later → ∃ current, (states later).tasks generation = some current ∧
          current.pc = .releaseLock) ∧
        ∀ moment, ∃ later, moment ≤ later ∧ ∃ holder,
          (states later).WaitsFor (.task generation) holder) := by
  obtain ⟨time, after, silent⟩ := told_task_falls_silent run found told
  refine ⟨time, after, silent, ?_⟩
  obtain ⟨last, there, told'⟩ := told_later run found told after
  have still := fun later => @stands_still config generation last states labels time run there
    silent later
  by_cases ended : last.pc = .ended
  · refine .inl fun later after' => ?_
    obtain ⟨current, here, same⟩ := still later after'
    simp [hasCompleted, here, same, ended]
  · have waits : ∀ moment, ∃ later, moment ≤ later ∧ time ≤ later ∧ ∃ holder,
        (states later).WaitsFor (.task generation) holder := by
      intro moment
      obtain ⟨later, after', follows, blocked⟩ := fair.disabled silent moment
      obtain ⟨current, here, same⟩ := still later follows
      obtain ⟨mine, known, signalled⟩ := told_later run found told (Nat.le_trans after follows)
      rw [here, Option.some.injEq] at known
      subst known
      refine ⟨later, after', follows, ?_⟩
      have ok := waitsOk_of_reachable (reachable_of_isRun run later)
      have busy : ¬ (states later).AtRest (.task generation) := by
        intro rest
        rcases rest current here with done | ⟨-, -, untold, -⟩
        · exact ended (same ▸ done)
        · rw [signalled] at untold
          cases untold
      rcases @task_goes_or_waits _ config ok _ busy with (moves | lost) | ⟨holder, waits, -⟩
      · exact absurd moves blocked
      · obtain ⟨known, there', -, untold, -⟩ := lost
        rw [here, Option.some.injEq] at there'
        subst there'
        rw [signalled] at untold
        cases untold
      · exact ⟨holder, waits⟩
    refine .inr ⟨fun later after' => ?_, fun moment => ?_⟩
    · obtain ⟨current, here, same⟩ := still later after'
      obtain ⟨moment, -, follows, holder, wait⟩ := waits later
      obtain ⟨other, here', same'⟩ := still moment follows
      cases wait with
      | release known standing held =>
          rw [here', Option.some.injEq] at known
          subst known
          exact ⟨current, here, same.trans (same'.symm.trans standing)⟩
    · obtain ⟨later, after', -, holder, wait⟩ := waits moment
      exact ⟨later, after', holder, wait⟩

end Runs

/-! ## A shutdown to its end -/

/-- A connection that has registered can do so again without effect. -/
theorem register_again {id : Nat} {authorityValid : Bool} {pc : ConnPc}
    (here : (server.conns id).pc = pc) (accepted : pc ≠ .unaccepted)
    (registered : (server.conns id).registered = true) :
    (serverSystem config).step? server (authorityValid, .conn id .register) = some server := by
  have same : { server.conns id with registered := true } = server.conns id := by
    rw [← registered]
  have stepped : server.connStep? config authorityValid id pc .register = some server := by
    cases pc with
    | unaccepted => exact absurd rfl accepted
    | _ => simp only [connStep?, same, Function.update_eq_self]
  rw [← here] at stepped
  exact stepped

/-- An ended task does not move. -/
theorem not_canMove_of_ended (found : server.tasks generation = some task)
    (ended : task.pc = .ended) : ¬ server.CanMove config (.task generation) := by
  intro moves
  obtain ⟨event, own, enabled⟩ := moves true
  cases event with
  | task other event =>
      obtain ⟨same, -⟩ := Bool.and_eq_true_iff.mp own
      rw [← eq_of_beq same] at enabled
      cases event <;> simp [step?, found, ended, taskStep?, abortTask?] at enabled
  | _ => cases own

/-- The cart is activated and shut down, drops its receiver, and the connection
registers. -/
def shutDownLabels : List (Bool × ServerEvent) :=
  openAndActivate ++ shutDown ++ [(true, .task 1 .advance), (true, .conn 0 .register)]

def shutDownLabel (time : Nat) : Bool × ServerEvent :=
  shutDownLabels.getD time (true, .conn 0 .register)

def shutDownStates : Nat → Server :=
  (serverSystem cartRuntime).follow shutDownLabel (.fresh cartRuntime)

/-- The cart is told to stop, takes its last step, and has completed. -/
theorem told_cart_completes :
    (serverSystem cartRuntime).IsRun shutDownStates shutDownLabel ∧
      (∃ task, (shutDownStates 14).tasks 1 = some task ∧ task.pc = .receiving ∧
        task.shutdownSignal = true) ∧
      ∃ time, 14 ≤ time ∧ (∀ later, time ≤ later → ¬ IsOwn 1 (shutDownLabel later)) ∧
        ∃ later, time ≤ later ∧ (shutDownStates later).hasCompleted 1 = true := by
  have finished : ∃ final, (serverSystem cartRuntime).run? (.fresh cartRuntime) shutDownLabels =
        some final ∧ (serverSystem cartRuntime).step? final (true, .conn 0 .register) = some final ∧
      ∃ task, final.tasks 1 = some task ∧ task.pc = .ended :=
    ⟨_, rfl, @register_again _ _ 0 true (.openAwait ⟨cartAddress, ⟨7⟩, 0⟩) rfl (by simp) rfl,
      _, rfl, rfl⟩
  obtain ⟨final, run, still, last, there, ended⟩ := finished
  have isRun : (serverSystem cartRuntime).IsRun shutDownStates shutDownLabel :=
    isRun_of_still rfl run still
  have settled : ∀ time, shutDownLabels.length ≤ time → shutDownStates time = final :=
    fun time later => follow_of_still run still later
  have begun : ∃ task, (shutDownStates 14).tasks 1 = some task ∧ task.pc = .receiving ∧
      task.shutdownSignal = true := ⟨_, rfl, rfl, rfl⟩
  have early := begun
  obtain ⟨task, found, -, told⟩ := begun
  have fair : WeaklyFair (fun time => (shutDownStates time).CanMove cartRuntime (.task 1))
      fun time => IsOwn 1 (shutDownLabel time) := by
    intro time moves
    have late : (shutDownStates (max time shutDownLabels.length)).CanMove cartRuntime (.task 1) :=
      moves _ (Nat.le_max_left _ _)
    rw [settled _ (Nat.le_max_right _ _)] at late
    exact absurd late (not_canMove_of_ended there ended)
  obtain ⟨time, after, silent, -⟩ := told_task_completes_or_starves isRun found told fair
  refine ⟨isRun, early, time, after, silent, max time shutDownLabels.length,
    Nat.le_max_left _ _, ?_⟩
  rw [settled _ (Nat.le_max_right _ _)]
  simp [hasCompleted, there, ended]

end Coactor.Runtime
