import Coactor.Runtime.Draining

/-!
# Completeness of shutdown and fence

When `shutdown` or `fence` has returned, the tasks it found have ended and there
is no route.  It stays so unless a dispatch comes late: `dispatch_message` reads
the status before it takes the lock of the actors map, and one that was let
through while the status was `RUNNING` may still spawn an actor.
-/

namespace Coactor.Runtime

open Coactor.Foundation.Transition
open Coactor.Coordination

variable {server after : Server} {config : RuntimeConfig}

/-! ## After shutdown or fence -/

/-- A stopped Server with no busy task and no route. -/
structure Emptied (server : Server) : Prop where
  stopped : server.status ≠ .running
  busy : BusyIn server []
  routes : ∀ address, server.routes address = none

/-- Nothing comes back, unless a late dispatch activates an actor. -/
theorem Emptied.step? (emptied : Emptied server) {label : Bool × ServerEvent}
    (prompt : Prompt server label)
    (stepped : server.step? config label.1 label.2 = some after) : Emptied after := by
  obtain ⟨authorityValid, event⟩ := label
  have controlled : after.status ≠ .running → ControlEffect server after → Emptied after := by
    intro stopped effect
    refine ⟨stopped, fun generation task here busy => ?_, fun address => ?_⟩
    · obtain ⟨mark, keeps, same⟩ := effect.tasks generation
      rw [same, Option.map_eq_some_iff] at here
      obtain ⟨old, found, rfl⟩ := here
      exact emptied.busy generation old found ((keeps old).pc ▸ busy)
    · cases present : after.routes address with
      | none => rfl
      | some route =>
          have before := effect.routes address route present
          rw [emptied.routes address] at before
          cases before
  cases event with
  | conn id event =>
      obtain ⟨control, -⟩ := Server.connStep?_effect rfl stepped
      have delivered := Server.connStep?_delivered emptied.stopped prompt.1 stepped
      refine ⟨control.status ▸ emptied.stopped, fun generation task here busy => ?_,
        delivered.routes ▸ emptied.routes⟩
      obtain ⟨mailbox, same⟩ := delivered.tasks generation
      rw [same, Option.map_eq_some_iff] at here
      obtain ⟨old, found, rfl⟩ := here
      exact emptied.busy generation old found busy
  | task generation event =>
      obtain ⟨task, found, moved⟩ := Option.bind_eq_some_iff.mp stepped
      obtain ⟨next, effect⟩ := Server.taskStep?_effect moved
      obtain ⟨next', ending⟩ := Server.taskStep?_ending moved
      refine ⟨effect.status ▸ emptied.stopped, fun other known here busy => ?_, fun address => ?_⟩
      · rw [ending.tasks] at here
        by_cases same : other = generation
        · rw [same, Function.update_self, Option.some.injEq] at here
          subst here
          exact absurd (emptied.busy generation task found (ending.busy busy).1) List.not_mem_nil
        · rw [Function.update_of_ne same] at here
          exact emptied.busy other known here busy
      · cases present : after.routes address with
        | none => rfl
        | some route =>
            obtain ⟨old, before, -⟩ := effect.route_known present
            rw [emptied.routes address] at before
            cases before
  | shutdown expired =>
      exact controlled (Server.shutdownStep?_stops (fun _ => emptied.stopped) stepped)
        (Server.shutdownStep?_cases stepped)
  | fence =>
      exact controlled (Server.fenceStep?_stops (fun _ => emptied.stopped) stepped)
        (Server.fenceStep?_cases stepped)

theorem Emptied.run? (emptied : Emptied server) {final : Server}
    {labels : List (Bool × ServerEvent)}
    (prompt : (serverSystem config).Meets Prompt server labels)
    (run : (serverSystem config).run? server labels = some final) : Emptied final := by
  induction labels generalizing server with
  | nil =>
      cases run
      exact emptied
  | cons label labels ih =>
      obtain ⟨next, taken, rest⟩ := run?_cons run
      exact ih (emptied.step? prompt.1 taken) (prompt.2 next taken) rest

/-- `shutdown` has returned in time, with no fence under way, or `fence` has
returned. -/
def HasStopped (server : Server) : Prop :=
  server.shutdown = .returned false ∧ server.fence = .idle ∨ server.fence = .returned

theorem emptied_of_hasStopped (reach : (serverSystem config).ReachableWhile Prompt server)
    (stopped : HasStopped server) : Emptied server := by
  have ok := drainOk_of_reachable reach
  have quiet := (routesOk_of_reachable (reachable_of_reachableWhile reach)).quiet
  rcases stopped with ⟨returned, idle⟩ | returned
  · obtain ⟨busy, routed⟩ := ok.awaited [] (by rw [returned]; rfl)
    refine ⟨fun running => ?_, busy, fun address => ?_⟩
    · have still := (quiet running).1
      rw [returned] at still
      cases still
    · cases present : server.routes address with
      | none => rfl
      | some route => exact absurd (routed idle address route present) List.not_mem_nil
  · refine ⟨fun running => ?_, ok.fenced [] (by rw [returned]; rfl),
      ok.cleared (by rw [returned]; rfl)⟩
    have still := (quiet running).2
    rw [returned] at still
    cases still

/-- A task at one of these points has not finished its activation. -/
def TaskPc.inActivation : TaskPc → Bool
  | .spawned | .activating => true
  | _ => false

/-- No task is in activation, in its receive loop or draining its mailbox, and
there is no route. -/
structure Finished (server : Server) : Prop where
  tasks : ∀ generation task, server.tasks generation = some task →
    task.pc.inActivation = false ∧ task.pc.inReceiveLoop = false ∧ task.pc.isDraining = false
  routes : ∀ address, server.routes address = none

theorem Emptied.finished (emptied : Emptied server) : Finished server := by
  refine ⟨fun generation task found => ?_, emptied.routes⟩
  have idle : task.pc.isBusy = false := by
    by_contra busy
    rw [Bool.not_eq_false] at busy
    exact absurd (emptied.busy generation task found busy) List.not_mem_nil
  simp only [TaskPc.isBusy, Bool.or_eq_false_iff] at idle
  refine ⟨?_, ?_, idle.2⟩
  · cases hpc : task.pc <;> simp [hpc, TaskPc.routeState?] at idle <;> rfl
  · cases hpc : task.pc with
    | executing message draining =>
        cases draining <;> simp [hpc, TaskPc.routeState?, TaskPc.isDraining] at idle
    | _ =>
        simp [hpc, TaskPc.routeState?] at idle
        try rfl

/-- Once `shutdown` has returned in time or `fence` has returned, no task is
left at work, no route is left, and none is created in any further run, as long
as no dispatch is late. -/
theorem shutdown_and_fence_complete
    (reach : (serverSystem config).ReachableWhile Prompt server) (stopped : HasStopped server)
    (labels : List (Bool × ServerEvent)) {final : Server}
    (prompt : (serverSystem config).Meets Prompt server labels)
    (run : (serverSystem config).run? server labels = some final) : Finished final :=
  ((emptied_of_hasStopped reach stopped).run? prompt run).finished

/-- The activated actor is shut down: it drains its mailbox, terminates its
Session, deactivates and is waited for. -/
def shutDown : List (Bool × ServerEvent) :=
  [.shutdown false, .task 1 .advance, .task 1 .advance, .task 1 .advance,
    .task 1 (.returned true), .task 1 .advance, .task 1 .advance, .task 1 .advance,
    .task 1 .advance, .task 1 (.returned true), .task 1 .advance, .task 1 .advance,
    .task 1 .advance, .shutdown false, .shutdown false, .shutdown false, .shutdown false,
    .shutdown false, .shutdown false].map fun event => (true, event)

/-- The connection task goes on after the shutdown and finds nothing to do. -/
theorem shut_down_runtime_is_finished :
    ∃ server final,
      (serverSystem cartRuntime).run? (.fresh cartRuntime) (openAndActivate ++ shutDown) =
        some server ∧
      HasStopped server ∧
      (serverSystem cartRuntime).run? server [(true, .conn 0 (.advance false))] = some final ∧
      Finished final := by
  have initial : (serverSystem cartRuntime).ReachableWhile Prompt (.fresh cartRuntime) := .start rfl
  have prompt : (serverSystem cartRuntime).Meets Prompt (.fresh cartRuntime)
      (openAndActivate ++ shutDown) := meets_of_meets? rfl
  have reach := reachableWhile_of_run? initial prompt rfl
  exact ⟨_, _, rfl, .inl ⟨rfl, rfl⟩, rfl, shutdown_and_fence_complete reach (.inl ⟨rfl, rfl⟩)
    [(true, .conn 0 (.advance false))] (meets_of_meets? rfl) rfl⟩

/-- A `SessionOpen` stands at the actors lock while the empty runtime is shut
down, and then activates its actor. -/
theorem late_dispatch_survives_shutdown :
    ∃ server final,
      (serverSystem cartRuntime).run? (.fresh cartRuntime)
        (openToDispatch ++ List.replicate 9 (true, .shutdown false)) = some server ∧
      HasStopped server ∧
      (serverSystem cartRuntime).run? server [(true, .conn 0 (.advance false))] = some final ∧
      final.routes cartAddress = some ⟨1, .active⟩ ∧ ¬ Finished final := by
  refine ⟨_, _, rfl, .inl ⟨rfl, rfl⟩, rfl, rfl, fun finished => ?_⟩
  have none := finished.routes cartAddress
  cases none

end Coactor.Runtime
