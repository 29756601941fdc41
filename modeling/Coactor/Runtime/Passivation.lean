import Coactor.Runtime.Openings

/-!
# Idle passivation

When `begin_deactivation` succeeds the mailbox is empty, and no Session whose
opening this generation has answered with `Ok` is registered: the registry was
empty for the address a moment before, and what was registered since is still
on its way.  From then on nothing enters the mailbox, because the route that
leads to it is `Deactivating` until it is gone.
-/

namespace Coactor.Runtime

open Coactor.Foundation.Transition
open Coactor.Coordination

variable {server after : Server} {config : RuntimeConfig} {generation : Nat}

/-- The mailbox of a generation is empty, and no active route leads to it. -/
def Passive (generation : Nat) (server : Server) : Prop :=
  ∃ task, server.tasks generation = some task ∧ task.mailbox = [] ∧
    ∀ route, server.routes task.address = some route → route.generation = generation →
      route.state = .deactivating

namespace Passive

theorem dispatched (passive : Passive generation server) (ok : RoutesOk server)
    (effect : DispatchEffect server after) : Passive generation after := by
  obtain ⟨task, found, empty, leaving⟩ := passive
  cases effect with
  | unchanged routes tasks _ => exact ⟨task, tasks ▸ found, empty, routes ▸ leaving⟩
  | enqueued address changed old message route known isOpen routes tasks next sent =>
      have different : generation ≠ changed := by
        rintro rfl
        obtain ⟨holder, there, rfl⟩ := ok.task address _ route
        rw [found, Option.some.injEq] at there
        subst there
        cases leaving _ route rfl
      exact ⟨task, by rw [tasks, Function.update_of_ne different, found], empty, routes ▸ leaving⟩
  | spawned address message spawns routes tasks next sent =>
      have older := Nat.ne_of_lt (ok.generation generation task found)
      refine ⟨task, by rw [tasks, Function.update_of_ne older, found], empty, ?_⟩
      intro route present own
      rw [routes] at present
      by_cases same : task.address = address
      · rw [same, Function.update_self, Option.some.injEq] at present
        subst present
        exact absurd own.symm older
      · rw [Function.update_of_ne same] at present
        exact leaving route present own
  | unrouted address spawns routes tasks _ =>
      refine ⟨task, tasks ▸ found, empty, ?_⟩
      intro route present own
      rw [routes] at present
      by_cases same : task.address = address
      · rw [same, Function.update_self] at present
        cases present
      · rw [Function.update_of_ne same] at present
        exact leaving route present own

/-- No task makes a route active again. -/
theorem moved (passive : Passive generation server) {other : Nat} {old next : ActorTask}
    (known : server.tasks other = some old)
    (effect : TaskEffect server after other old next) : Passive generation after := by
  obtain ⟨task, found, empty, leaving⟩ := passive
  have still : ∀ route, after.routes task.address = some route →
      route.generation = generation → route.state = .deactivating := by
    intro route present own
    cases effect.route with
    | kept routes _ => exact leaving route (routes ▸ present) own
    | removed _ _ _ routes _ =>
        rw [routes] at present
        by_cases same : task.address = old.address
        · rw [same, Function.update_self] at present
          cases present
        · rw [Function.update_of_ne same] at present
          exact leaving route present own
    | deactivated _ _ _ routes _ _ _ =>
        rw [routes] at present
        by_cases same : task.address = old.address
        · rw [same, Function.update_self, Option.some.injEq] at present
          subst present
          rfl
        · rw [Function.update_of_ne same] at present
          exact leaving route present own
  by_cases same : generation = other
  · subst same
    rw [found, Option.some.injEq] at known
    subst known
    have drained : next.mailbox = [] := List.suffix_nil.mp (empty ▸ effect.mailbox)
    exact ⟨next, by rw [effect.tasks, Function.update_self], drained, effect.address ▸ still⟩
  · exact ⟨task, by rw [effect.tasks, Function.update_of_ne same, found], empty, still⟩

theorem controlled (passive : Passive generation server) (effect : ControlEffect server after) :
    Passive generation after := by
  obtain ⟨task, found, empty, leaving⟩ := passive
  obtain ⟨mark, keeps, same⟩ := effect.tasks generation
  refine ⟨mark task, by rw [same, found]; rfl, (keeps task).mailbox.trans empty, ?_⟩
  intro route present own
  rw [(keeps task).address] at present
  exact leaving route (effect.routes _ _ present) own

theorem step? {authorityValid : Bool} {event : ServerEvent} (passive : Passive generation server)
    (ok : RoutesOk server) (stepped : server.step? config authorityValid event = some after) :
    Passive generation after := by
  cases event with
  | conn id event => exact passive.dispatched ok (Server.connStep?_effect rfl stepped).2
  | task other event =>
      obtain ⟨old, known, moved⟩ := Option.bind_eq_some_iff.mp stepped
      obtain ⟨next, effect⟩ := Server.taskStep?_effect moved
      exact passive.moved known effect
  | shutdown expired => exact passive.controlled (Server.shutdownStep?_cases stepped)
  | fence => exact passive.controlled (Server.fenceStep?_cases stepped)

/-- A passive generation stays passive in every run. -/
theorem run? (passive : Passive generation server) (ok : RoutesOk server) {final : Server}
    {labels : List (Bool × ServerEvent)}
    (run : (serverSystem config).run? server labels = some final) : Passive generation final := by
  induction labels generalizing server with
  | nil =>
      cases run
      exact passive
  | cons label labels ih =>
      obtain ⟨next, taken, rest⟩ := run?_cons run
      exact ih (passive.step? ok taken) (ok.step? taken) rest

end Passive

/-- Only `begin_deactivation` makes an active route `Deactivating`. -/
theorem TaskEffect.idle_of_deactivated {task next : ActorTask} {address : ActorAddress}
    (effect : TaskEffect server after generation task next)
    (active : server.routes address = some ⟨generation, .active⟩)
    (begun : after.routes address = some ⟨generation, .deactivating⟩) :
    task.address = address ∧ task.pc = .idleBegin ∧ task.mailbox = [] ∧
      next = { task with pc := .deactivating } := by
  cases effect.route with
  | kept routes _ =>
      rw [routes, active] at begun
      cases begun
  | removed _ _ _ routes _ =>
      rw [routes] at begun
      by_cases same : address = task.address
      · rw [same, Function.update_self] at begun
        cases begun
      · rw [Function.update_of_ne same, active] at begun
        cases begun
  | deactivated _ _ _ routes idle empty moved =>
      rw [routes] at begun
      by_cases same : address = task.address
      · exact ⟨same.symm, idle, empty, moved⟩
      · rw [Function.update_of_ne same, active] at begun
        cases begun

/-- When `begin_deactivation` makes the route of a generation `Deactivating`,
its mailbox is empty and no registered Session has an opening that this
generation answered with `Ok`.  In every later state its mailbox is empty, so
nothing is enqueued to it and nothing is discarded with it. -/
theorem idle_passivation_loses_nothing (reach : (serverSystem config).Reachable server)
    (address : ActorAddress) (event : TaskEvent) (authorityValid : Bool)
    (stepped : server.step? config authorityValid (.task generation event) = some after)
    (active : server.routes address = some ⟨generation, .active⟩)
    (begun : after.routes address = some ⟨generation, .deactivating⟩) :
    (∃ task, after.tasks generation = some task ∧ task.address = address ∧ task.mailbox = []) ∧
    (∀ entry ∈ after.registry, after.completions entry.opening ≠ .sent (some generation) none) ∧
    ∀ labels final, (serverSystem config).run? after labels = some final →
      ∃ task, final.tasks generation = some task ∧ task.mailbox = [] := by
  obtain ⟨task, found, moved⟩ := Option.bind_eq_some_iff.mp stepped
  obtain ⟨next, effect⟩ := Server.taskStep?_effect moved
  obtain ⟨next', openings⟩ := Server.taskStep?_openings moved
  obtain ⟨home, idle, empty, rfl⟩ := effect.idle_of_deactivated active begun
  have here : after.tasks generation = some { task with pc := .deactivating } := by
    rw [effect.tasks, Function.update_self]
  refine ⟨⟨_, here, home, empty⟩, ?_, ?_⟩
  · intro entry member answered
    have registered := openings.registry.mem member
    rcases openings.completions entry.opening with kept | ⟨waiting | ⟨draining, executing⟩, -⟩
    · rw [kept] at answered
      exact (openingsOk_of_reachable reach).idle generation task entry found idle registered
        answered
    · rw [empty] at waiting
      cases waiting
    · rw [idle] at executing
      cases executing
  · intro labels final run
    have passive : Passive generation after := by
      refine ⟨_, here, empty, fun route present _ => ?_⟩
      rw [show ({ task with pc := .deactivating } : ActorTask).address = address from home, begun,
        Option.some.injEq] at present
      subst present
      rfl
    obtain ⟨known, there, drained, -⟩ :=
      passive.run? ((routesOk_of_reachable reach).step? stepped) run
    exact ⟨known, there, drained⟩

/-- The first actor goes idle once its Session is closed, and the rest of its
passivation finds an empty mailbox. -/
theorem idle_actor_deactivates :
    ∃ server after final,
      (serverSystem cartRuntime).run? (.fresh cartRuntime)
        (openAndActivate ++ closeAndPassivate.take 12) = some server ∧
      server.step? cartRuntime true (.task 1 .advance) = some after ∧
      (serverSystem cartRuntime).run? after (closeAndPassivate.drop 13) = some final ∧
      ∃ task, final.tasks 1 = some task ∧ task.mailbox = [] := by
  have reach := @reachable_of_run? _ _ (serverSystem cartRuntime) _ _
    (openAndActivate ++ closeAndPassivate.take 12) rfl rfl
  exact ⟨_, _, _, rfl, rfl, rfl,
    (idle_passivation_loses_nothing reach cartAddress .advance true rfl rfl rfl).2.2
      (closeAndPassivate.drop 13) _ rfl⟩

end Coactor.Runtime
