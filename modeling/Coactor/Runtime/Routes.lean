import Coactor.Runtime.Effects

/-!
# One live instance per address

While the status is `RUNNING`, an actor task that may run a callback has the
route of its own generation, in the state that its program point calls for.
Since an address has one route, it has at most one such task.
-/

namespace Coactor.Runtime

open Coactor.Foundation.Transition
open Coactor.Coordination

/-- The routes and tasks of a Server fit together. -/
structure RoutesOk (server : Server) : Prop where
  generation : ∀ generation task, server.tasks generation = some task →
    generation < server.nextGeneration
  task : ∀ address route, server.routes address = some route →
    ∃ task, server.tasks route.generation = some task ∧ task.address = address
  quiet : server.status = .running → server.shutdown = .idle ∧ server.fence = .idle
  calm : server.status = .running → ∀ generation task, server.tasks generation = some task →
    task.shutdownSignal = false ∧ task.abortRequested = false ∧ task.pc.isDraining = false
  owned : server.status = .running → ∀ generation task state,
    server.tasks generation = some task → task.pc.routeState? = some state →
      task.closed = false ∧ server.routes task.address = some ⟨generation, state⟩

theorem routesOk_fresh (config : RuntimeConfig) : RoutesOk (.fresh config) where
  generation := fun _ _ found => by cases found
  task := fun _ _ found => by cases found
  quiet := fun _ => ⟨rfl, rfl⟩
  calm := fun _ _ _ found => by cases found
  owned := fun _ _ _ _ found => by cases found

namespace RoutesOk

variable {server after : Server}

theorem fresh_generation (ok : RoutesOk server) : server.tasks server.nextGeneration = none := by
  cases found : server.tasks server.nextGeneration with
  | none => rfl
  | some task => exact absurd (ok.generation _ _ found) (Nat.lt_irrefl _)

/-- A route that would be replaced belongs to a task that no longer relies on it. -/
theorem replaceable (ok : RoutesOk server) (running : server.status = .running)
    {address : ActorAddress} (spawns : server.wouldSpawn address = true) {generation : Nat}
    {task : ActorTask} {state : RouteState} (found : server.tasks generation = some task)
    (relies : task.pc.routeState? = some state) : task.address ≠ address := by
  rintro rfl
  obtain ⟨isOpen, present⟩ := ok.owned running generation task state found relies
  unfold Server.wouldSpawn at spawns
  rw [present] at spawns
  cases state with
  | active => simp [found, isOpen] at spawns
  | deactivating => simp at spawns

/-! ## Dispatches -/

theorem enqueue (ok : RoutesOk server) (control : SameControl server after)
    {generation : Nat} {task : ActorTask} {message : MailboxMessage}
    (found : server.tasks generation = some task) (routes : after.routes = server.routes)
    (tasks : after.tasks = Function.update server.tasks generation
      (some { task with mailbox := task.mailbox ++ [message] }))
    (next : after.nextGeneration = server.nextGeneration) : RoutesOk after := by
  have origin : ∀ other known, after.tasks other = some known →
      ∃ old, server.tasks other = some old ∧ known.address = old.address ∧
        known.pc = old.pc ∧ known.closed = old.closed ∧
        known.shutdownSignal = old.shutdownSignal ∧
        known.abortRequested = old.abortRequested := by
    intro other known here
    rw [tasks] at here
    by_cases same : other = generation
    · subst same
      rw [Function.update_self, Option.some.injEq] at here
      subst here
      exact ⟨task, found, rfl, rfl, rfl, rfl, rfl⟩
    · rw [Function.update_of_ne same] at here
      exact ⟨known, here, rfl, rfl, rfl, rfl, rfl⟩
  constructor
  case generation =>
    intro other known here
    obtain ⟨old, there, -⟩ := origin other known here
    rw [next]
    exact ok.generation other old there
  case task =>
    intro address route present
    rw [routes] at present
    obtain ⟨old, there, rfl⟩ := ok.task address route present
    rw [tasks]
    by_cases same : route.generation = generation
    · rw [same, Function.update_self]
      rw [same, found] at there
      cases there
      exact ⟨_, rfl, rfl⟩
    · rw [Function.update_of_ne same]
      exact ⟨old, there, rfl⟩
  case quiet =>
    rw [control.status, control.shutdown, control.fence]
    exact ok.quiet
  case calm =>
    intro running other known here
    rw [control.status] at running
    obtain ⟨old, there, -, pc, -, signal, abort⟩ := origin other known here
    rw [pc, signal, abort]
    exact ok.calm running other old there
  case owned =>
    intro running other known state here relies
    rw [control.status] at running
    obtain ⟨old, there, address, pc, closed, -⟩ := origin other known here
    rw [pc] at relies
    rw [address, closed, routes]
    exact ok.owned running other old state there relies

theorem unroute (ok : RoutesOk server) (control : SameControl server after)
    {address : ActorAddress} (spawns : server.wouldSpawn address = true)
    (routes : after.routes = Function.update server.routes address none)
    (tasks : after.tasks = server.tasks)
    (next : server.nextGeneration ≤ after.nextGeneration) : RoutesOk after := by
  constructor
  case generation =>
    intro other known here
    rw [tasks] at here
    exact Nat.lt_of_lt_of_le (ok.generation other known here) next
  case task =>
    intro other route present
    rw [routes] at present
    by_cases same : other = address
    · rw [same, Function.update_self] at present
      cases present
    · rw [Function.update_of_ne same] at present
      rw [tasks]
      exact ok.task other route present
  case quiet =>
    rw [control.status, control.shutdown, control.fence]
    exact ok.quiet
  case calm =>
    rw [control.status, tasks]
    exact ok.calm
  case owned =>
    intro running other known state here relies
    rw [control.status] at running
    rw [tasks] at here
    have different := ok.replaceable running spawns here relies
    rw [routes, Function.update_of_ne different]
    exact ok.owned running other known state here relies

theorem spawned (ok : RoutesOk server) (control : SameControl server after)
    {address : ActorAddress} {message : MailboxMessage}
    (spawns : server.wouldSpawn address = true)
    (routes : after.routes = Function.update server.routes address
      (some ⟨server.nextGeneration, .active⟩))
    (tasks : after.tasks = Function.update server.tasks server.nextGeneration
      (some ⟨address, .spawned, [message], false, false, false, false⟩))
    (next : after.nextGeneration = server.nextGeneration + 1) : RoutesOk after := by
  have origin : ∀ other known, after.tasks other = some known →
      (other = server.nextGeneration ∧
        known = ⟨address, .spawned, [message], false, false, false, false⟩) ∨
      (other ≠ server.nextGeneration ∧ server.tasks other = some known) := by
    intro other known here
    rw [tasks] at here
    by_cases same : other = server.nextGeneration
    · rw [same, Function.update_self, Option.some.injEq] at here
      exact .inl ⟨same, here.symm⟩
    · rw [Function.update_of_ne same] at here
      exact .inr ⟨same, here⟩
  constructor
  case generation =>
    intro other known here
    rw [next]
    rcases origin other known here with ⟨rfl, -⟩ | ⟨-, there⟩
    · exact Nat.lt_succ_self _
    · exact Nat.lt_succ_of_lt (ok.generation other known there)
  case task =>
    intro other route present
    rw [routes] at present
    by_cases same : other = address
    · rw [same, Function.update_self, Option.some.injEq] at present
      rw [← present, tasks, Function.update_self, same]
      exact ⟨_, rfl, rfl⟩
    · rw [Function.update_of_ne same] at present
      obtain ⟨known, there, rfl⟩ := ok.task other route present
      have older := Nat.ne_of_lt (ok.generation _ _ there)
      rw [tasks, Function.update_of_ne older]
      exact ⟨known, there, rfl⟩
  case quiet =>
    rw [control.status, control.shutdown, control.fence]
    exact ok.quiet
  case calm =>
    intro running other known here
    rw [control.status] at running
    rcases origin other known here with ⟨-, rfl⟩ | ⟨-, there⟩
    · exact ⟨rfl, rfl, rfl⟩
    · exact ok.calm running other known there
  case owned =>
    intro running other known state here relies
    rw [control.status] at running
    rcases origin other known here with ⟨rfl, rfl⟩ | ⟨-, there⟩
    · cases relies
      exact ⟨rfl, by rw [routes, Function.update_self]⟩
    · have different := ok.replaceable running spawns there relies
      rw [routes, Function.update_of_ne different]
      exact ok.owned running other known state there relies

theorem dispatched (ok : RoutesOk server) (control : SameControl server after)
    (effect : DispatchEffect server after) : RoutesOk after := by
  cases effect with
  | unchanged routes tasks next =>
      refine ⟨fun other known here => ?_, ?_, ?_, ?_, ?_⟩
      · rw [tasks] at here
        exact Nat.lt_of_lt_of_le (ok.generation other known here) next
      · rw [routes, tasks]
        exact ok.task
      · rw [control.status, control.shutdown, control.fence]
        exact ok.quiet
      · rw [control.status, tasks]
        exact ok.calm
      · rw [control.status, tasks, routes]
        exact ok.owned
  | enqueued address generation task message route found isOpen routes tasks next =>
      exact ok.enqueue control found routes tasks next
  | spawned address message spawns routes tasks next =>
      exact ok.spawned control spawns routes tasks next
  | unrouted address spawns routes tasks next =>
      exact ok.unroute control spawns routes tasks next

/-! ## Actor tasks -/

theorem moved (ok : RoutesOk server) {generation : Nat} {task next : ActorTask}
    (found : server.tasks generation = some task)
    (effect : TaskEffect server after generation task next) : RoutesOk after := by
  have others : ∀ other known, other ≠ generation → after.tasks other = some known →
      server.tasks other = some known := by
    intro other known different here
    rwa [effect.tasks, Function.update_of_ne different] at here
  have own : ∀ known, after.tasks generation = some known → known = next := by
    intro known here
    rw [effect.tasks, Function.update_self, Option.some.injEq] at here
    exact here.symm
  have present : ∀ address route, server.routes address = some route →
      ∃ known, after.tasks route.generation = some known ∧ known.address = address := by
    intro address route there
    obtain ⟨old, known, rfl⟩ := ok.task address route there
    rw [effect.tasks]
    by_cases same : route.generation = generation
    · rw [same, Function.update_self]
      rw [same, found] at known
      cases known
      exact ⟨next, rfl, effect.address⟩
    · rw [Function.update_of_ne same]
      exact ⟨old, known, rfl⟩
  constructor
  case generation =>
    intro other known here
    rw [effect.nextGeneration]
    by_cases same : other = generation
    · rw [same]
      exact ok.generation generation task found
    · exact ok.generation other known (others other known same here)
  case task =>
    intro address route there
    cases effect.route with
    | kept routes state =>
        rw [routes] at there
        exact present address route there
    | removed old _ _ routes state =>
        rw [routes] at there
        by_cases same : address = task.address
        · rw [same, Function.update_self] at there
          cases there
        · rw [Function.update_of_ne same] at there
          exact present address route there
    | deactivated old before ownOld routes =>
        rw [routes] at there
        by_cases same : address = task.address
        · rw [same, Function.update_self, Option.some.injEq] at there
          subst there
          have known := present task.address old before
          rwa [ownOld, ← same] at known
        · rw [Function.update_of_ne same] at there
          exact present address route there
  case quiet =>
    rw [effect.status, effect.shutdown, effect.fence]
    exact ok.quiet
  case calm =>
    intro running other known here
    rw [effect.status] at running
    by_cases same : other = generation
    · subst same
      rw [own known here, effect.shutdownSignal, effect.abortRequested]
      obtain ⟨signal, abort, calm⟩ := ok.calm running other task found
      refine ⟨signal, abort, Bool.eq_false_iff.mpr fun draining => ?_⟩
      rcases effect.draining draining with before | before
      · rw [calm] at before
        cases before
      · rw [signal] at before
        cases before
    · exact ok.calm running other known (others other known same here)
  case owned =>
    intro running other known state here relies
    rw [effect.status] at running
    by_cases same : other = generation
    · subst same
      rw [own known here] at relies ⊢
      rw [effect.address]
      cases effect.route with
      | kept routes keeps =>
          obtain ⟨before, closed⟩ := keeps state relies
          rw [routes, closed]
          exact ok.owned running other task state found before
      | removed route _ _ _ none =>
          rw [none] at relies
          cases relies
      | deactivated route _ _ routes idle _ next' =>
          rw [next'] at relies ⊢
          cases relies
          have before := ok.owned running other task .active found (by rw [idle]; rfl)
          exact ⟨before.1, by rw [routes, Function.update_self]⟩
    · have there := others other known same here
      obtain ⟨isOpen, before⟩ := ok.owned running other known state there relies
      refine ⟨isOpen, ?_⟩
      cases effect.route with
      | kept routes keeps =>
          rw [routes]
          exact before
      | removed route there' ownRoute routes =>
          have different : known.address ≠ task.address := by
            intro equal
            rw [equal, there', Option.some.injEq] at before
            subst before
            exact same ownRoute
          rw [routes, Function.update_of_ne different]
          exact before
      | deactivated route there' ownRoute routes =>
          have different : known.address ≠ task.address := by
            intro equal
            rw [equal, there', Option.some.injEq] at before
            subst before
            exact same ownRoute
          rw [routes, Function.update_of_ne different]
          exact before

/-! ## Shutdown and fence -/

/-- Once the status has left `RUNNING`, little of the invariant remains. -/
theorem stopped (ok : RoutesOk server) (left : after.status ≠ .running)
    (effect : ControlEffect server after) : RoutesOk after where
  generation := by
    intro generation task here
    obtain ⟨mark, -, same⟩ := effect.tasks generation
    rw [same, Option.map_eq_some_iff] at here
    obtain ⟨old, there, -⟩ := here
    rw [effect.nextGeneration]
    exact ok.generation generation old there
  task := by
    intro address route present
    obtain ⟨old, there, rfl⟩ := ok.task address route (effect.routes address route present)
    obtain ⟨mark, keeps, same⟩ := effect.tasks route.generation
    exact ⟨mark old, by rw [same, there]; rfl, (keeps old).address⟩
  quiet := fun running => absurd running left
  calm := fun running => absurd running left
  owned := fun running => absurd running left

/-- Every step of a Server keeps its routes and tasks in order. -/
theorem step? {config : RuntimeConfig} {authorityValid : Bool} {event : ServerEvent}
    (ok : RoutesOk server) (stepped : server.step? config authorityValid event = some after) :
    RoutesOk after := by
  cases event with
  | conn id event =>
      obtain ⟨control, effect⟩ := Server.connStep?_effect rfl stepped
      exact ok.dispatched control effect
  | task generation event =>
      obtain ⟨task, found, stepped⟩ := Option.bind_eq_some_iff.mp stepped
      obtain ⟨next, effect⟩ := Server.taskStep?_effect stepped
      exact ok.moved found effect
  | shutdown expired =>
      have begun : server.shutdown ≠ .idle → server.status ≠ .running :=
        fun begun running => begun (ok.quiet running).1
      exact ok.stopped (Server.shutdownStep?_stops begun stepped) (Server.shutdownStep?_cases stepped)
  | fence =>
      have begun : server.fence ≠ .idle → server.status ≠ .running :=
        fun begun running => begun (ok.quiet running).2
      exact ok.stopped (Server.fenceStep?_stops begun stepped) (Server.fenceStep?_cases stepped)

end RoutesOk

variable {config : RuntimeConfig} {server : Server}

theorem routesOk_of_reachable (reach : (serverSystem config).Reachable server) :
    RoutesOk server := by
  refine invariant_of_step RoutesOk ?_ ?_ reach
  · rintro start rfl
    exact routesOk_fresh config
  · intro before label after ok _ stepped
    exact ok.step? stepped

/-! ## One instance, and cleanup by generation -/

/-- A task at one of these points is inside a callback of its actor. -/
def TaskPc.runsCallback : TaskPc → Bool
  | .activating | .executing _ _ | .deactivating | .shutdownDeactivating => true
  | _ => false

/-- The receive loop, with the idle path it ends in. -/
def TaskPc.inReceiveLoop : TaskPc → Bool
  | .receiving | .executing _ false | .idleCount | .idleBegin | .deactivating | .releaseLock
  | .releasing _ => true
  | _ => false

/-- Whatever a task does, the only route it changes is its own. -/
theorem TaskEffect.own_route {after : Server} {generation : Nat} {task next : ActorTask}
    (effect : TaskEffect server after generation task next) {address : ActorAddress}
    (changed : after.routes address ≠ server.routes address) :
    ∃ route, server.routes address = some route ∧ route.generation = generation := by
  have differs : ∀ value, after.routes = Function.update server.routes task.address value →
      address = task.address := by
    intro value routes
    by_contra different
    rw [routes, Function.update_of_ne different] at changed
    exact changed rfl
  cases effect.route with
  | kept routes state => exact absurd (congrFun routes address) changed
  | removed route present own routes state => exact ⟨route, differs _ routes ▸ present, own⟩
  | deactivated route present own routes => exact ⟨route, differs _ routes ▸ present, own⟩

/-- In every reachable state with status `RUNNING` two tasks of one address are
never both inside a callback, a task in its receive loop has the route of its
own generation, and no step of a task changes a route of another generation. -/
theorem one_instance_per_address (reach : (serverSystem config).Reachable server)
    (running : server.status = .running) :
    (∀ first second one two, server.tasks first = some one → server.tasks second = some two →
      one.address = two.address → one.pc.runsCallback = true → two.pc.runsCallback = true →
      first = second) ∧
    (∀ generation task, server.tasks generation = some task → task.pc.inReceiveLoop = true →
      ∃ route, server.routes task.address = some route ∧ route.generation = generation) ∧
    (∀ generation event authorityValid after address,
      server.step? config authorityValid (.task generation event) = some after →
      after.routes address ≠ server.routes address →
      ∃ route, server.routes address = some route ∧ route.generation = generation) := by
  have ok := routesOk_of_reachable reach
  have routeOf : ∀ generation task, server.tasks generation = some task →
      task.pc.runsCallback = true →
      ∃ state, server.routes task.address = some ⟨generation, state⟩ := by
    intro generation task found callback
    have calm := (ok.calm running generation task found).2.2
    cases relies : task.pc.routeState? with
    | some state => exact ⟨state, (ok.owned running generation task state found relies).2⟩
    | none =>
        cases hpc : task.pc with
        | executing message draining =>
            cases draining <;> simp [hpc, TaskPc.routeState?, TaskPc.isDraining] at relies calm
        | _ => simp [hpc, TaskPc.runsCallback, TaskPc.routeState?, TaskPc.isDraining]
                at callback relies calm
  refine ⟨?_, ?_, ?_⟩
  · intro first second one two foundOne foundTwo same callbackOne callbackTwo
    obtain ⟨stateOne, routeOne⟩ := routeOf first one foundOne callbackOne
    obtain ⟨stateTwo, routeTwo⟩ := routeOf second two foundTwo callbackTwo
    rw [same, routeTwo, Option.some.injEq, Route.mk.injEq] at routeOne
    exact routeOne.1.symm
  · intro generation task found loop
    cases relies : task.pc.routeState? with
    | some state => exact ⟨_, (ok.owned running generation task state found relies).2, rfl⟩
    | none =>
        cases hpc : task.pc with
        | executing message draining =>
            cases draining <;> simp [hpc, TaskPc.inReceiveLoop, TaskPc.routeState?] at loop relies
        | _ => simp [hpc, TaskPc.inReceiveLoop, TaskPc.routeState?] at loop relies
  · intro generation event authorityValid after address stepped changed
    obtain ⟨task, -, moved⟩ := Option.bind_eq_some_iff.mp stepped
    obtain ⟨next, effect⟩ := Server.taskStep?_effect moved
    exact effect.own_route changed

/-! ## A first activation -/

/-- A Server with one Actor Type and room for two actors. -/
def cartRuntime : RuntimeConfig where
  router := ⟨"node-a", ⟨"a-1"⟩⟩
  mailboxCapacity := fun actorType => if actorType = "cart" then some 4 else none
  maxActiveActors := 2
  positive := by
    intro actorType capacity found
    split at found
    · cases found
      decide
    · cases found

theorem cart_isDnsLabel : isDnsLabel "cart" = true := rfl

theorem first_isDnsLabel : isDnsLabel "first" = true := rfl

def cartAddress : ActorAddress := ⟨"cart", "first", cart_isDnsLabel, first_isDnsLabel⟩

/-- A `SessionOpen` that claims the address and brings its dispatch to the
actors lock. -/
def openToDispatch : List (Bool × ServerEvent) :=
  [.accept, .receive ⟨2, some cartAddress, some ⟨7⟩, some .sessionOpen⟩, .advance false,
    .reply (.owner (.ok none)), .reply (.permit true), .reply (.issued 0),
    .reply (.outcome (.ok (.applied ⟨""⟩))), .advance false, .advance false,
    .advance false].map fun event => (true, .conn 0 event)

/-- The dispatch spawns generation one, which activates and enters its loop. -/
def openAndActivate : List (Bool × ServerEvent) :=
  openToDispatch ++ [(true, .conn 0 (.advance false)), (true, .task 1 .advance),
    (true, .task 1 (.activation .activated))]

/-- The activated task has its own route. -/
theorem activated_task_has_route :
    ∃ server, (serverSystem cartRuntime).run? (.fresh cartRuntime) openAndActivate = some server ∧
      server.status = .running ∧
      ∃ route, server.routes cartAddress = some route ∧ route.generation = 1 := by
  have reach := @reachable_of_run? _ _ (serverSystem cartRuntime) _ _ openAndActivate rfl rfl
  exact ⟨_, rfl, rfl, (one_instance_per_address reach rfl).2.1 1 _ rfl rfl⟩

end Coactor.Runtime
