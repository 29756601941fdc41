import Coactor.Foundation.Waiting
import Coactor.Runtime.Routes

/-!
# Release and activation exclude each other

The resolution lock of an address is held by a `SessionOpen` from the start of
`resolve` to the end of its `dispatch_message`, and by an actor task while it
releases its owner record.  Whoever stands at such a point is the one holder,
so a release never meets an opening that believes it owns the address.
-/

namespace Coactor.Runtime

open Coactor.Foundation
open Coactor.Foundation.Transition
open Coactor.Coordination

/-- The address whose resolution lock a connection task owns. -/
def ConnPc.guards : ConnPc → Option ActorAddress
  | .resolving address _ _ _ => some address
  | .openRegister address _ _ => some address
  | .openDispatch opening _ _ => some opening.address
  | _ => none

/-- An actor task owns the lock of its address while it releases its record. -/
def TaskPc.isReleasing : TaskPc → Bool
  | .releasing _ => true
  | _ => false

/-- The address whose resolution lock an actor task owns. -/
def ActorTask.guards (task : ActorTask) : Option ActorAddress :=
  if task.pc.isReleasing then some task.address else none

/-- The address whose resolution lock a task owns. -/
def Server.guards (server : Server) : Holder → Option ActorAddress
  | .conn id => (server.conns id).pc.guards
  | .task generation => (server.tasks generation).bind ActorTask.guards

/-- Whoever stands at such a point is the holder of the lock. -/
def LocksOk (server : Server) : Prop := Recorded server.resolutions server.guards

variable {server after : Server} {config : RuntimeConfig}

/-! ## Connection tasks -/

theorem inbound_guards (envelope : Envelope) : envelope.inbound.guards = none :=
  envelope.inbound_cases (motive := fun pc => pc.guards = none) rfl (fun _ _ _ => rfl)
    (fun _ _ => rfl) (fun _ => rfl) fun _ _ => rfl

theorem ConnPassage.guards {authorityValid : Bool} {id : Nat} {pc next : ConnPc}
    {event : ConnEvent} (passage : ConnPassage authorityValid server id pc event next) :
    next.guards = pc.guards := by
  cases passage with
  | received envelope => exact inbound_guards envelope
  | @unclosed _ _ next => cases next <;> rfl
  | aborted quiet => cases pc <;> first | rfl | cases quiet
  | _ => rfl

namespace Server

theorem setConn_pc {middle : Server} {id : Nat} {pc : ConnPc} :
    ((middle.setConn id pc).conns id).pc = pc := by simp [setConn]

/-- A step of a connection task keeps, takes or gives back its lock. -/
theorem connStep?_lock {authorityValid : Bool} {id : Nat} {pc : ConnPc} {event : ConnEvent}
    (here : (server.conns id).pc = pc)
    (stepped : server.connStep? config authorityValid id pc event = some after) :
    LockMove server.resolutions after.resolutions (.conn id) (server.guards (.conn id))
      (after.guards (.conn id)) := by
  have kept : ∀ {middle : Server} {next : ConnPc}, middle.resolutions = server.resolutions →
      next.guards = pc.guards → LockMove server.resolutions
        (middle.setConn id next).resolutions (.conn id) (server.guards (.conn id))
        ((middle.setConn id next).guards (.conn id)) := by
    intro middle next resolutions same
    exact .kept (by simp only [Server.guards, setConn_pc, here, same]) resolutions
  have left : ∀ {middle : Server} {next : ConnPc} {address : ActorAddress},
      middle.resolutions = Function.update server.resolutions address none →
      pc.guards = some address → next.guards = none → LockMove server.resolutions
        (middle.setConn id next).resolutions (.conn id) (server.guards (.conn id))
        ((middle.setConn id next).guards (.conn id)) := by
    intro middle next address resolutions owned free
    exact .left address (by simp only [Server.guards, here, owned])
      (by simp only [Server.guards, setConn_pc, free]) resolutions
  cases connStep?_case stepped with
  | passed passage => exact kept rfl passage.guards
  | locked free =>
      exact .taken _ free (by simp only [Server.guards, here]; rfl)
        (by simp only [Server.guards, setConn_pc]; rfl) rfl
  | asked _ replied | resolvedHere _ replied =>
      exact kept (capacityReply?_outside replied).resolutions rfl
  | resolvedAway _ _ replied =>
      exact left (by simp only [unlock, (capacityReply?_outside replied).resolutions]) rfl rfl
  | unregistrable | undispatched | unlocked => exact left rfl rfl rfl
  | @dispatched opening reservation panics middle ending dispatched =>
      have outside := @dispatchActors_outside server config opening.address
        (.sessionOpened opening) reservation panics
      rw [dispatched] at outside
      have resolutions : middle.resolutions = server.resolutions := outside.resolutions
      have free : (ending.openPc opening).guards = none := by cases ending <;> rfl
      exact left (by simp only [unlock, resolutions]) rfl free
  | registered | unregistered | closed => exact kept rfl rfl
  | @actionDispatched address session payload panics middle ending dispatched =>
      have outside := @dispatchActors_outside server config address (.action session payload)
        false panics
      rw [dispatched] at outside
      exact kept outside.resolutions (by cases ending <;> rfl)
  | @closeDispatched _ _ next =>
      exact kept dispatchIfActive_outside.resolutions (by cases next <;> rfl)
  | noted => exact .kept (by simp [Server.guards]) rfl

end Server

/-! ## Actor tasks -/

section

variable {generation : Nat} {task next : ActorTask}

theorem guards_idle (idle : task.pc.isReleasing = false) : task.guards = none := by
  simp [ActorTask.guards, idle]

theorem guards_releasing (releasing : task.pc.isReleasing = true) :
    task.guards = some task.address := by
  simp [ActorTask.guards, releasing]

theorem guards_same (address : next.address = task.address)
    (releasing : next.pc.isReleasing = task.pc.isReleasing) : next.guards = task.guards := by
  simp [ActorTask.guards, address, releasing]

theorem TaskPassage.isReleasing {event : TaskEvent} {onward : TaskPc}
    (passage : TaskPassage server generation task event onward) :
    onward.isReleasing = task.pc.isReleasing := by
  cases passage with
  | @handled message draining completed here =>
      rw [here]
      cases completed <;> cases draining <;> rfl
  | aborted quiet =>
      cases here : task.pc <;> first
        | rfl
        | (rw [here] at quiet
           cases quiet)
  | polled here | activated here | activationFailed here | activationPanicked here | listed here
  | left here | swept here | told here | closed here | idled here | unused here | used here
  | retained here | deactivated here | asked here | drained here | stopped here =>
      rw [here]
      rfl

namespace Server

theorem next_of_tasks {middle : Server}
    (tasks : (middle.setTask generation task).tasks =
      Function.update server.tasks generation (some next)) : next = task := by
  have same := congrFun tasks generation
  simpa [setTask] using same.symm

theorem removeRoute_tasks {address : ActorAddress} :
    (server.removeRoute address generation).tasks = server.tasks := by
  unfold removeRoute
  split
  · split <;> rfl
  · rfl

/-- A step of an actor task keeps, takes or gives back its lock. -/
theorem taskStep?_lock {event : TaskEvent}
    (stepped : server.taskStep? config generation task task.pc event = some after)
    (tasks : after.tasks = Function.update server.tasks generation (some next)) :
    LockMove server.resolutions after.resolutions (.task generation) task.guards
      next.guards := by
  obtain ⟨middle, moved, rfl, step⟩ := taskStep?_case stepped
  rw [next_of_tasks tasks]
  cases step with
  | passed passage => exact .kept (guards_same rfl passage.isReleasing) rfl
  | locked here free =>
      exact .taken task.address free (guards_idle (by rw [here]; rfl)) (guards_releasing rfl) rfl
  | released here | unlocked here =>
      exact .left task.address (guards_releasing (by rw [here]; rfl)) (guards_idle rfl) rfl
  | failRemoved here | removed here | guardDropped here =>
      exact .kept (guards_same rfl (by rw [here]; rfl)) removeRoute_outside.resolutions
  | failAnswered here | receiverDropped here | unpolled here | interrupted here =>
      exact .kept (guards_same rfl (by rw [here]; rfl)) (by simp [setTask])
  | @opened opening draining completed here =>
      refine .kept (guards_same rfl ?_) rfl
      rw [here]
      cases completed <;> cases draining <;> rfl
  | failClosed here | terminated here | received here | begun here | shutdownClosed here
  | drained here | guardCompleted here =>
      exact .kept (guards_same rfl (by rw [here]; rfl)) rfl

end Server

end

/-! ## The locks over whole runs -/

/-- A dispatch creates no releasing task. -/
theorem DispatchEffect.guards (effect : DispatchEffect server after) {generation : Nat}
    {address : ActorAddress} (guards : after.guards (.task generation) = some address) :
    server.guards (.task generation) = some address := by
  obtain ⟨known, here, releasing⟩ := Option.bind_eq_some_iff.mp guards
  refine Option.bind_eq_some_iff.mpr ?_
  cases effect with
  | unchanged _ tasks _ => exact ⟨known, tasks ▸ here, releasing⟩
  | enqueued other changed task message route found isOpen routes tasks next =>
      rw [tasks] at here
      by_cases same : generation = changed
      · subst same
        rw [Function.update_self, Option.some.injEq] at here
        subst here
        exact ⟨task, found, releasing⟩
      · rw [Function.update_of_ne same] at here
        exact ⟨known, here, releasing⟩
  | spawned other message spawns routes tasks next =>
      rw [tasks] at here
      by_cases same : generation = server.nextGeneration
      · rw [same, Function.update_self, Option.some.injEq] at here
        rw [← here] at releasing
        cases releasing
      · rw [Function.update_of_ne same] at here
        exact ⟨known, here, releasing⟩
  | unrouted other _ _ tasks _ => exact ⟨known, tasks ▸ here, releasing⟩

/-- `shutdown` and `fence` leave the lock holders as they are. -/
theorem ControlEffect.guards (effect : ControlEffect server after) (holder : Holder) :
    after.guards holder = server.guards holder := by
  cases holder with
  | conn id => simp only [Server.guards, effect.conns]
  | task generation =>
      obtain ⟨mark, keeps, same⟩ := effect.tasks generation
      simp only [Server.guards, same, Option.bind_map]
      congr 1
      funext task
      exact guards_same (keeps task).address (congrArg TaskPc.isReleasing (keeps task).pc)

theorem LocksOk.controlled (ok : LocksOk server) (effect : ControlEffect server after) :
    LocksOk after := by
  intro holder address guards
  rw [effect.resolutions]
  exact ok holder address (effect.guards holder ▸ guards)

/-- Every step of a Server keeps the locks in order. -/
theorem LocksOk.step? {authorityValid : Bool} {event : ServerEvent} (ok : LocksOk server)
    (stepped : server.step? config authorityValid event = some after) : LocksOk after := by
  cases event with
  | conn id event =>
      refine Recorded.step ok ?_ (Server.connStep?_lock rfl stepped)
      intro holder address other guards
      cases holder with
      | conn other' =>
          obtain ⟨conn, conns, -⟩ := Server.connStep?_conns stepped
          have different : other' ≠ id := fun same => other (by rw [same])
          simpa only [Server.guards, conns, Function.update_of_ne different] using guards
      | task generation => exact (Server.connStep?_effect rfl stepped).2.guards guards
  | task generation event =>
      obtain ⟨task, found, moved⟩ := Option.bind_eq_some_iff.mp stepped
      obtain ⟨next, effect⟩ := Server.taskStep?_effect moved
      have mine : after.tasks generation = some next := by
        rw [effect.tasks, Function.update_self]
      have move : LockMove server.resolutions after.resolutions (.task generation)
          (server.guards (.task generation)) (after.guards (.task generation)) := by
        simpa only [Server.guards, found, mine, Option.bind_some] using
          Server.taskStep?_lock moved effect.tasks
      refine Recorded.step ok ?_ move
      intro holder address other guards
      cases holder with
      | conn id => simpa only [Server.guards, effect.conns] using guards
      | task other' =>
          have different : other' ≠ generation := fun same => other (by rw [same])
          simpa only [Server.guards, effect.tasks, Function.update_of_ne different] using guards
  | shutdown expired => exact ok.controlled (Server.shutdownStep?_cases stepped)
  | fence => exact ok.controlled (Server.fenceStep?_cases stepped)

theorem locksOk_of_reachable (reach : (serverSystem config).Reachable server) :
    LocksOk server := by
  refine invariant_of_step LocksOk ?_ ?_ reach
  · rintro start rfl holder address guards
    cases holder <;> cases guards
  · intro before label after ok _ stepped
    exact ok.step? stepped

/-! ## Release and activation -/

/-- A `SessionOpen` that holds `ResolvedOwner::Local` for an address and whose
`dispatch_message` has not finished. -/
def ConnPc.holdsLocal (address : ActorAddress) : ConnPc → Prop
  | .openRegister held _ _ => held = address
  | .openDispatch opening _ _ => opening.address = address
  | _ => False

theorem ConnPc.guards_of_holdsLocal {address : ActorAddress} {pc : ConnPc}
    (holds : pc.holdsLocal address) : pc.guards = some address := by
  cases pc with
  | openRegister held session reservation => exact congrArg some holds
  | openDispatch opening reservation stage => exact congrArg some holds
  | _ => exact absurd holds id

/-- While a task releases its record, nobody else holds the address, and its
route is its own one, on the way out. -/
theorem releasing_alone (reach : (serverSystem config).Reachable server)
    (running : server.status = .running) {generation : Nat} {task : ActorTask}
    (found : server.tasks generation = some task) (releasing : task.pc.isReleasing = true) :
    (∀ id, ¬ (server.conns id).pc.holdsLocal task.address) ∧
      server.routes task.address = some ⟨generation, .deactivating⟩ := by
  have locks := locksOk_of_reachable reach
  have guards : server.guards (.task generation) = some task.address := by
    simp only [Server.guards, found, Option.bind_some, guards_releasing releasing]
  have mine := locks (.task generation) task.address guards
  constructor
  · intro id holds
    have theirs := locks (.conn id) task.address (ConnPc.guards_of_holdsLocal holds)
    rw [mine] at theirs
    cases theirs
  · refine ((routesOk_of_reachable reach).owned running generation task .deactivating found ?_).2
    cases hpc : task.pc <;> simp [hpc, TaskPc.isReleasing] at releasing
    rfl

/-- At the step that sends the conditional write of `release_local_owner`, which
is the step at which an atomic store applies it, no `SessionOpen` of that
address holds a local resolution, and the route, if any, is the releasing
generation's own one and is `Deactivating`. -/
theorem release_excludes_activation (reach : (serverSystem config).Reachable server)
    (running : server.status = .running) (generation ticket : Nat) (authorityValid : Bool)
    (stepped : server.step? config authorityValid
      (.task generation (.reply (.issued ticket))) = some after) :
    ∃ task, server.tasks generation = some task ∧
      (∀ id, ¬ (server.conns id).pc.holdsLocal task.address) ∧
      ∀ route, server.routes task.address = some route →
        route.generation = generation ∧ route.state = .deactivating := by
  obtain ⟨task, found, moved⟩ := Option.bind_eq_some_iff.mp stepped
  have releasing : task.pc.isReleasing = true := by
    cases hpc : task.pc <;> simp [hpc, Server.taskStep?] at moved
    rfl
  obtain ⟨alone, route⟩ := releasing_alone reach running found releasing
  refine ⟨task, found, alone, fun other present => ?_⟩
  rw [route, Option.some.injEq] at present
  subst present
  exact ⟨rfl, rfl⟩

/-- The opened Session is closed again, the actor goes idle, and its task has
read the record it is about to release. -/
def closeAndPassivate : List (Bool × ServerEvent) :=
  [.task 1 .advance, .task 1 (.returned true), .conn 0 (.advance false),
    .conn 0 (.advance false),
    .conn 0 (.receive ⟨2, some cartAddress, some ⟨7⟩, some .sessionClose⟩),
    .conn 0 (.advance false), .conn 0 (.advance false), .conn 0 (.advance false),
    .task 1 .advance, .task 1 (.returned true), .task 1 .idle, .task 1 .advance,
    .task 1 .advance, .task 1 (.returned true), .task 1 .advance,
    .task 1 (.reply (.owner (.ok (some ⟨cartRuntime.router.localClaim 1, ⟨""⟩⟩))))].map
    fun event => (true, event)

/-- Generation one sends its release alone. -/
theorem passivating_task_releases_alone :
    ∃ server after,
      (serverSystem cartRuntime).run? (.fresh cartRuntime)
        (openAndActivate ++ closeAndPassivate) = some server ∧
      server.step? cartRuntime true (.task 1 (.reply (.issued 1))) = some after ∧
      ∃ task, server.tasks 1 = some task ∧
        (∀ id, ¬ (server.conns id).pc.holdsLocal task.address) ∧
        ∀ route, server.routes task.address = some route →
          route.generation = 1 ∧ route.state = .deactivating := by
  have reach := @reachable_of_run? _ _ (serverSystem cartRuntime) _ _
    (openAndActivate ++ closeAndPassivate) rfl rfl
  exact ⟨_, _, rfl, rfl, release_excludes_activation reach rfl 1 1 true rfl⟩

end Coactor.Runtime
