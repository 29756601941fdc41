import Coactor.Runtime.Cases
import Coactor.Runtime.Shutdown

/-!
# What one step can do to routes and tasks

A connection task touches routes and actor tasks only through the section of
`dispatch_message` under the actors lock and through
`dispatch_message_if_active`.  An actor task touches its own record and its own
route.  Every invariant of the runtime is derived from these two summaries.
-/

namespace Coactor.Runtime

open Coactor.Coordination

namespace Server

/-! ## Frame lemmas -/

section Frames

variable (server : Server) (completion : Completion) (messages : List MailboxMessage)

/-- Answering openings changes nothing but their oneshots. -/
theorem completeAll_frame :
    ∃ completions, server.completeAll completion messages =
      { server with completions := completions } := by
  induction messages generalizing server with
  | nil => exact ⟨_, rfl⟩
  | cons message rest ih =>
      cases message with
      | sessionOpened opening =>
          obtain ⟨completions, same⟩ := ih (server.complete opening completion)
          exact ⟨completions, same⟩
      | action session payload => exact ih server
      | sessionClosed session => exact ih server

@[simp]
theorem completeAll_status : (server.completeAll completion messages).status = server.status := by
  obtain ⟨_, same⟩ := server.completeAll_frame completion messages
  rw [same]

@[simp]
theorem completeAll_routes : (server.completeAll completion messages).routes = server.routes := by
  obtain ⟨_, same⟩ := server.completeAll_frame completion messages
  rw [same]

@[simp]
theorem completeAll_tasks : (server.completeAll completion messages).tasks = server.tasks := by
  obtain ⟨_, same⟩ := server.completeAll_frame completion messages
  rw [same]

@[simp]
theorem completeAll_conns : (server.completeAll completion messages).conns = server.conns := by
  obtain ⟨_, same⟩ := server.completeAll_frame completion messages
  rw [same]

@[simp]
theorem completeAll_registry :
    (server.completeAll completion messages).registry = server.registry := by
  obtain ⟨_, same⟩ := server.completeAll_frame completion messages
  rw [same]

@[simp]
theorem completeAll_resolutions :
    (server.completeAll completion messages).resolutions = server.resolutions := by
  obtain ⟨_, same⟩ := server.completeAll_frame completion messages
  rw [same]

@[simp]
theorem completeAll_nextGeneration :
    (server.completeAll completion messages).nextGeneration = server.nextGeneration := by
  obtain ⟨_, same⟩ := server.completeAll_frame completion messages
  rw [same]

@[simp]
theorem completeAll_nextOpening :
    (server.completeAll completion messages).nextOpening = server.nextOpening := by
  obtain ⟨_, same⟩ := server.completeAll_frame completion messages
  rw [same]

@[simp]
theorem completeAll_shutdown :
    (server.completeAll completion messages).shutdown = server.shutdown := by
  obtain ⟨_, same⟩ := server.completeAll_frame completion messages
  rw [same]

@[simp]
theorem completeAll_fence : (server.completeAll completion messages).fence = server.fence := by
  obtain ⟨_, same⟩ := server.completeAll_frame completion messages
  rw [same]

end Frames

end Server

/-! ## Connection tasks -/

/-- The opening is on its way into a mailbox. -/
def Dispatching (server : Server) (opening : Opening) : Prop :=
  ∃ id reservation stage, (server.conns id).pc = .openDispatch opening reservation stage

/-- A message that opens a Session goes to the address of its opening. -/
def SentBy (server : Server) (address : ActorAddress) (message : MailboxMessage) : Prop :=
  ∀ opening, message = .sessionOpened opening →
    opening.address = address ∧ Dispatching server opening

/-- What a dispatch can do to the routes and tasks of an address. -/
inductive DispatchEffect (before after : Server) : Prop where
  | unchanged (routes : after.routes = before.routes) (tasks : after.tasks = before.tasks)
      (generation : before.nextGeneration ≤ after.nextGeneration)
  | enqueued (address : ActorAddress) (generation : Nat) (task : ActorTask)
      (message : MailboxMessage)
      (route : before.routes address = some ⟨generation, .active⟩)
      (found : before.tasks generation = some task) (isOpen : task.closed = false)
      (routes : after.routes = before.routes)
      (tasks : after.tasks = Function.update before.tasks generation
        (some { task with mailbox := task.mailbox ++ [message] }))
      (next : after.nextGeneration = before.nextGeneration)
      (sent : SentBy before address message)
  | spawned (address : ActorAddress) (message : MailboxMessage)
      (spawns : before.wouldSpawn address = true)
      (routes : after.routes = Function.update before.routes address
        (some ⟨before.nextGeneration, .active⟩))
      (tasks : after.tasks = Function.update before.tasks before.nextGeneration
        (some ⟨address, .spawned, [message], false, false, false, false⟩))
      (next : after.nextGeneration = before.nextGeneration + 1)
      (sent : SentBy before address message)
  | unrouted (address : ActorAddress) (spawns : before.wouldSpawn address = true)
      (routes : after.routes = Function.update before.routes address none)
      (tasks : after.tasks = before.tasks)
      (generation : before.nextGeneration ≤ after.nextGeneration)

/-- The rest of the Server that a dispatch leaves alone. -/
structure SameControl (before after : Server) : Prop where
  status : after.status = before.status
  shutdown : after.shutdown = before.shutdown
  fence : after.fence = before.fence

theorem SameControl.refl (server : Server) : SameControl server server := ⟨rfl, rfl, rfl⟩

/-- Routes, tasks and control state are untouched. -/
structure SameCore (before after : Server) : Prop extends SameControl before after where
  routes : after.routes = before.routes
  tasks : after.tasks = before.tasks
  next : after.nextGeneration = before.nextGeneration

theorem SameCore.refl (server : Server) : SameCore server server :=
  ⟨.refl server, rfl, rfl, rfl⟩

namespace Server

variable {config : RuntimeConfig} {server : Server}

/-- A spawn inserts a route and a task of the next generation, or panics. -/
theorem spawn_cases {before : Server} {address : ActorAddress} {message : MailboxMessage}
    {panics : Bool} (control : SameControl before server)
    (next : server.nextGeneration = before.nextGeneration) (tasks : server.tasks = before.tasks)
    (spawns : before.wouldSpawn address = true) (sent : SentBy before address message)
    (routes : server.routes = before.routes ∨
      server.routes = Function.update before.routes address none) :
    SameControl before (server.spawn config address message panics).1 ∧
      DispatchEffect before (server.spawn config address message panics).1 := by
  unfold spawn
  split
  · refine ⟨⟨control.status, control.shutdown, control.fence⟩,
      .spawned address message spawns ?_ (by simp only [next, tasks]) (by simp only [next]) sent⟩
    rcases routes with same | removed
    · simp only [same, next]
    · simp only [removed, next, Function.update_idem]
  · refine ⟨⟨control.status, control.shutdown, control.fence⟩, ?_⟩
    have later : before.nextGeneration ≤ server.nextGeneration + 1 := by omega
    rcases routes with same | removed
    · exact .unchanged same tasks later
    · exact .unrouted address spawns removed tasks later

theorem activate_cases {before : Server} {address : ActorAddress} {message : MailboxMessage}
    {reservation panics : Bool} (control : SameControl before server)
    (next : server.nextGeneration = before.nextGeneration) (tasks : server.tasks = before.tasks)
    (spawns : before.wouldSpawn address = true) (sent : SentBy before address message)
    (routes : server.routes = before.routes ∨
      server.routes = Function.update before.routes address none) :
    SameControl before (server.activate config address message reservation panics).1 ∧
      DispatchEffect before (server.activate config address message reservation panics).1 := by
  unfold activate
  split
  · exact spawn_cases control next tasks spawns sent routes
  · split
    · exact spawn_cases ⟨control.status, control.shutdown, control.fence⟩ next tasks spawns sent
        routes
    · refine ⟨⟨by simp [control.status], by simp [control.shutdown], by simp [control.fence]⟩, ?_⟩
      rcases routes with same | removed
      · exact .unchanged (by simp [same]) (by simp [tasks]) (by simp [next])
      · exact .unrouted address spawns (by simp [removed]) (by simp [tasks]) (by simp [next])

/-- The section of `dispatch_message` under the actors lock. -/
theorem dispatchActors_cases {address : ActorAddress} {message : MailboxMessage}
    {reservation panics : Bool} (sent : SentBy server address message) :
    SameControl server (server.dispatchActors config address message reservation panics).1 ∧
      DispatchEffect server
        (server.dispatchActors config address message reservation panics).1 := by
  unfold dispatchActors
  split
  · rename_i missing
    exact activate_cases (.refl _) rfl rfl (by simp [wouldSpawn, missing]) sent (.inl rfl)
  · exact ⟨⟨rfl, rfl, rfl⟩, .unchanged rfl rfl (Nat.le_refl _)⟩
  · rename_i generation route
    split
    · rename_i task found
      split
      · rename_i closed
        have removed : server.removeRoute address generation =
            { server with
              routes := Function.update server.routes address none
              available := server.available + 1 } := by
          simp [removeRoute, route]
        rw [removed]
        exact activate_cases ⟨rfl, rfl, rfl⟩ rfl rfl (by simp [wouldSpawn, route, found, closed])
          sent (.inr rfl)
      · rename_i isOpen
        split
        · exact ⟨⟨rfl, rfl, rfl⟩, .enqueued address generation task message route found
            (by simpa using isOpen) rfl rfl rfl sent⟩
        · refine ⟨⟨by simp [refund], by simp [refund], by simp [refund]⟩, ?_⟩
          exact .unchanged (by simp [refund]) (by simp [refund]) (by simp [refund])
    · exact ⟨⟨rfl, rfl, rfl⟩, .unchanged rfl rfl (Nat.le_refl _)⟩

theorem dispatchIfActive_cases {address : ActorAddress} {message : MailboxMessage}
    (sent : SentBy server address message) :
    SameControl server (server.dispatchIfActive config address message) ∧
      DispatchEffect server (server.dispatchIfActive config address message) := by
  have idle : SameControl server server ∧ DispatchEffect server server :=
    ⟨.refl _, .unchanged rfl rfl (Nat.le_refl _)⟩
  unfold dispatchIfActive
  split
  · rename_i generation route
    split
    · rename_i task found
      split
      · exact idle
      · rename_i isOpen
        split
        · exact ⟨⟨rfl, rfl, rfl⟩, .enqueued address generation task message route found
            (by simpa using isOpen) rfl rfl rfl sent⟩
        · exact idle
    · exact idle
  · exact idle

/-- Whatever is done to connections, locks, permits and Sessions leaves a
dispatch effect as it is. -/
theorem effect_of_same {before after : Server}
    (effect : SameControl before server ∧ DispatchEffect before server)
    (same : SameCore server after) : SameControl before after ∧ DispatchEffect before after := by
  obtain ⟨control, dispatch⟩ := effect
  refine ⟨⟨same.status.trans control.status, same.shutdown.trans control.shutdown,
    same.fence.trans control.fence⟩, ?_⟩
  cases dispatch with
  | unchanged routes tasks generation =>
      exact .unchanged (same.routes.trans routes) (same.tasks.trans tasks)
        (same.next ▸ generation)
  | enqueued address generation task message route found isOpen routes tasks next sent =>
      exact .enqueued address generation task message route found isOpen
        (same.routes.trans routes) (same.tasks.trans tasks) (same.next.trans next) sent
  | spawned address message spawns routes tasks next sent =>
      exact .spawned address message spawns (same.routes.trans routes) (same.tasks.trans tasks)
        (same.next.trans next) sent
  | unrouted address spawns routes tasks generation =>
      exact .unrouted address spawns (same.routes.trans routes) (same.tasks.trans tasks)
        (same.next ▸ generation)

theorem effect_of_core {after : Server} (same : SameCore server after) :
    SameControl server after ∧ DispatchEffect server after :=
  effect_of_same ⟨.refl _, .unchanged rfl rfl (Nat.le_refl _)⟩ same

theorem capacityReply?_core {reserved reserved' : Bool} {reply : RouterReply} {after : Server}
    (replied : server.capacityReply? reserved reply = some (after, reserved')) :
    SameCore server after := by
  unfold capacityReply? at replied
  split at replied
  · simp only [Option.ite_none_right_eq_some, Option.some.injEq, Prod.mk.injEq] at replied
    obtain ⟨-, rfl, -⟩ := replied
    exact ⟨⟨rfl, rfl, rfl⟩, rfl, rfl, rfl⟩
  · cases replied
    exact ⟨⟨rfl, rfl, rfl⟩, rfl, rfl, rfl⟩
  · cases replied
    exact ⟨⟨rfl, rfl, rfl⟩, rfl, rfl, rfl⟩

/-- A connection task leaves the control state alone, and its effect on routes
and tasks is that of a dispatch. -/
theorem connStep?_effect {authorityValid : Bool} {id : Nat} {pc : ConnPc} {event : ConnEvent}
    {after : Server} (here : (server.conns id).pc = pc)
    (stepped : server.connStep? config authorityValid id pc event = some after) :
    SameControl server after ∧ DispatchEffect server after := by
  cases connStep?_case stepped with
  | asked _ replied | resolvedHere _ replied | resolvedAway _ _ replied =>
      exact effect_of_same (effect_of_core (capacityReply?_core replied))
        ⟨⟨rfl, rfl, rfl⟩, rfl, rfl, rfl⟩
  | @dispatched opening reservation panics middle ending dispatched =>
      have sent : SentBy server opening.address (.sessionOpened opening) := by
        rintro other ⟨⟩
        exact ⟨rfl, id, reservation, .actors, here⟩
      have effect := @dispatchActors_cases config server opening.address
        (.sessionOpened opening) reservation panics sent
      rw [dispatched] at effect
      exact effect_of_same effect ⟨⟨rfl, rfl, rfl⟩, rfl, rfl, rfl⟩
  | @actionDispatched address session payload panics middle ending dispatched =>
      have effect := @dispatchActors_cases config server address (.action session payload)
        false panics (by rintro _ ⟨⟩)
      rw [dispatched] at effect
      exact effect_of_same effect ⟨⟨rfl, rfl, rfl⟩, rfl, rfl, rfl⟩
  | @closeDispatched address session next panics =>
      have sent : SentBy server address (.sessionClosed session) := (by rintro _ ⟨⟩)
      exact effect_of_same (dispatchIfActive_cases sent) ⟨⟨rfl, rfl, rfl⟩, rfl, rfl, rfl⟩
  | _ => exact effect_of_core ⟨⟨rfl, rfl, rfl⟩, rfl, rfl, rfl⟩

end Server

/-! ## What a dispatch leaves alone -/

/-- A dispatch leaves connections, locks and Sessions alone. -/
structure SameOutside (before after : Server) : Prop where
  conns : after.conns = before.conns
  resolutions : after.resolutions = before.resolutions
  registry : after.registry = before.registry
  nextOpening : after.nextOpening = before.nextOpening

namespace Server

variable {server after : Server} {config : RuntimeConfig}

theorem spawn_outside {address : ActorAddress} {message : MailboxMessage} {panics : Bool} :
    SameOutside server (server.spawn config address message panics).1 := by
  unfold spawn
  split <;> exact ⟨rfl, rfl, rfl, rfl⟩

theorem activate_outside {address : ActorAddress} {message : MailboxMessage}
    {reservation panics : Bool} :
    SameOutside server (server.activate config address message reservation panics).1 := by
  unfold activate
  split
  · exact spawn_outside
  · split
    · have spawned := @spawn_outside { server with available := server.available - 1 } config
        address message panics
      exact ⟨spawned.conns, spawned.resolutions, spawned.registry, spawned.nextOpening⟩
    · exact ⟨by simp, by simp, by simp, by simp⟩

theorem removeRoute_outside {address : ActorAddress} {generation : Nat} :
    SameOutside server (server.removeRoute address generation) := by
  unfold removeRoute
  split
  · split <;> exact ⟨rfl, rfl, rfl, rfl⟩
  · exact ⟨rfl, rfl, rfl, rfl⟩

theorem dispatchActors_outside {address : ActorAddress} {message : MailboxMessage}
    {reservation panics : Bool} :
    SameOutside server
      (server.dispatchActors config address message reservation panics).1 := by
  unfold dispatchActors
  split
  · exact activate_outside
  · exact ⟨rfl, rfl, rfl, rfl⟩
  · rename_i generation route
    split
    · split
      · have removed := @removeRoute_outside server address generation
        have activated := @activate_outside (server.removeRoute address generation) config address
          message reservation panics
        exact ⟨activated.conns.trans removed.conns,
          activated.resolutions.trans removed.resolutions,
          activated.registry.trans removed.registry,
          activated.nextOpening.trans removed.nextOpening⟩
      · split
        · exact ⟨rfl, rfl, rfl, rfl⟩
        · exact ⟨by simp [refund], by simp [refund], by simp [refund], by simp [refund]⟩
    · exact ⟨rfl, rfl, rfl, rfl⟩

theorem dispatchIfActive_outside {address : ActorAddress} {message : MailboxMessage} :
    SameOutside server (server.dispatchIfActive config address message) := by
  unfold dispatchIfActive
  split
  · split
    · split
      · exact ⟨rfl, rfl, rfl, rfl⟩
      · split <;> exact ⟨rfl, rfl, rfl, rfl⟩
    · exact ⟨rfl, rfl, rfl, rfl⟩
  · exact ⟨rfl, rfl, rfl, rfl⟩

theorem capacityReply?_outside {reserved reserved' : Bool} {reply : RouterReply} {after : Server}
    (replied : server.capacityReply? reserved reply = some (after, reserved')) :
    SameOutside server after := by
  unfold capacityReply? at replied
  split at replied
  · simp only [Option.ite_none_right_eq_some, Option.some.injEq, Prod.mk.injEq] at replied
    obtain ⟨-, rfl, -⟩ := replied
    exact ⟨rfl, rfl, rfl, rfl⟩
  · cases replied
    exact ⟨rfl, rfl, rfl, rfl⟩
  · cases replied
    exact ⟨rfl, rfl, rfl, rfl⟩

/-- A connection task changes its own record only. -/
theorem connStep?_conns {authorityValid : Bool} {id : Nat} {pc : ConnPc} {event : ConnEvent}
    (stepped : server.connStep? config authorityValid id pc event = some after) :
    ∃ conn, after.conns = Function.update server.conns id conn ∧
      conn.abortRequested = (server.conns id).abortRequested := by
  have moved : ∀ (middle : Server) (pc : ConnPc), middle.conns = server.conns →
      ∃ conn, (middle.setConn id pc).conns = Function.update server.conns id conn ∧
        conn.abortRequested = (server.conns id).abortRequested := by
    intro middle pc conns
    exact ⟨{ server.conns id with pc := pc }, by simp only [setConn, conns], rfl⟩
  cases connStep?_case stepped with
  | asked _ replied | resolvedHere _ replied =>
      exact moved _ _ (capacityReply?_outside replied).conns
  | resolvedAway _ _ replied =>
      have conns := (capacityReply?_outside replied).conns
      exact moved _ _ conns
  | @dispatched opening reservation panics middle ending dispatched =>
      have outside := @dispatchActors_outside server config opening.address
        (.sessionOpened opening) reservation panics
      rw [dispatched] at outside
      have conns := outside.conns
      exact moved _ _ conns
  | @actionDispatched address session payload panics middle ending dispatched =>
      have outside := @dispatchActors_outside server config address (.action session payload)
        false panics
      rw [dispatched] at outside
      exact moved _ _ outside.conns
  | closeDispatched => exact moved _ _ dispatchIfActive_outside.conns
  | noted => exact ⟨_, rfl, rfl⟩
  | _ => exact moved _ _ rfl

end Server

/-! ## Actor tasks -/

/-- The state of its own route that a task relies on at a program point. -/
def TaskPc.routeState? : TaskPc → Option RouteState
  | .spawned | .activating | .failClose _ | .receiving | .executing _ false | .idleCount
  | .idleBegin => some .active
  | .deactivating | .releaseLock | .releasing _ => some .deactivating
  | _ => none

/-- The program points of a task that is shutting down. -/
def TaskPc.isDraining : TaskPc → Bool
  | .shutdownClose | .draining | .executing _ true | .shutdownDeactivating
  | .terminateAll _ .deactivate | .terminating _ .deactivate => true
  | _ => false

/-- What a task can do to its own route. -/
inductive RouteEffect (before after : Server) (generation : Nat) (task next : ActorTask) :
    Prop where
  | kept (routes : after.routes = before.routes)
      (state : ∀ state, next.pc.routeState? = some state →
        task.pc.routeState? = some state ∧ next.closed = task.closed)
  | removed (route : Route) (present : before.routes task.address = some route)
      (own : route.generation = generation)
      (routes : after.routes = Function.update before.routes task.address none)
      (state : next.pc.routeState? = none)
  | deactivated (route : Route) (present : before.routes task.address = some route)
      (own : route.generation = generation)
      (routes : after.routes = Function.update before.routes task.address
        (some ⟨generation, .deactivating⟩))
      (idle : task.pc = .idleBegin) (empty : task.mailbox = [])
      (moved : next = { task with pc := .deactivating })

/-- A step of a task changes its own record and at most its own route. -/
structure TaskEffect (before after : Server) (generation : Nat) (task next : ActorTask) :
    Prop extends SameControl before after where
  tasks : after.tasks = Function.update before.tasks generation (some next)
  nextGeneration : after.nextGeneration = before.nextGeneration
  conns : after.conns = before.conns
  address : next.address = task.address
  shutdownSignal : next.shutdownSignal = task.shutdownSignal
  abortRequested : next.abortRequested = task.abortRequested
  mailbox : next.mailbox <:+ task.mailbox
  draining : next.pc.isDraining = true → task.pc.isDraining = true ∨ task.shutdownSignal = true
  route : RouteEffect before after generation task next

namespace Server

variable {config : RuntimeConfig} {server : Server} {generation : Nat} {task : ActorTask}

/-- A task that moves on without touching its route. -/
theorem effect_kept {middle : Server} {next : ActorTask} (same : SameCore server middle)
    (conns : middle.conns = server.conns) (address : next.address = task.address)
    (shutdownSignal : next.shutdownSignal = task.shutdownSignal)
    (abortRequested : next.abortRequested = task.abortRequested)
    (mailbox : next.mailbox <:+ task.mailbox)
    (draining : next.pc.isDraining = true →
      task.pc.isDraining = true ∨ task.shutdownSignal = true)
    (state : ∀ state, next.pc.routeState? = some state →
      task.pc.routeState? = some state ∧ next.closed = task.closed) :
    TaskEffect server (middle.setTask generation next) generation task next where
  status := same.status
  shutdown := same.shutdown
  fence := same.fence
  tasks := by simp only [setTask, same.tasks]
  nextGeneration := same.next
  conns := conns
  address := address
  shutdownSignal := shutdownSignal
  abortRequested := abortRequested
  mailbox := mailbox
  draining := draining
  route := .kept same.routes state

/-- A task that only changes its program point. -/
theorem effect_goto {middle : Server} {pc : TaskPc} (same : SameCore server middle)
    (conns : middle.conns = server.conns)
    (draining : pc.isDraining = true → task.pc.isDraining = true ∨ task.shutdownSignal = true)
    (state : ∀ state, pc.routeState? = some state → task.pc.routeState? = some state) :
    TaskEffect server (middle.gotoTask generation task pc) generation task
      { task with pc := pc } :=
  effect_kept same conns rfl rfl rfl (List.suffix_refl _) draining
    fun route found => ⟨state route found, rfl⟩

/-- A task that removes its own route, if it is still there. -/
theorem effect_removeRoute {pc : TaskPc} (calm : pc.isDraining = false)
    (state : pc.routeState? = none) :
    TaskEffect server ((server.removeRoute task.address generation).gotoTask generation task pc)
      generation task { task with pc := pc } := by
  have noDrain : pc.isDraining = true →
      task.pc.isDraining = true ∨ task.shutdownSignal = true := by simp [calm]
  have noState : ∀ other, pc.routeState? = some other → task.pc.routeState? = some other := by
    simp [state]
  unfold removeRoute
  split
  · rename_i route present
    split
    · rename_i own
      exact
        { status := rfl, shutdown := rfl, fence := rfl, tasks := rfl, nextGeneration := rfl
          conns := rfl, address := rfl, shutdownSignal := rfl, abortRequested := rfl
          mailbox := List.suffix_refl _, draining := noDrain
          route := .removed route present own rfl state }
    · exact effect_goto (.refl _) rfl noDrain noState
  · exact effect_goto (.refl _) rfl noDrain noState

theorem completeAll_core (completion : Completion) (messages : List MailboxMessage) :
    SameCore server (server.completeAll completion messages) :=
  ⟨⟨by simp, by simp, by simp⟩, by simp, by simp, by simp⟩

/-- A step that changes nothing but the program point of a task. -/
theorem passage_effect {event : TaskEvent} {onward : TaskPc}
    (passage : TaskPassage server generation task event onward) :
    TaskEffect server (server.setTask generation { task with pc := onward }) generation task
      { task with pc := onward } := by
  have calm : onward.isDraining = false → onward.routeState? = none →
      TaskEffect server (server.setTask generation { task with pc := onward }) generation task
        { task with pc := onward } := by
    intro calm state
    exact effect_goto (.refl _) rfl (by simp [calm]) (by simp [state])
  cases passage with
  | told here signal =>
      exact effect_goto (.refl _) rfl (fun _ => .inr signal) (by simp [TaskPc.routeState?])
  | @listed error next here =>
      refine effect_goto (.refl _) rfl ?_ (by simp [TaskPc.routeState?])
      cases next <;> simp [TaskPc.isDraining, here]
  | swept here | drained here =>
      exact effect_goto (.refl _) rfl (by simp [TaskPc.isDraining, here])
        (by simp [TaskPc.routeState?])
  | @handled message draining completed here =>
      refine effect_goto (.refl _) rfl ?_ ?_ <;> cases completed <;> cases draining <;>
        simp [TaskPc.afterMessage, TaskPc.isDraining, TaskPc.routeState?, here]
  | activationFailed here | activationPanicked here | polled here | activated here | idled here
  | unused here | used here | retained here | deactivated here | asked here =>
      exact effect_goto (.refl _) rfl (by simp [TaskPc.isDraining])
        (by simp [TaskPc.routeState?, here])
  | _ => exact calm rfl rfl

/-- Every step of an actor task has such an effect. -/
theorem taskStep?_effect {event : TaskEvent} {after : Server}
    (stepped : server.taskStep? config generation task task.pc event = some after) :
    ∃ next, TaskEffect server after generation task next := by
  obtain ⟨middle, next, rfl, step⟩ := taskStep?_case stepped
  refine ⟨next, ?_⟩
  have noState : ∀ {pc : TaskPc} {closed : Bool}, pc.routeState? = none → ∀ state,
      pc.routeState? = some state →
        task.pc.routeState? = some state ∧ closed = task.closed := by
    simp +contextual
  cases step with
  | passed passage => exact passage_effect passage
  | failClosed | guardCompleted =>
      exact effect_kept (.refl _) rfl rfl rfl rfl (List.suffix_refl _)
        (by simp [TaskPc.isDraining]) (noState rfl)
  | shutdownClosed here =>
      exact effect_kept (.refl _) rfl rfl rfl rfl (List.suffix_refl _)
        (by simp [TaskPc.isDraining, here]) (noState rfl)
  | failRemoved | removed | guardDropped => exact effect_removeRoute rfl rfl
  | failAnswered | receiverDropped | unpolled =>
      exact effect_kept (completeAll_core _ _) (by simp) rfl rfl rfl List.nil_suffix
        (by simp [TaskPc.isDraining]) (noState rfl)
  | @terminated session rest onward here =>
      refine effect_goto ⟨⟨rfl, rfl, rfl⟩, rfl, rfl, rfl⟩ rfl ?_ (by simp [TaskPc.routeState?])
      cases onward <;> simp [TaskPc.isDraining, here]
  | received here _ _ first | drained here first =>
      exact effect_kept (.refl _) rfl rfl rfl rfl (first ▸ List.suffix_cons _ _)
        (by simp [TaskPc.isDraining, here]) (by simp [TaskPc.routeState?, here])
  | @opened opening draining completed here =>
      refine effect_goto ⟨⟨rfl, rfl, rfl⟩, rfl, rfl, rfl⟩ rfl ?_ ?_ <;> cases completed <;>
        cases draining <;>
        simp [TaskPc.afterMessage, TaskPc.isDraining, TaskPc.routeState?, here]
  | begun here present own empty =>
      subst own
      exact
        { status := rfl, shutdown := rfl, fence := rfl, tasks := rfl, nextGeneration := rfl
          conns := rfl, address := rfl, shutdownSignal := rfl, abortRequested := rfl
          mailbox := List.suffix_refl _, draining := by simp [TaskPc.isDraining]
          route := .deactivated _ present rfl rfl here empty rfl }
  | locked here =>
      exact effect_goto ⟨⟨rfl, rfl, rfl⟩, rfl, rfl, rfl⟩ rfl (by simp [TaskPc.isDraining])
        (by simp [TaskPc.routeState?, here])
  | released | unlocked =>
      exact effect_goto ⟨⟨rfl, rfl, rfl⟩, rfl, rfl, rfl⟩ rfl (by simp [TaskPc.isDraining])
        (by simp [TaskPc.routeState?])
  | interrupted =>
      exact effect_goto (completeAll_core _ _) (by simp) (by simp [TaskPc.isDraining])
        (by simp [TaskPc.routeState?])

end Server

/-! ## Shutdown and fence -/

/-- What others may set on a task from outside. -/
structure SameTask (task marked : ActorTask) : Prop where
  pc : marked.pc = task.pc
  address : marked.address = task.address
  mailbox : marked.mailbox = task.mailbox
  closed : marked.closed = task.closed
  completed : marked.completed = task.completed

/-- `shutdown` and `fence` mark tasks and connections, drop routes and Sessions,
and leave the rest alone. -/
structure ControlEffect (before after : Server) : Prop where
  tasks : ∀ generation, ∃ mark : ActorTask → ActorTask, (∀ task, SameTask task (mark task)) ∧
    after.tasks generation = (before.tasks generation).map mark
  routes : ∀ address route, after.routes address = some route →
    before.routes address = some route
  conns : ∀ id, (after.conns id).pc = (before.conns id).pc
  resolutions : after.resolutions = before.resolutions
  completions : after.completions = before.completions
  registry : after.registry.Sublist before.registry
  nextGeneration : after.nextGeneration = before.nextGeneration
  nextOpening : after.nextOpening = before.nextOpening

namespace Server

variable {server after : Server}

theorem unmarked (server : Server) (generation : Nat) :
    ∃ mark : ActorTask → ActorTask, (∀ task, SameTask task (mark task)) ∧
      server.tasks generation = (server.tasks generation).map mark :=
  ⟨fun task => task, fun _ => ⟨rfl, rfl, rfl, rfl, rfl⟩, by simp⟩

theorem marked (server : Server) (generations : List Nat) {change : ActorTask → ActorTask}
    (keeps : ∀ task, SameTask task (change task)) (generation : Nat) :
    ∃ mark : ActorTask → ActorTask, (∀ task, SameTask task (mark task)) ∧
      (server.markTasks generations change).tasks generation =
        (server.tasks generation).map mark := by
  by_cases chosen : generation ∈ generations
  · exact ⟨change, keeps, by simp [markTasks, chosen]⟩
  · exact ⟨fun task => task, fun _ => ⟨rfl, rfl, rfl, rfl, rfl⟩, by simp [markTasks, chosen]⟩

theorem abortInboundTasks_pc (server : Server) (id : Nat) :
    (server.abortInboundTasks.conns id).pc = (server.conns id).pc := by
  simp only [abortInboundTasks]
  split <;> rfl

theorem sweep_sublist (registry : SessionRegistry) (sweep : Sweep) :
    (sweep.step registry).1.Sublist registry := by
  unfold Sweep.step
  split
  case h_5 => exact List.filter_sublist
  all_goals exact List.Sublist.refl _

/-- Bookkeeping of `shutdown` and `fence` alone. -/
theorem control_same (same : after.tasks = server.tasks) (routes : after.routes = server.routes)
    (conns : after.conns = server.conns) (resolutions : after.resolutions = server.resolutions)
    (completions : after.completions = server.completions)
    (registry : after.registry.Sublist server.registry)
    (nextGeneration : after.nextGeneration = server.nextGeneration)
    (nextOpening : after.nextOpening = server.nextOpening) : ControlEffect server after where
  tasks := same ▸ unmarked server
  routes := fun _ _ found => routes ▸ found
  conns := fun _ => by rw [conns]
  resolutions := resolutions
  completions := completions
  registry := registry
  nextGeneration := nextGeneration
  nextOpening := nextOpening

theorem control_marked {change : ActorTask → ActorTask} (generations : List Nat)
    (same : after.tasks = (server.markTasks generations change).tasks)
    (keeps : ∀ task, SameTask task (change task))
    (routes : after.routes = server.routes) (conns : after.conns = server.conns)
    (resolutions : after.resolutions = server.resolutions)
    (completions : after.completions = server.completions)
    (registry : after.registry = server.registry)
    (nextGeneration : after.nextGeneration = server.nextGeneration)
    (nextOpening : after.nextOpening = server.nextOpening) : ControlEffect server after where
  tasks := same ▸ marked server generations keeps
  routes := fun _ _ found => routes ▸ found
  conns := fun _ => by rw [conns]
  resolutions := resolutions
  completions := completions
  registry := registry ▸ List.Sublist.refl _
  nextGeneration := nextGeneration
  nextOpening := nextOpening

theorem shutdownStep?_cases {expired : Bool} {pc : ShutdownPc}
    (stepped : server.shutdownStep? expired pc = some after) : ControlEffect server after := by
  have keeps := List.Sublist.refl server.registry
  unfold shutdownStep? at stepped
  split at stepped
  case h_1 =>
    split at stepped
    · cases stepped
      exact control_marked server.routed rfl (fun _ => ⟨rfl, rfl, rfl, rfl, rfl⟩) rfl rfl rfl rfl
        rfl rfl rfl
    · cases stepped
      exact control_same rfl rfl rfl rfl rfl keeps rfl rfl
  case h_2 =>
    split at stepped
    · cases stepped
      exact control_same rfl rfl rfl rfl rfl keeps rfl rfl
    · split at stepped
      · cases stepped
        exact control_same rfl rfl rfl rfl rfl keeps rfl rfl
      · split at stepped
        · cases stepped
          exact control_same rfl rfl rfl rfl rfl keeps rfl rfl
        · cases stepped
  case h_3 aborts =>
    cases stepped
    exact control_marked aborts rfl (fun _ => ⟨rfl, rfl, rfl, rfl, rfl⟩) rfl rfl rfl rfl rfl rfl
      rfl
  case h_4 =>
    cases stepped
    exact ⟨unmarked server, (by rintro _ _ ⟨⟩), fun _ => rfl, rfl, rfl, keeps, rfl, rfl⟩
  case h_5 timedOut sweep =>
    have shrinks := sweep_sublist server.registry sweep
    split at stepped
    all_goals
      rename_i swept
      rw [swept] at shrinks
      cases stepped
      exact control_same rfl rfl rfl rfl rfl shrinks rfl rfl
  case h_6 =>
    cases stepped
    exact ⟨unmarked server, fun _ _ found => found, server.abortInboundTasks_pc, rfl, rfl, keeps,
      rfl, rfl⟩
  case h_7 =>
    cases stepped
    exact control_same rfl rfl rfl rfl rfl keeps rfl rfl
  case h_8 => cases stepped
  case h_9 => cases stepped

theorem fenceStep?_cases {pc : FencePc} (stepped : server.fenceStep? pc = some after) :
    ControlEffect server after := by
  have keeps := List.Sublist.refl server.registry
  unfold fenceStep? at stepped
  split at stepped
  case h_1 =>
    cases stepped
    exact control_marked server.routed rfl (fun _ => ⟨rfl, rfl, rfl, rfl, rfl⟩) rfl rfl rfl rfl
      rfl rfl rfl
  case h_2 =>
    cases stepped
    exact control_same rfl rfl rfl rfl rfl keeps rfl rfl
  case h_3 =>
    split at stepped
    · cases stepped
      exact control_same rfl rfl rfl rfl rfl keeps rfl rfl
    · cases stepped
  case h_4 =>
    cases stepped
    exact ⟨unmarked server, (by rintro _ _ ⟨⟩), fun _ => rfl, rfl, rfl, keeps, rfl, rfl⟩
  case h_5 sweep =>
    have shrinks := sweep_sublist server.registry sweep
    split at stepped
    all_goals
      rename_i swept
      rw [swept] at shrinks
      cases stepped
      exact control_same rfl rfl rfl rfl rfl shrinks rfl rfl
  case h_6 =>
    cases stepped
    exact ⟨unmarked server, fun _ _ found => found, server.abortInboundTasks_pc, rfl, rfl, keeps,
      rfl, rfl⟩
  case h_7 => cases stepped

/-- A step of `shutdown` that is not its first one needs a status that has left
`RUNNING`, and every step leaves it so. -/
theorem shutdownStep?_stops {expired : Bool}
    (begun : server.shutdown ≠ .idle → server.status ≠ .running)
    (stepped : server.shutdownStep? expired server.shutdown = some after) :
    after.status ≠ .running := by
  unfold shutdownStep? at stepped
  split at stepped
  case h_1 =>
    split at stepped
    · cases stepped
      simp
    · rename_i stopped
      cases stepped
      exact stopped
  case h_7 =>
    cases stepped
    simp
  case h_8 => cases stepped
  case h_9 => cases stepped
  all_goals
    rename_i hpc
    have stopped := begun (by simp [hpc])
    first
      | (cases stepped; exact stopped)
      | (split at stepped <;> first
          | (cases stepped; exact stopped)
          | (split at stepped <;> first
              | (cases stepped; exact stopped)
              | (split at stepped <;> first
                  | (cases stepped; done)
                  | (cases stepped; exact stopped))))

theorem fenceStep?_stops (begun : server.fence ≠ .idle → server.status ≠ .running)
    (stepped : server.fenceStep? server.fence = some after) : after.status ≠ .running := by
  unfold fenceStep? at stepped
  split at stepped
  case h_1 =>
    cases stepped
    simp
  case h_7 => cases stepped
  all_goals
    rename_i hpc
    have stopped := begun (by simp [hpc])
    first
      | (cases stepped; exact stopped)
      | (split at stepped <;> first
          | (cases stepped; done)
          | (cases stepped; exact stopped))

end Server

end Coactor.Runtime
