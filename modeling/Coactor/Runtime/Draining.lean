import Coactor.Runtime.Resolution

/-!
# Draining

`shutdown` and `fence` take the routes they find and wait for their tasks.  A
busy task has its route until it is over, so both wait for every busy task, as
long as no dispatch spawns another one after the status has left `RUNNING`.
-/

namespace Coactor.Runtime

open Coactor.Foundation.Transition
open Coactor.Coordination

variable {server after : Server} {config : RuntimeConfig}

/-! ## A dispatch that comes too late -/

/-- A dispatch that passed the status check reaches `spawn_actor` after the
status has left `RUNNING`. -/
def lateActivation (server : Server) : Bool × ServerEvent → Bool
  | (_, .conn id (.advance _)) =>
      server.status != .running &&
        match (server.conns id).pc with
        | .openDispatch opening reservation .actors =>
            server.wouldActivate opening.address reservation
        | .actionDispatch address _ _ .actors => server.wouldActivate address false
        | _ => false
  | _ => false

/-- The timeout of `shutdown` fires. -/
def timesOut (server : Server) : Bool × ServerEvent → Bool
  | (_, .shutdown true) => match server.shutdown with | .waiting _ _ => true | _ => false
  | _ => false

/-- No late activation, on the path of `shutdown` that does not time out. -/
def Prompt (server : Server) (label : Bool × ServerEvent) : Prop :=
  lateActivation server label = false ∧ timesOut server label = false

instance (server : Server) (label : Bool × ServerEvent) : Decidable (Prompt server label) :=
  inferInstanceAs (Decidable (_ ∧ _))

/-- Messages may have entered mailboxes, and nothing else has happened to routes
and tasks. -/
structure Delivered (before after : Server) : Prop where
  routes : after.routes = before.routes
  tasks : ∀ generation, ∃ mailbox : ActorTask → List MailboxMessage,
    after.tasks generation = (before.tasks generation).map fun task =>
      { task with mailbox := mailbox task }

theorem Delivered.of_same (routes : after.routes = server.routes)
    (tasks : after.tasks = server.tasks) : Delivered server after :=
  ⟨routes, fun _ => ⟨fun task => task.mailbox, by simp [tasks]⟩⟩

theorem Delivered.of_enqueued {generation : Nat} {task : ActorTask} {message : MailboxMessage}
    (found : server.tasks generation = some task) (routes : after.routes = server.routes)
    (tasks : after.tasks = Function.update server.tasks generation
      (some { task with mailbox := task.mailbox ++ [message] })) : Delivered server after := by
  refine ⟨routes, fun other => ?_⟩
  by_cases same : other = generation
  · subst same
    exact ⟨fun task => task.mailbox ++ [message], by simp [tasks, found]⟩
  · exact ⟨fun task => task.mailbox, by simp [tasks, Function.update_of_ne same]⟩

namespace Server

/-- A dispatch that does not reach `spawn_actor` delivers its message or fails. -/
theorem dispatchActors_delivered {address : ActorAddress} {message : MailboxMessage}
    {reservation panics : Bool} (late : server.wouldActivate address reservation = false) :
    Delivered server (server.dispatchActors config address message reservation panics).1 := by
  unfold wouldActivate at late
  unfold dispatchActors
  split at late
  · rename_i missing
    rw [missing]
    simp only [Bool.or_eq_false_iff, decide_eq_false_iff_not] at late
    obtain ⟨rfl, full⟩ := late
    simp only [activate, Bool.false_eq_true, if_false, if_neg full]
    exact .of_same (by simp) (by simp)
  · rename_i route present
    rw [present]
    obtain ⟨generation, state⟩ := route
    simp only [wouldSpawn, present] at late
    cases state with
    | deactivating => exact .of_same rfl rfl
    | active =>
        simp only
        split
        · rename_i task found
          simp only [found, Option.any_some] at late
          rw [if_neg (by simp [late])]
          split
          · exact .of_enqueued found rfl rfl
          · exact .of_same (by simp [refund]) (by simp [refund])
        · exact .of_same rfl rfl

theorem dispatchIfActive_delivered {address : ActorAddress} {message : MailboxMessage} :
    Delivered server (server.dispatchIfActive config address message) := by
  unfold dispatchIfActive
  split
  · split
    · rename_i found
      split
      · exact .of_same rfl rfl
      · split
        · exact .of_enqueued found rfl rfl
        · exact .of_same rfl rfl
    · exact .of_same rfl rfl
  · exact .of_same rfl rfl

theorem delivered_same {middle : Server} (delivered : Delivered server middle)
    (routes : after.routes = middle.routes) (tasks : after.tasks = middle.tasks) :
    Delivered server after :=
  ⟨routes.trans delivered.routes, tasks ▸ delivered.tasks⟩

theorem dispatchActors_routes_of_ne {address other : ActorAddress} {message : MailboxMessage}
    {reservation panics : Bool} (different : other ≠ address) :
    (server.dispatchActors config address message reservation panics).1.routes other =
      server.routes other := by
  have activated : ∀ middle : Server, middle.routes other = server.routes other →
      (middle.activate config address message reservation panics).1.routes other =
        server.routes other := by
    intro middle same
    unfold activate spawn
    split
    · split <;> simp [Function.update_of_ne different, same]
    · split
      · split <;> simp [Function.update_of_ne different, same]
      · simpa using same
  unfold dispatchActors
  split
  · exact activated server rfl
  · rfl
  · split
    · split
      · refine activated _ ?_
        unfold removeRoute
        split
        · split
          · exact Function.update_of_ne different _ _
          · rfl
        · rfl
      · split <;> simp [setTask, refund]
    · rfl

/-- A connection task at the section under the actors lock, for this address. -/
inductive Activates (server : Server) (id : Nat) (event : ConnEvent) : ActorAddress → Prop where
  | opening (opening : Opening) (reservation panics : Bool)
      (here : (server.conns id).pc = .openDispatch opening reservation .actors)
      (advanced : event = .advance panics)
      (spawns : server.wouldActivate opening.address reservation = true) :
      Activates server id event opening.address
  | action (address : ActorAddress) (session : SessionId) (payload : List UInt8) (panics : Bool)
      (here : (server.conns id).pc = .actionDispatch address session payload .actors)
      (advanced : event = .advance panics)
      (spawns : server.wouldActivate address false = true) :
      Activates server id event address

/-- A connection task delivers messages at most, or it reaches `spawn_actor`
for one address. -/
theorem connStep?_delivers {authorityValid : Bool} {id : Nat} {event : ConnEvent}
    (stepped : server.connStep? config authorityValid id (server.conns id).pc event = some after) :
    Delivered server after ∨ ∃ address, Activates server id event address ∧
      ∀ other, other ≠ address → after.routes other = server.routes other := by
  generalize here : (server.conns id).pc = pc at stepped
  cases connStep?_case stepped with
  | asked _ replied | resolvedHere _ replied | resolvedAway _ _ replied =>
      have same := capacityReply?_core replied
      exact .inl (.of_same same.routes same.tasks)
  | @dispatched opening reservation panics middle ending dispatched =>
      cases spawns : server.wouldActivate opening.address reservation with
      | false =>
          have delivered := @dispatchActors_delivered server config opening.address
            (.sessionOpened opening) reservation panics spawns
          rw [dispatched] at delivered
          exact .inl (delivered_same delivered rfl rfl)
      | true =>
          refine .inr ⟨_, .opening opening reservation panics here rfl spawns,
            fun other different => ?_⟩
          have kept := @dispatchActors_routes_of_ne server config _ _
            (.sessionOpened opening) reservation panics different
          rw [dispatched] at kept
          exact kept
  | @actionDispatched address session payload panics middle ending dispatched =>
      cases spawns : server.wouldActivate address false with
      | false =>
          have delivered := @dispatchActors_delivered server config address
            (.action session payload) false panics spawns
          rw [dispatched] at delivered
          exact .inl (delivered_same delivered rfl rfl)
      | true =>
          refine .inr ⟨_, .action address session payload panics here rfl spawns,
            fun other different => ?_⟩
          have kept := @dispatchActors_routes_of_ne server config _ _
            (.action session payload) false panics different
          rw [dispatched] at kept
          exact kept
  | @closeDispatched address session =>
      have delivered := @dispatchIfActive_delivered server config address (.sessionClosed session)
      exact .inl (delivered_same delivered rfl rfl)
  | _ => exact .inl (.of_same rfl rfl)

/-- Once the status has left `RUNNING`, a connection task that is not late
delivers messages at most. -/
theorem connStep?_delivered {authorityValid : Bool} {id : Nat} {event : ConnEvent}
    (stopped : server.status ≠ .running)
    (prompt : lateActivation server (authorityValid, .conn id event) = false)
    (stepped : server.connStep? config authorityValid id (server.conns id).pc event = some after) :
    Delivered server after := by
  rcases connStep?_delivers stepped with delivered | ⟨address, activates, -⟩
  · exact delivered
  · cases activates with
    | opening opening reservation panics here advanced spawns =>
        subst advanced
        simp [lateActivation, stopped, here, spawns] at prompt
    | action address session payload panics here advanced spawns =>
        subst advanced
        simp [lateActivation, stopped, here, spawns] at prompt

/-- An active route was there before, or a connection task has just spawned it. -/
theorem connStep?_active {authorityValid : Bool} {id : Nat} {event : ConnEvent}
    {address : ActorAddress} {route : Route}
    (stepped : server.connStep? config authorityValid id (server.conns id).pc event = some after)
    (present : after.routes address = some route) :
    server.routes address = some route ∨ Activates server id event address := by
  rcases connStep?_delivers stepped with delivered | ⟨spawned, activates, others⟩
  · exact .inl (delivered.routes ▸ present)
  · by_cases same : address = spawned
    · subst same
      exact .inr activates
    · exact .inl (others address same ▸ present)

end Server

/-! ## How a task ends -/

/-- A task in activation, in its receive loop, or draining its mailbox. -/
def TaskPc.isBusy (pc : TaskPc) : Bool := pc.routeState?.isSome || pc.isDraining

/-- A task whose guard has dropped its route. -/
def TaskPc.isOver : TaskPc → Bool
  | .guardComplete | .dropReceiver | .ended => true
  | _ => false

theorem TaskPc.not_busy_of_isOver {pc : TaskPc} (finished : pc.isOver = true) : pc.isBusy = false := by
  cases pc <;> first
    | rfl
    | cases finished

/-- How a step brings a task towards its end. -/
structure TaskEnding (before after : Server) (generation : Nat) (task next : ActorTask) :
    Prop where
  tasks : after.tasks = Function.update before.tasks generation (some next)
  busy : next.pc.isBusy = true → task.pc.isBusy = true ∧
    ∀ route, before.routes task.address = some route →
      ∃ kept, after.routes task.address = some kept ∧ kept.generation = route.generation
  finished : next.pc.isOver = true → task.pc.isOver = true ∨ task.abortRequested = true ∨
    ∀ route, after.routes task.address = some route → route.generation ≠ generation
  stays : task.pc.isOver = true → next.pc.isOver = true
  completed : next.completed = true → task.completed = true ∨ next.pc.isOver = true

namespace Server

variable {generation : Nat} {task next : ActorTask}

/-- A task that leaves its route as it is. -/
theorem ending_kept {middle : Server} (tasks : middle.tasks = server.tasks)
    (routes : middle.routes = server.routes)
    (busy : next.pc.isBusy = true → task.pc.isBusy = true)
    (finished : next.pc.isOver = true → task.pc.isOver = true ∨ task.abortRequested = true)
    (stays : task.pc.isOver = true → next.pc.isOver = true)
    (completed : next.completed = true → task.completed = true ∨ next.pc.isOver = true) :
    TaskEnding server (middle.setTask generation next) generation task next where
  tasks := by simp only [setTask, tasks]
  busy := fun still => ⟨busy still, fun route present => ⟨route, routes ▸ present, rfl⟩⟩
  finished := fun ended => (finished ended).imp_right .inl
  stays := stays
  completed := completed

/-- A task that goes on to a program point at which it is not over. -/
theorem ending_goto {middle : Server} {pc : TaskPc} (tasks : middle.tasks = server.tasks)
    (routes : middle.routes = server.routes) (busy : pc.isBusy = true → task.pc.isBusy = true)
    (alive : pc.isOver = false) (before : task.pc.isOver = false) :
    TaskEnding server (middle.gotoTask generation task pc) generation task
      { task with pc := pc } :=
  ending_kept tasks routes busy (by simp [alive]) (by simp [before]) .inl

theorem removeRoute_gone {address : ActorAddress} {route : Route}
    (present : (server.removeRoute address generation).routes address = some route) :
    route.generation ≠ generation := by
  unfold removeRoute at present
  split at present
  · rename_i old there
    split at present
    · simp at present
    · rename_i other
      rw [there, Option.some.injEq] at present
      exact present ▸ other
  · rename_i missing
    rw [missing] at present
    cases present

/-- A task that removes its route and does not go back to work. -/
theorem ending_removeRoute {pc : TaskPc} (leaves : pc.isBusy = false)
    (before : task.pc.isOver = false) :
    TaskEnding server ((server.removeRoute task.address generation).gotoTask generation task pc)
      generation task { task with pc := pc } where
  tasks := by simp only [gotoTask, setTask, removeRoute_tasks]
  busy := by simp [leaves]
  finished := fun _ => .inr (.inr fun _ present => removeRoute_gone present)
  stays := by simp [before]
  completed := .inl

theorem passage_ending {event : TaskEvent} {onward : TaskPc}
    (passage : TaskPassage server generation task event onward) :
    TaskEnding server (server.setTask generation { task with pc := onward }) generation task
      { task with pc := onward } := by
  cases passage with
  | @listed error next here =>
      refine ending_goto rfl rfl ?_ rfl (by rw [here]; rfl)
      cases next <;> simp [here, TaskPc.isBusy, TaskPc.routeState?, TaskPc.isDraining]
  | @handled message draining completed here =>
      have working : task.pc.isBusy = true := by rw [here]; cases draining <;> rfl
      refine ending_goto rfl rfl (fun _ => working) ?_ (by rw [here]; rfl)
      cases completed <;> cases draining <;> rfl
  | aborted quiet requested =>
      refine ending_goto rfl rfl (by rintro ⟨⟩) rfl ?_
      cases here : task.pc <;> rw [here] at quiet <;> first | rfl | cases quiet
  | polled here | activated here | activationFailed here | activationPanicked here | left here
  | swept here | told here | closed here | idled here | unused here | used here
  | retained here | deactivated here | asked here | drained here | stopped here =>
      exact ending_goto rfl rfl (by simp [here, TaskPc.isBusy, TaskPc.routeState?,
        TaskPc.isDraining]) rfl (by rw [here]; rfl)

/-- What a step of an actor task does to its end. -/
theorem taskStep?_ending {event : TaskEvent}
    (stepped : server.taskStep? config generation task task.pc event = some after) :
    ∃ next, TaskEnding server after generation task next := by
  obtain ⟨middle, next, rfl, step⟩ := taskStep?_case stepped
  refine ⟨next, ?_⟩
  cases step with
  | passed passage => exact passage_ending passage
  | failRemoved here | removed here | guardDropped here =>
      exact ending_removeRoute rfl (by rw [here]; rfl)
  | failClosed here =>
      exact ending_kept rfl rfl (by rintro ⟨⟩) (by rintro ⟨⟩) (by rw [here]; rintro ⟨⟩) .inl
  | failAnswered here =>
      exact ending_kept (by simp) (by simp) (by rintro ⟨⟩) (by rintro ⟨⟩)
        (by rw [here]; rintro ⟨⟩) .inl
  | @terminated session rest onward here =>
      refine ending_goto rfl rfl ?_ rfl (by rw [here]; rfl)
      cases onward <;> simp [here, TaskPc.isBusy, TaskPc.routeState?, TaskPc.isDraining]
  | received here | drained here | shutdownClosed here =>
      exact ending_kept rfl rfl (fun _ => by rw [here]; rfl) (by rintro ⟨⟩)
        (by rw [here]; rintro ⟨⟩) .inl
  | @opened opening draining completed here =>
      have working : task.pc.isBusy = true := by rw [here]; cases draining <;> rfl
      refine ending_goto rfl rfl (fun _ => working) ?_ (by rw [here]; rfl)
      cases completed <;> cases draining <;> rfl
  | begun here present =>
      refine ⟨rfl, fun _ => ⟨by rw [here]; rfl, ?_⟩, by rintro ⟨⟩, by rw [here]; rintro ⟨⟩, .inl⟩
      intro old there
      rw [present, Option.some.injEq] at there
      subst there
      exact ⟨_, Function.update_self _ _ _, rfl⟩
  | locked here | released here | unlocked here =>
      exact ending_goto rfl rfl (fun _ => by rw [here]; rfl) rfl (by rw [here]; rfl)
  | guardCompleted here =>
      exact ending_kept rfl rfl (by rintro ⟨⟩) (fun _ => .inl (by rw [here]; rfl)) (fun _ => rfl)
        fun _ => .inr rfl
  | receiverDropped here =>
      exact ending_kept (by simp) (by simp) (by rintro ⟨⟩) (fun _ => .inl (by rw [here]; rfl))
        (fun _ => rfl) .inl
  | unpolled here requested =>
      exact ending_kept (by simp) (by simp) (by rintro ⟨⟩) (fun _ => .inr requested)
        (fun _ => rfl) .inl
  | interrupted here =>
      exact ending_goto (by simp) (by simp) (by rintro ⟨⟩) rfl (by rw [here]; rfl)

end Server

/-- A route that is there after a step of a task was there before, with the same
generation. -/
theorem TaskEffect.route_known {generation : Nat} {task next : ActorTask}
    (effect : TaskEffect server after generation task next) {address : ActorAddress}
    {route : Route} (present : after.routes address = some route) :
    ∃ old, server.routes address = some old ∧ old.generation = route.generation := by
  cases effect.route with
  | kept routes _ => exact ⟨route, routes ▸ present, rfl⟩
  | removed _ _ _ routes _ =>
      rw [routes] at present
      by_cases same : address = task.address
      · rw [same, Function.update_self] at present
        cases present
      · rw [Function.update_of_ne same] at present
        exact ⟨route, present, rfl⟩
  | deactivated old before own routes _ _ _ =>
      rw [routes] at present
      by_cases same : address = task.address
      · rw [same, Function.update_self, Option.some.injEq] at present
        subst present
        exact ⟨old, same ▸ before, own⟩
      · rw [Function.update_of_ne same] at present
        exact ⟨route, present, rfl⟩

/-! ## Everything busy is waited for -/

/-- The generations `shutdown` still waits for, on the path without a timeout. -/
def ShutdownPc.remaining? : ShutdownPc → Option (List Nat)
  | .waiting completions _ => some completions
  | .terminating false _ | .abortInbound false | .storing false | .returned false => some []
  | _ => none

/-- The points of `shutdown` behind its timeout. -/
def ShutdownPc.isLate : ShutdownPc → Bool
  | .aborting _ | .clearing => true
  | .terminating timedOut _ | .abortInbound timedOut | .storing timedOut
  | .returned timedOut => timedOut
  | _ => false

/-- The generations `fence` still waits for. -/
def FencePc.remaining? : FencePc → Option (List Nat)
  | .idle => none
  | .waiting completions => some completions
  | _ => some []

def FencePc.hasCleared : FencePc → Bool
  | .terminating _ | .abortInbound | .returned => true
  | _ => false

/-- Every busy task has one of these generations. -/
def BusyIn (server : Server) (generations : List Nat) : Prop :=
  ∀ generation task, server.tasks generation = some task → task.pc.isBusy = true →
    generation ∈ generations

/-- Every route has one of these generations. -/
def RoutedIn (server : Server) (generations : List Nat) : Prop :=
  ∀ address route, server.routes address = some route → route.generation ∈ generations

/-- What `shutdown` and `fence` rely on when they stop waiting.  Before a fence
no task has been aborted, so one that is over has dropped its route. -/
structure DrainOk (server : Server) : Prop where
  routed : ∀ generation task, server.tasks generation = some task → task.pc.isBusy = true →
    ∃ route, server.routes task.address = some route ∧ route.generation = generation
  completed : ∀ generation task, server.tasks generation = some task → task.completed = true →
    task.pc.isOver = true
  unaborted : server.fence = .idle → ∀ generation task, server.tasks generation = some task →
    task.abortRequested = false
  gone : server.fence = .idle → ∀ generation task, server.tasks generation = some task →
    task.pc.isOver = true → ∀ route, server.routes task.address = some route →
      route.generation ≠ generation
  timely : server.shutdown.isLate = false
  awaited : ∀ generations, server.shutdown.remaining? = some generations →
    BusyIn server generations ∧ (server.fence = .idle → RoutedIn server generations)
  fenced : ∀ generations, server.fence.remaining? = some generations → BusyIn server generations
  cleared : server.fence.hasCleared = true → ∀ address, server.routes address = none

theorem drainOk_fresh (config : RuntimeConfig) : DrainOk (.fresh config) where
  routed := fun _ _ found => by cases found
  completed := fun _ _ found => by cases found
  unaborted := fun _ _ _ found => by cases found
  gone := fun _ _ _ found => by cases found
  timely := rfl
  awaited := by rintro generations ⟨⟩
  fenced := by rintro generations ⟨⟩
  cleared := by rintro ⟨⟩

namespace DrainOk

/-- A dispatch of a running Server. -/
theorem dispatched (ok : DrainOk server) (routes : RoutesOk server) (next : RoutesOk after)
    (running : server.status = .running) (control : SameControl server after)
    (effect : DispatchEffect server after) : DrainOk after := by
  obtain ⟨quietShutdown, quietFence⟩ := routes.quiet running
  have still : after.status = .running := control.status.trans running
  have origin : ∀ generation task, after.tasks generation = some task →
      task.pc.isOver = false ∧ task.completed = false ∨
      ∃ old, server.tasks generation = some old ∧ old.pc = task.pc ∧
        old.completed = task.completed ∧ old.address = task.address := by
    intro generation task here
    cases effect with
    | unchanged _ tasks _ => exact .inr ⟨task, tasks ▸ here, rfl, rfl, rfl⟩
    | unrouted _ _ _ tasks _ => exact .inr ⟨task, tasks ▸ here, rfl, rfl, rfl⟩
    | enqueued _ changed old _ _ found _ _ tasks _ _ =>
        rw [tasks] at here
        by_cases same : generation = changed
        · subst same
          rw [Function.update_self, Option.some.injEq] at here
          subst here
          exact .inr ⟨old, found, rfl, rfl, rfl⟩
        · rw [Function.update_of_ne same] at here
          exact .inr ⟨task, here, rfl, rfl, rfl⟩
    | spawned _ _ _ _ tasks _ _ =>
        rw [tasks] at here
        by_cases same : generation = server.nextGeneration
        · rw [same, Function.update_self, Option.some.injEq] at here
          subst here
          exact .inl ⟨rfl, rfl⟩
        · rw [Function.update_of_ne same] at here
          exact .inr ⟨task, here, rfl, rfl, rfl⟩
  constructor
  case routed =>
    intro generation task here busy
    have calm := (next.calm still generation task here).2.2
    cases relies : task.pc.routeState? with
    | none => simp [TaskPc.isBusy, relies, calm] at busy
    | some state => exact ⟨_, (next.owned still generation task state here relies).2, rfl⟩
  case completed =>
    intro generation task here done
    rcases origin generation task here with ⟨-, fresh⟩ | ⟨old, found, pc, completed, -⟩
    · rw [fresh] at done
      cases done
    · rw [← pc]
      exact ok.completed generation old found (completed.trans done)
  case unaborted =>
    intro _ generation task here
    exact (next.calm still generation task here).2.1
  case gone =>
    intro _ generation task here finished route present
    rcases origin generation task here with ⟨fresh, -⟩ | ⟨old, found, pc, -, address⟩
    · rw [fresh] at finished
      cases finished
    · have before := ok.gone quietFence generation old found (pc ▸ finished)
      rw [address] at before
      cases effect with
      | unchanged same _ _ => exact before route (same ▸ present)
      | enqueued _ _ _ _ _ _ _ same _ _ _ => exact before route (same ▸ present)
      | spawned changed _ _ same _ _ _ =>
          rw [same] at present
          by_cases equal : task.address = changed
          · rw [equal, Function.update_self, Option.some.injEq] at present
            subst present
            exact (Nat.ne_of_lt (routes.generation generation old found)).symm
          · rw [Function.update_of_ne equal] at present
            exact before route present
      | unrouted changed _ same _ _ =>
          rw [same] at present
          by_cases equal : task.address = changed
          · rw [equal, Function.update_self] at present
            cases present
          · rw [Function.update_of_ne equal] at present
            exact before route present
  case timely =>
    rw [control.shutdown]
    exact ok.timely
  case awaited =>
    rw [control.shutdown, quietShutdown]
    rintro generations ⟨⟩
  case fenced =>
    rw [control.fence, quietFence]
    rintro generations ⟨⟩
  case cleared =>
    rw [control.fence, quietFence]
    rintro ⟨⟩

/-- A delivery to a Server that has been stopped. -/
theorem delivered (ok : DrainOk server) (control : SameControl server after)
    (delivered : Delivered server after) : DrainOk after := by
  have origin : ∀ generation task, after.tasks generation = some task →
      ∃ old, server.tasks generation = some old ∧ task.pc = old.pc ∧
        task.address = old.address ∧ task.completed = old.completed ∧
        task.abortRequested = old.abortRequested := by
    intro generation task here
    obtain ⟨mailbox, same⟩ := delivered.tasks generation
    rw [same, Option.map_eq_some_iff] at here
    obtain ⟨old, found, rfl⟩ := here
    exact ⟨old, found, rfl, rfl, rfl, rfl⟩
  have busyIn : ∀ generations, BusyIn server generations → BusyIn after generations := by
    intro generations all generation task here busy
    obtain ⟨old, found, pc, -⟩ := origin generation task here
    exact all generation old found (pc ▸ busy)
  have routes := delivered.routes
  constructor
  case routed =>
    intro generation task here busy
    obtain ⟨old, found, pc, address, -⟩ := origin generation task here
    rw [routes, address]
    exact ok.routed generation old found (pc ▸ busy)
  case completed =>
    intro generation task here done
    obtain ⟨old, found, pc, -, completed, -⟩ := origin generation task here
    rw [pc]
    exact ok.completed generation old found (completed ▸ done)
  case unaborted =>
    intro idle generation task here
    obtain ⟨old, found, -, -, -, abort⟩ := origin generation task here
    rw [abort]
    exact ok.unaborted (control.fence ▸ idle) generation old found
  case gone =>
    intro idle generation task here finished
    obtain ⟨old, found, pc, address, -⟩ := origin generation task here
    rw [routes, address]
    exact ok.gone (control.fence ▸ idle) generation old found (pc ▸ finished)
  case timely =>
    rw [control.shutdown]
    exact ok.timely
  case awaited =>
    intro generations left
    rw [control.shutdown] at left
    obtain ⟨busy, routed⟩ := ok.awaited generations left
    refine ⟨busyIn generations busy, fun idle => ?_⟩
    unfold RoutedIn
    rw [routes]
    exact routed (control.fence ▸ idle)
  case fenced =>
    intro generations left
    rw [control.fence] at left
    exact busyIn generations (ok.fenced generations left)
  case cleared =>
    rw [control.fence, routes]
    exact ok.cleared

theorem moved (ok : DrainOk server) {generation : Nat} {task next : ActorTask}
    (found : server.tasks generation = some task)
    (effect : TaskEffect server after generation task next)
    (ending : TaskEnding server after generation task next) : DrainOk after := by
  have origin : ∀ other known, after.tasks other = some known →
      (other = generation ∧ known = next) ∨
      (other ≠ generation ∧ server.tasks other = some known) := by
    intro other known here
    rw [effect.tasks] at here
    by_cases same : other = generation
    · rw [same, Function.update_self, Option.some.injEq] at here
      exact .inl ⟨same, here.symm⟩
    · rw [Function.update_of_ne same] at here
      exact .inr ⟨same, here⟩
  have busyIn : ∀ generations, BusyIn server generations → BusyIn after generations := by
    intro generations all other known here busy
    rcases origin other known here with ⟨rfl, rfl⟩ | ⟨-, there⟩
    · exact all other task found (ending.busy busy).1
    · exact all other known there busy
  constructor
  case routed =>
    intro other known here busy
    rcases origin other known here with ⟨rfl, rfl⟩ | ⟨different, there⟩
    · obtain ⟨before, kept⟩ := ending.busy busy
      obtain ⟨route, present, own⟩ := ok.routed other task found before
      obtain ⟨route', present', same⟩ := kept route present
      rw [effect.address]
      exact ⟨route', present', same.trans own⟩
    · obtain ⟨route, present, own⟩ := ok.routed other known there busy
      by_cases changed : after.routes known.address = server.routes known.address
      · exact ⟨route, changed ▸ present, own⟩
      · obtain ⟨mine, there', mineOwn⟩ := effect.own_route changed
        rw [present, Option.some.injEq] at there'
        subst there'
        exact absurd (own.symm.trans mineOwn) different
  case completed =>
    intro other known here done
    rcases origin other known here with ⟨rfl, rfl⟩ | ⟨-, there⟩
    · rcases ending.completed done with before | finished
      · exact ending.stays (ok.completed other task found before)
      · exact finished
    · exact ok.completed other known there done
  case unaborted =>
    intro idle other known here
    rw [effect.fence] at idle
    rcases origin other known here with ⟨rfl, rfl⟩ | ⟨-, there⟩
    · rw [effect.abortRequested]
      exact ok.unaborted idle other task found
    · exact ok.unaborted idle other known there
  case gone =>
    intro idle other known here finished route present
    rw [effect.fence] at idle
    obtain ⟨old, before, same⟩ := effect.route_known present
    rcases origin other known here with ⟨rfl, rfl⟩ | ⟨-, there⟩
    · rw [effect.address] at before present
      rcases ending.finished finished with already | aborted | dropped
      · rw [← same]
        exact ok.gone idle other task found already old before
      · rw [ok.unaborted idle other task found] at aborted
        cases aborted
      · exact dropped route present
    · rw [← same]
      exact ok.gone idle other known there finished old before
  case timely =>
    rw [effect.shutdown]
    exact ok.timely
  case awaited =>
    intro generations left
    rw [effect.shutdown] at left
    obtain ⟨busy, routed⟩ := ok.awaited generations left
    refine ⟨busyIn generations busy, fun idle address route present => ?_⟩
    obtain ⟨old, before, same⟩ := effect.route_known present
    rw [← same]
    exact routed (effect.fence ▸ idle) address old before
  case fenced =>
    intro generations left
    rw [effect.fence] at left
    exact busyIn generations (ok.fenced generations left)
  case cleared =>
    intro cleared address
    rw [effect.fence] at cleared
    cases present : after.routes address with
    | none => rfl
    | some route =>
        obtain ⟨old, before, -⟩ := effect.route_known present
        rw [ok.cleared cleared address] at before
        cases before

/-- What `shutdown` and `fence` must see to when they mark tasks and drop
routes. -/
theorem controlled (ok : DrainOk server) (effect : ControlEffect server after)
    (routes : after.routes = server.routes ∨ BusyIn server [])
    (aborts : after.fence = .idle → server.fence = .idle ∧
      ∀ generation task, after.tasks generation = some task → task.abortRequested = false)
    (timely : after.shutdown.isLate = false)
    (awaited : ∀ generations, after.shutdown.remaining? = some generations →
      BusyIn server generations ∧ (after.fence = .idle → RoutedIn server generations))
    (fenced : ∀ generations, after.fence.remaining? = some generations →
      BusyIn server generations)
    (cleared : after.fence.hasCleared = true → ∀ address, after.routes address = none) :
    DrainOk after := by
  have origin : ∀ generation task, after.tasks generation = some task →
      ∃ old, server.tasks generation = some old ∧ SameTask old task := by
    intro generation task here
    obtain ⟨mark, keeps, same⟩ := effect.tasks generation
    rw [same, Option.map_eq_some_iff] at here
    obtain ⟨old, found, rfl⟩ := here
    exact ⟨old, found, keeps old⟩
  have busyIn : ∀ generations, BusyIn server generations → BusyIn after generations := by
    intro generations all generation task here busy
    obtain ⟨old, found, keeps⟩ := origin generation task here
    exact all generation old found (keeps.pc ▸ busy)
  constructor
  case routed =>
    intro generation task here busy
    obtain ⟨old, found, keeps⟩ := origin generation task here
    rw [keeps.pc] at busy
    rcases routes with same | none
    · rw [same, keeps.address]
      exact ok.routed generation old found busy
    · exact absurd (none generation old found busy) List.not_mem_nil
  case completed =>
    intro generation task here done
    obtain ⟨old, found, keeps⟩ := origin generation task here
    rw [keeps.pc]
    exact ok.completed generation old found (keeps.completed ▸ done)
  case unaborted => exact fun idle => (aborts idle).2
  case gone =>
    intro idle generation task here finished route present
    obtain ⟨old, found, keeps⟩ := origin generation task here
    rw [keeps.address] at present
    exact ok.gone (aborts idle).1 generation old found (keeps.pc ▸ finished) route
      (effect.routes _ _ present)
  case timely => exact timely
  case awaited =>
    intro generations left
    obtain ⟨busy, routed⟩ := awaited generations left
    exact ⟨busyIn generations busy, fun idle address route present =>
      routed idle address route (effect.routes address route present)⟩
  case fenced => exact fun generations left => busyIn generations (fenced generations left)
  case cleared => exact cleared

theorem over_of_hasCompleted (ok : DrainOk server) {generation : Nat} {task : ActorTask}
    (done : server.hasCompleted generation = true)
    (found : server.tasks generation = some task) : task.pc.isOver = true := by
  simp only [Server.hasCompleted, found, Bool.or_eq_true] at done
  rcases done with completed | ended
  · exact ok.completed generation task found completed
  · split at ended
    · rename_i hpc
      rw [hpc]
      rfl
    · cases ended

/-- A task that is waited for no longer is not busy. -/
theorem busy_rest (ok : DrainOk server) {generation : Nat} {rest : List Nat}
    (done : server.hasCompleted generation = true) (busy : BusyIn server (generation :: rest)) :
    BusyIn server rest := by
  intro other task found working
  rcases List.mem_cons.mp (busy other task found working) with rfl | later
  · rw [TaskPc.not_busy_of_isOver (ok.over_of_hasCompleted done found)] at working
    cases working
  · exact later

/-- A task that is waited for no longer has no route, unless it was aborted. -/
theorem routed_rest (ok : DrainOk server) (routes : RoutesOk server) (idle : server.fence = .idle)
    {generation : Nat} {rest : List Nat} (done : server.hasCompleted generation = true)
    (routed : RoutedIn server (generation :: rest)) : RoutedIn server rest := by
  intro address route present
  rcases List.mem_cons.mp (routed address route present) with same | later
  · obtain ⟨task, found, rfl⟩ := routes.task address route present
    rw [same] at found
    have finished := ok.over_of_hasCompleted done found
    exact absurd same (ok.gone idle generation task found finished route present)
  · exact later

/-- The snapshot of the actors map has every busy task. -/
theorem busy_routed (ok : DrainOk server) (routes : RoutesOk server) :
    BusyIn server server.routed := by
  intro generation task found busy
  obtain ⟨route, present, own⟩ := ok.routed generation task found busy
  refine List.mem_filter.mpr ⟨List.mem_range.mpr (routes.generation generation task found), ?_⟩
  simp [Server.isRouted, found, present, own]

end DrainOk

/-- The snapshot of the actors map has every route. -/
theorem RoutesOk.routed_routed (routes : RoutesOk server) : RoutedIn server server.routed := by
  intro address route present
  obtain ⟨task, found, rfl⟩ := routes.task address route present
  refine List.mem_filter.mpr
    ⟨List.mem_range.mpr (routes.generation route.generation task found), ?_⟩
  simp [Server.isRouted, found, present]

namespace DrainOk

theorem shutdownStep? (ok : DrainOk server) (routes : RoutesOk server) {expired : Bool}
    {authorityValid : Bool} (prompt : timesOut server (authorityValid, .shutdown expired) = false)
    (stepped : server.shutdownStep? expired server.shutdown = some after) : DrainOk after := by
  have effect := Server.shutdownStep?_cases stepped
  unfold Server.shutdownStep? at stepped
  split at stepped
  case h_1 hpc =>
    split at stepped
    · rename_i running
      obtain ⟨-, quiet⟩ := routes.quiet running
      cases stepped
      refine ok.controlled effect (.inl rfl) ?_ rfl ?_ ok.fenced ok.cleared
      · intro idle
        refine ⟨idle, fun generation task here => ?_⟩
        simp only [Server.markTasks] at here
        split at here
        · obtain ⟨old, found, rfl⟩ := Option.map_eq_some_iff.mp here
          exact ok.unaborted quiet generation old found
        · exact ok.unaborted quiet generation task here
      · rintro generations ⟨⟩
        exact ⟨ok.busy_routed routes, fun _ => routes.routed_routed⟩
    · cases stepped
      exact ok.controlled effect (.inl rfl) (fun idle => ⟨idle, ok.unaborted idle⟩) rfl
        (by rintro generations ⟨⟩) ok.fenced ok.cleared
  case h_2 completions aborts hpc =>
    have waiting := ok.awaited completions (by rw [hpc]; rfl)
    split at stepped
    · rename_i fired
      subst fired
      simp [timesOut, hpc] at prompt
    · split at stepped
      · cases stepped
        refine ok.controlled effect (.inl rfl) (fun idle => ⟨idle, ok.unaborted idle⟩) rfl ?_
          ok.fenced ok.cleared
        rintro generations ⟨⟩
        exact waiting
      · split at stepped
        · rename_i done
          cases stepped
          refine ok.controlled effect (.inl rfl) (fun idle => ⟨idle, ok.unaborted idle⟩) rfl ?_
            ok.fenced ok.cleared
          rintro generations ⟨⟩
          exact ⟨ok.busy_rest done waiting.1,
            fun idle => ok.routed_rest routes idle done (waiting.2 idle)⟩
        · cases stepped
  case h_3 hpc =>
    have timely := ok.timely
    rw [hpc] at timely
    cases timely
  case h_4 hpc =>
    have timely := ok.timely
    rw [hpc] at timely
    cases timely
  case h_5 timedOut sweep hpc =>
    have timely := ok.timely
    rw [hpc] at timely
    cases timely
    have done := ok.awaited [] (by rw [hpc]; rfl)
    split at stepped
    all_goals
      cases stepped
      refine ok.controlled effect (.inl rfl) (fun idle => ⟨idle, ok.unaborted idle⟩) rfl ?_
        ok.fenced ok.cleared
      rintro generations ⟨⟩
      exact done
  case h_6 timedOut hpc =>
    have timely := ok.timely
    rw [hpc] at timely
    cases timely
    cases stepped
    refine ok.controlled effect (.inl rfl) (fun idle => ⟨idle, ok.unaborted idle⟩) rfl ?_
      ok.fenced ok.cleared
    rintro generations ⟨⟩
    exact ok.awaited [] (by rw [hpc]; rfl)
  case h_7 timedOut hpc =>
    have timely := ok.timely
    rw [hpc] at timely
    cases timely
    cases stepped
    refine ok.controlled effect (.inl rfl) (fun idle => ⟨idle, ok.unaborted idle⟩) rfl ?_
      ok.fenced ok.cleared
    rintro generations ⟨⟩
    exact ok.awaited [] (by rw [hpc]; rfl)
  case h_8 => cases stepped
  case h_9 => cases stepped

theorem fenceStep? (ok : DrainOk server) (routes : RoutesOk server)
    (stepped : server.fenceStep? server.fence = some after) : DrainOk after := by
  have effect := Server.fenceStep?_cases stepped
  have awaited : ∀ generations, server.shutdown.remaining? = some generations →
      BusyIn server generations := fun generations left => (ok.awaited generations left).1
  unfold Server.fenceStep? at stepped
  split at stepped
  case h_1 hpc =>
    cases stepped
    refine ok.controlled effect (.inl rfl) (by rintro ⟨⟩) ok.timely
      (fun generations left => ⟨awaited generations left, (by rintro ⟨⟩)⟩) ?_ (by rintro ⟨⟩)
    rintro generations ⟨⟩
    exact ok.busy_routed routes
  case h_2 hpc =>
    cases stepped
    refine ok.controlled effect (.inl rfl) (by rintro ⟨⟩) ok.timely
      (fun generations left => ⟨awaited generations left, (by rintro ⟨⟩)⟩) ?_ (by rintro ⟨⟩)
    rintro generations ⟨⟩
    exact ok.fenced [] (by rw [hpc]; rfl)
  case h_3 generation rest hpc =>
    split at stepped
    · rename_i done
      cases stepped
      refine ok.controlled effect (.inl rfl) (by rintro ⟨⟩) ok.timely
        (fun generations left => ⟨awaited generations left, (by rintro ⟨⟩)⟩) ?_ (by rintro ⟨⟩)
      rintro generations ⟨⟩
      exact ok.busy_rest done (ok.fenced _ (by rw [hpc]; rfl))
    · cases stepped
  case h_4 hpc =>
    cases stepped
    have done := ok.fenced [] (by rw [hpc]; rfl)
    refine ok.controlled effect (.inr done) (by rintro ⟨⟩) ok.timely
      (fun generations left => ⟨awaited generations left, (by rintro ⟨⟩)⟩) ?_ fun _ _ => rfl
    rintro generations ⟨⟩
    exact done
  case h_5 sweep hpc =>
    have done := ok.fenced [] (by rw [hpc]; rfl)
    have cleared := ok.cleared (by rw [hpc]; rfl)
    split at stepped
    all_goals
      cases stepped
      refine ok.controlled effect (.inl rfl) (by rintro ⟨⟩) ok.timely
        (fun generations left => ⟨awaited generations left, (by rintro ⟨⟩)⟩) ?_ fun _ => cleared
      rintro generations ⟨⟩
      exact done
  case h_6 hpc =>
    cases stepped
    refine ok.controlled effect (.inl rfl) (by rintro ⟨⟩) ok.timely
      (fun generations left => ⟨awaited generations left, (by rintro ⟨⟩)⟩) ?_
      fun _ => ok.cleared (by rw [hpc]; rfl)
    rintro generations ⟨⟩
    exact ok.fenced [] (by rw [hpc]; rfl)
  case h_7 => cases stepped

/-- Every prompt step keeps what `shutdown` and `fence` rely on. -/
theorem step? (ok : DrainOk server) (routes : RoutesOk server) {label : Bool × ServerEvent}
    (prompt : Prompt server label)
    (stepped : server.step? config label.1 label.2 = some after) : DrainOk after := by
  obtain ⟨authorityValid, event⟩ := label
  cases event with
  | conn id event =>
      obtain ⟨control, effect⟩ := Server.connStep?_effect rfl stepped
      by_cases running : server.status = .running
      · exact ok.dispatched routes (routes.step? stepped) running control effect
      · exact ok.delivered control (Server.connStep?_delivered running prompt.1 stepped)
  | task generation event =>
      obtain ⟨task, found, moved⟩ := Option.bind_eq_some_iff.mp stepped
      obtain ⟨next, effect⟩ := Server.taskStep?_effect moved
      obtain ⟨next', ending⟩ := Server.taskStep?_ending moved
      have same : next' = next := by
        have both := congrFun (ending.tasks.symm.trans effect.tasks) generation
        simpa using both
      subst same
      exact ok.moved found effect ending
  | shutdown expired => exact ok.shutdownStep? routes prompt.2 stepped
  | fence => exact ok.fenceStep? routes stepped

end DrainOk

theorem drainOk_of_reachable (reach : (serverSystem config).ReachableWhile Prompt server) :
    DrainOk server := by
  refine invariant_of_reachable_step DrainOk ?_ ?_ reach
  · rintro start rfl
    exact drainOk_fresh config
  · intro before label after earlier ok prompt stepped
    exact ok.step? (routesOk_of_reachable (reachable_of_reachableWhile earlier)) prompt stepped

end Coactor.Runtime
