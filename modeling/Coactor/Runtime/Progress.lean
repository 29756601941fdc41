import Coactor.Runtime.Node
import Coactor.Runtime.Tenure

/-!
# Nobody waits for ever on nobody

A connection task waits for the resolution lock of an address, for its router,
or for the actor that is to answer its opening.  An idle actor task waits for
the lock of its address and for its router, and `shutdown` and `fence` wait for
the actor tasks of their snapshot.  Whoever waits for a task of this Server
waits, in the end, for one that can take a step, unless an actor task has lost
its route without being told to stop; that does not happen while the status is
`RUNNING`.
-/

namespace Coactor.Runtime

open Coactor.Foundation
open Coactor.Foundation.Transition
open Coactor.Coordination
open Server

variable {server after : Server} {config : RuntimeConfig}

/-! ## Waiting -/

/-- The events with which a task goes on by itself: its next instruction, the end
of a callback, the reply of its router, or its abort. -/
def Holder.owns : Holder → ServerEvent → Bool
  | .conn id, .conn other event =>
      id == other && (match event with | .advance _ | .reply _ | .abort => true | _ => false)
  | .task generation, .task other event =>
      generation == other && (match event with | .idle => false | _ => true)
  | _, _ => false

namespace Server

/-- The task can take a step of its own, whether or not the authority is valid. -/
def CanMove (config : RuntimeConfig) (server : Server) (party : Holder) : Prop :=
  ∀ authorityValid, ∃ event, party.owns event = true ∧
    (server.step? config authorityValid event).isSome = true

/-- What a task waits for at a lock, and at the oneshot of its opening. -/
inductive WaitsFor (server : Server) : Holder → Holder → Prop where
  | lock {id : Nat} {address : ActorAddress} {session : SessionId} {holder : Holder}
      (here : (server.conns id).pc = .openLock address session)
      (held : server.resolutions address = some holder) : WaitsFor server (.conn id) holder
  | release {generation : Nat} {task : ActorTask} {holder : Holder}
      (found : server.tasks generation = some task) (here : task.pc = .releaseLock)
      (held : server.resolutions task.address = some holder) :
      WaitsFor server (.task generation) holder
  | answer {id generation : Nat} {opening : Opening} {task : ActorTask}
      (here : (server.conns id).pc = .openAwait opening)
      (pending : server.completions opening = .pending)
      (found : server.tasks generation = some task) (carries : task.Carries opening) :
      WaitsFor server (.conn id) (.task generation)

/-- The task has nothing to do: it waits for its peer or for a message. -/
def AtRest (server : Server) : Holder → Prop
  | .conn id => (server.conns id).pc = .unaccepted ∨ (server.conns id).pc = .ended ∨
      ((server.conns id).pc = .receiving ∧ (server.conns id).abortRequested = false)
  | .task generation => ∀ task, server.tasks generation = some task →
      task.pc = .ended ∨ (task.pc = .receiving ∧ task.mailbox = [] ∧
        task.shutdownSignal = false ∧ task.abortRequested = false)

/-- An actor task in its receive loop has lost its route and was not told to stop. -/
def Stranded (server : Server) : Holder → Prop
  | .conn _ => False
  | .task generation => ∃ task, server.tasks generation = some task ∧ task.pc = .receiving ∧
      task.shutdownSignal = false ∧ task.abortRequested = false ∧
      server.isRouted generation = false

/-- How many tasks can stand between a task and one that moves. -/
def waitRank (server : Server) : Holder → Nat
  | .conn id =>
      match (server.conns id).pc with
      | .openLock _ _ => 1
      | .openAwait _ => 2
      | _ => 0
  | .task generation =>
      match server.tasks generation with
      | some task => (match task.pc with | .releaseLock => 1 | _ => 0)
      | none => 0

theorem waitRank_task_le (server : Server) (generation : Nat) :
    server.waitRank (.task generation) ≤ 1 := by
  simp only [waitRank]
  split
  · split <;> omega
  · omega

/-- Whoever holds a lock waits for nobody. -/
theorem waitRank_of_guards {holder : Holder} {address : ActorAddress}
    (holds : server.guards holder = some address) : server.waitRank holder = 0 := by
  cases holder with
  | conn id =>
      simp only [Server.guards] at holds
      cases here : (server.conns id).pc with
      | resolving | openRegister | openDispatch => simp [waitRank, here]
      | _ => simp [here, ConnPc.guards] at holds
  | task generation =>
      obtain ⟨task, found, own⟩ := Option.bind_eq_some_iff.mp holds
      cases here : task.pc with
      | releasing => simp [waitRank, found, here]
      | _ => simp [ActorTask.guards, here, TaskPc.isReleasing] at own

/-- A wait leads to a task that fewer stand behind. -/
theorem waitRank_lt (ok : WaitsOk server) (one other : Holder) (waits : server.WaitsFor one other) :
    server.waitRank other < server.waitRank one := by
  cases waits with
  | lock here held =>
      rw [waitRank_of_guards (ok.tenure _ _ held)]
      simp [waitRank, here]
  | release found here held =>
      rw [waitRank_of_guards (ok.tenure _ _ held)]
      simp [waitRank, found, here]
  | @answer id generation opening task here pending found carries =>
      have less := server.waitRank_task_le generation
      simp only [waitRank, here] at less ⊢
      omega

/-! ## Who can move -/

/-- Every request of a router has a reply that the Server accepts. -/
theorem exists_reply (server : Server) (reserved : Bool) (request : RouterCall) :
    ∃ reply, (reply.answer? request).isSome = true ∧
      (server.capacityReply? reserved reply).isSome = true := by
  cases request with
  | readActorOwner => exact ⟨.owner (.ok none), rfl, rfl⟩
  | readNode nodeId => exact ⟨.node (.ok none), rfl, rfl⟩
  | compareExchange record revision => exact ⟨.issued 0, rfl, rfl⟩
  | awaitMutation ticket => exact ⟨.outcome (.ok .conflict), rfl, rfl⟩
  | tryAcquire =>
      exact ⟨.permit (decide (0 < server.available)), rfl, by simp [capacityReply?]⟩
  | dropReservation => exact ⟨.dropped, rfl, rfl⟩

theorem canMove_conn {id : Nat}
    (advances : ∀ authorityValid, ∃ event, Holder.owns (.conn id) (.conn id event) = true ∧
      (server.connStep? config authorityValid id (server.conns id).pc event).isSome = true) :
    server.CanMove config (.conn id) := by
  intro authorityValid
  obtain ⟨event, own, enabled⟩ := advances authorityValid
  exact ⟨.conn id event, own, enabled⟩

theorem canMove_task {generation : Nat} {task : ActorTask}
    (found : server.tasks generation = some task)
    (advances : ∃ event, Holder.owns (.task generation) (.task generation event) = true ∧
      (server.taskStep? config generation task task.pc event).isSome = true) :
    server.CanMove config (.task generation) := by
  intro authorityValid
  obtain ⟨event, own, enabled⟩ := advances
  exact ⟨.task generation event, own, by simpa [step?, found] using enabled⟩

/-- A connection task that works on an Envelope can take its next instruction. -/
theorem canMove_of_isWorking {id : Nat} (working : (server.conns id).pc.isWorking = true) :
    server.CanMove config (.conn id) := by
  refine canMove_conn fun authorityValid => ⟨.advance false, by simp [Holder.owns], ?_⟩
  cases here : (server.conns id).pc with
  | unaccepted | receiving | openLock | resolving | openAwait | ended =>
      rw [here] at working
      cases working
  | actionBound | actionSink | closeBound | closeUnregister =>
      simp only [connStep?]
      split <;> rfl
  | disconnecting rest =>
      cases rest <;> rfl
  | _ => rfl

/-- A connection task whose router call is under way can be given its answer. -/
theorem canMove_of_resolving (ok : WaitsOk server) {id : Nat} {address : ActorAddress}
    {session : SessionId} {program : ClusterRouter.ResolveProgram} {reserved : Bool}
    (here : (server.conns id).pc = .resolving address session program reserved) :
    server.CanMove config (.conn id) := by
  have waiting := ok.resolving id address session program reserved here
  cases program with
  | ret result => cases waiting
  | call request resume =>
      obtain ⟨reply, fits, accepted⟩ := server.exists_reply reserved request
      obtain ⟨answer, decoded⟩ := Option.isSome_iff_exists.mp fits
      obtain ⟨⟨middle, reserved'⟩, replied⟩ := Option.isSome_iff_exists.mp accepted
      refine canMove_conn fun authorityValid => ⟨.reply reply, by simp [Holder.owns], ?_⟩
      simp [here, connStep?, RouterProgram.resume?, decoded, replied]

theorem canMove_of_releasing (ok : WaitsOk server) {generation : Nat} {task : ActorTask}
    {program : ClusterRouter.ReleaseProgram} (found : server.tasks generation = some task)
    (here : task.pc = .releasing program) : server.CanMove config (.task generation) := by
  have waiting := ok.releasing generation task program found here
  cases program with
  | ret result => cases waiting
  | call request resume =>
      obtain ⟨reply, fits, -⟩ := server.exists_reply false request
      obtain ⟨answer, decoded⟩ := Option.isSome_iff_exists.mp fits
      refine canMove_task found ⟨.reply reply, by simp [Holder.owns], ?_⟩
      simp [here, taskStep?, RouterProgram.resume?, decoded]

/-- Whoever holds a lock can move. -/
theorem canMove_of_guards (ok : WaitsOk server) {holder : Holder} {address : ActorAddress}
    (holds : server.guards holder = some address) : server.CanMove config holder := by
  cases holder with
  | conn id =>
      simp only [Server.guards] at holds
      cases here : (server.conns id).pc with
      | resolving => exact canMove_of_resolving ok here
      | openRegister | openDispatch => exact canMove_of_isWorking (by rw [here]; rfl)
      | _ => simp [here, ConnPc.guards] at holds
  | task generation =>
      obtain ⟨task, found, own⟩ := Option.bind_eq_some_iff.mp holds
      cases here : task.pc with
      | releasing => exact canMove_of_releasing ok found here
      | _ => simp [ActorTask.guards, here, TaskPc.isReleasing] at own

/-! ## Who is at rest -/

theorem busy_of_guards {holder : Holder} {address : ActorAddress}
    (holds : server.guards holder = some address) : ¬ server.AtRest holder := by
  cases holder with
  | conn id =>
      simp only [Server.guards] at holds
      rintro (here | here | ⟨here, -⟩) <;> rw [here] at holds <;> cases holds
  | task generation =>
      obtain ⟨task, found, own⟩ := Option.bind_eq_some_iff.mp holds
      intro rest
      rcases rest task found with here | ⟨here, -⟩ <;>
        simp [ActorTask.guards, here, TaskPc.isReleasing] at own

/-- A task that has an opening to answer is not at rest. -/
theorem busy_of_carries (ok : WaitsOk server) {generation : Nat} {task : ActorTask}
    {opening : Opening} (found : server.tasks generation = some task)
    (carries : task.Carries opening) : ¬ server.AtRest (.task generation) := by
  intro rest
  rcases rest task found with ended | ⟨here, empty, -⟩
  · rcases carries with waiting | ⟨draining, executing⟩
    · rw [(ok.emptied generation task found ended).2] at waiting
      cases waiting
    · rw [ended] at executing
      cases executing
  · rcases carries with waiting | ⟨draining, executing⟩
    · rw [empty] at waiting
      cases waiting
    · rw [here] at executing
      cases executing

/-! ## Every wait leads to a step -/

/-- A task that goes on, or has been forgotten. -/
def Goes (config : RuntimeConfig) (server : Server) (party : Holder) : Prop :=
  server.CanMove config party ∨ server.Stranded party

theorem conn_goes_or_waits (ok : WaitsOk server) {id : Nat} (busy : ¬ server.AtRest (.conn id)) :
    server.Goes config (.conn id) ∨
      ∃ other, server.WaitsFor (.conn id) other ∧ ¬ server.AtRest other := by
  cases here : (server.conns id).pc with
  | unaccepted => exact absurd (.inl here) busy
  | ended => exact absurd (.inr (.inl here)) busy
  | receiving =>
      cases asked : (server.conns id).abortRequested with
      | false => exact absurd (.inr (.inr ⟨here, asked⟩)) busy
      | true =>
          refine .inl (.inl (canMove_conn fun authorityValid =>
            ⟨.abort, by simp [Holder.owns], ?_⟩))
          simp [here, connStep?, asked, abortConn?]
  | openLock address session =>
      cases held : server.resolutions address with
      | none =>
          refine .inl (.inl (canMove_conn fun authorityValid =>
            ⟨.advance false, by simp [Holder.owns], ?_⟩))
          simp [here, connStep?, held]
      | some holder =>
          exact .inr ⟨holder, .lock here held, busy_of_guards (ok.tenure _ _ held)⟩
  | resolving => exact .inl (.inl (canMove_of_resolving ok here))
  | openAwait opening =>
      have answered : server.completions opening ≠ .pending → server.Goes config (.conn id) := by
        intro sent
        refine .inl (canMove_conn fun authorityValid =>
          ⟨.advance false, by simp [Holder.owns], ?_⟩)
        simp only [here, connStep?]
        cases answer : server.completions opening with
        | pending => exact absurd answer sent
        | sent generation failure => cases failure <;> rfl
        | dropped => rfl
      by_cases pending : server.completions opening = .pending
      · rcases ok.awaited id opening here with sent | ⟨generation, task, found, carries⟩
        · exact absurd pending sent
        · exact .inr ⟨_, .answer here pending found carries, busy_of_carries ok found carries⟩
      · exact .inl (answered pending)
  | _ => exact .inl (.inl (canMove_of_isWorking (by rw [here]; rfl)))

/-- What an actor task in its receive loop can do. -/
theorem receiving_goes {generation : Nat} {task : ActorTask}
    (found : server.tasks generation = some task) (here : task.pc = .receiving)
    (busy : ¬ server.AtRest (.task generation)) : server.Goes config (.task generation) := by
  cases asked : task.abortRequested with
  | true =>
      refine .inl (canMove_task found ⟨.abort, by simp [Holder.owns], ?_⟩)
      simp [here, taskStep?, asked, abortTask?]
  | false =>
      cases told : task.shutdownSignal with
      | true =>
          refine .inl (canMove_task found ⟨.advance, by simp [Holder.owns], ?_⟩)
          simp [here, taskStep?, told]
      | false =>
          cases routed : server.isRouted generation with
          | false => exact .inr ⟨task, found, here, told, asked, routed⟩
          | true =>
              cases mailbox : task.mailbox with
              | nil =>
                  refine absurd ?_ busy
                  intro known there
                  rw [found, Option.some.injEq] at there
                  subst there
                  exact .inr ⟨here, mailbox, told, asked⟩
              | cons message rest =>
                  refine .inl (canMove_task found ⟨.advance, by simp [Holder.owns], ?_⟩)
                  simp [here, taskStep?, told, routed, mailbox]

theorem task_goes_or_waits (ok : WaitsOk server) {generation : Nat}
    (busy : ¬ server.AtRest (.task generation)) :
    server.Goes config (.task generation) ∨
      ∃ other, server.WaitsFor (.task generation) other ∧ ¬ server.AtRest other := by
  cases found : server.tasks generation with
  | none =>
      refine absurd ?_ busy
      intro task there
      rw [found] at there
      cases there
  | some task =>
      have moves : (∃ event, Holder.owns (.task generation) (.task generation event) = true ∧
          (server.taskStep? config generation task task.pc event).isSome = true) →
          server.Goes config (.task generation) := fun enabled => .inl (canMove_task found enabled)
      cases here : task.pc with
      | ended =>
          refine absurd ?_ busy
          intro known there
          rw [found, Option.some.injEq] at there
          exact .inl (there ▸ here)
      | receiving => exact .inl (receiving_goes found here busy)
      | releaseLock =>
          cases held : server.resolutions task.address with
          | none =>
              refine .inl (moves ⟨.advance, by simp [Holder.owns], ?_⟩)
              simp [here, taskStep?, held]
          | some holder =>
              exact .inr ⟨holder, .release found here held,
                busy_of_guards (ok.tenure _ _ held)⟩
      | releasing => exact .inl (.inl (canMove_of_releasing ok found here))
      | activating =>
          refine .inl (moves ⟨.activation .activated, by simp [Holder.owns], ?_⟩)
          simp [here, taskStep?]
      | executing | deactivating | shutdownDeactivating =>
          refine .inl (moves ⟨.returned true, by simp [Holder.owns], ?_⟩)
          simp [here, taskStep?]
      | idleCount =>
          refine .inl (moves ⟨.advance, by simp [Holder.owns], ?_⟩)
          simp only [here, taskStep?]
          split <;> rfl
      | terminating sessions next =>
          refine .inl (moves ⟨.advance, by simp [Holder.owns], ?_⟩)
          rw [here]
          cases sessions with
          | nil => cases next <;> rfl
          | cons session rest => rfl
      | draining =>
          refine .inl (moves ⟨.advance, by simp [Holder.owns], ?_⟩)
          cases mailbox : task.mailbox <;> simp [here, taskStep?, mailbox]
      | _ =>
          refine .inl (moves ⟨.advance, by simp [Holder.owns], ?_⟩)
          simp [here, taskStep?]

/-- Whoever is not at rest is led by its waits to a task that goes on. -/
theorem busy_leads (ok : WaitsOk server) {party : Holder} (busy : ¬ server.AtRest party) :
    ∃ other, Relation.ReflTransGen server.WaitsFor party other ∧ server.Goes config other := by
  have onward : ∀ one, ¬ server.AtRest one → server.Goes config one ∨
      ∃ other, server.WaitsFor one other ∧ ¬ server.AtRest other := by
    intro one busy
    cases one with
    | conn id => exact conn_goes_or_waits ok busy
    | task generation => exact task_goes_or_waits ok busy
  exact @wait_leads Holder server.WaitsFor server.waitRank (fun one => ¬ server.AtRest one)
    (server.Goes config) (waitRank_lt ok) onward party busy

/-- While the status is `RUNNING`, no actor task is left without its route. -/
theorem not_stranded (ok : RoutesOk server) (running : server.status = .running)
    (party : Holder) : ¬ server.Stranded party := by
  cases party with
  | conn id => rintro ⟨⟩
  | task generation =>
      rintro ⟨task, found, here, -, -, lost⟩
      have owned := (ok.owned running generation task .active found (by rw [here]; rfl)).2
      simp [isRouted, found, owned] at lost

end Server

/-- In every reachable state no task waits for itself, and whoever is not at rest
is led by its waits to a task that can move; once the status has left `RUNNING`,
they may lead to a stranded actor task instead. -/
theorem every_wait_leads_to_a_step (reach : (serverSystem config).Reachable server)
    (party : Holder) :
    ¬ Relation.TransGen server.WaitsFor party party ∧
      (server.AtRest party ∨
        ∃ other, Relation.ReflTransGen server.WaitsFor party other ∧
          (server.CanMove config other ∨
            (server.status ≠ .running ∧ server.Stranded other))) := by
  have ok := waitsOk_of_reachable reach
  refine ⟨no_circular_wait (waitRank_lt ok) party, ?_⟩
  by_cases rest : server.AtRest party
  · exact .inl rest
  · obtain ⟨other, chain, goes⟩ := @busy_leads _ config ok _ rest
    refine .inr ⟨other, chain, goes.imp id fun stranded => ⟨fun running => ?_, stranded⟩⟩
    exact not_stranded (routesOk_of_reachable reach) running other stranded

/-- A connection task that waits for its actor is led to a task that moves. -/
theorem awaiting_connection_is_led_on :
    ∃ server, (serverSystem cartRuntime).run? (.fresh cartRuntime)
        (openToDispatch ++ [(true, .conn 0 (.advance false))]) = some server ∧
      (server.conns 0).pc = .openAwait ⟨cartAddress, ⟨7⟩, 0⟩ ∧
      ∃ other, Relation.ReflTransGen server.WaitsFor (.conn 0) other ∧
        server.CanMove cartRuntime other := by
  have reach := @reachable_of_run? _ _ (serverSystem cartRuntime) _ _
    (openToDispatch ++ [(true, .conn 0 (.advance false))]) rfl rfl
  refine ⟨_, rfl, rfl, ?_⟩
  obtain ⟨-, rest | ⟨other, chain, moves | ⟨stopped, -⟩⟩⟩ :=
    every_wait_leads_to_a_step reach (.conn 0)
  · rcases rest with here | here | ⟨here, -⟩ <;> cases here
  · exact ⟨other, chain, moves⟩
  · exact absurd rfl stopped

/-! ## Snapshots -/

/-- A task is still there, told to stop or to be dropped as before. -/
def TaskToldOn (before after : Server) : Prop :=
  ∀ generation task, before.tasks generation = some task →
    ∃ later, after.tasks generation = some later ∧
      (task.shutdownSignal = true → later.shutdownSignal = true) ∧
      (task.abortRequested = true → later.abortRequested = true)

theorem TaskToldOn.of_tasks (tasks : after.tasks = server.tasks) : TaskToldOn server after :=
  fun _ task found => ⟨task, tasks ▸ found, id, id⟩

theorem TaskToldOn.of_marks {generations : List Nat} {change : ActorTask → ActorTask}
    (tasks : after.tasks = (server.markTasks generations change).tasks)
    (shuts : ∀ task : ActorTask, task.shutdownSignal = true → (change task).shutdownSignal = true)
    (drops : ∀ task : ActorTask, task.abortRequested = true → (change task).abortRequested = true) :
    TaskToldOn server after := by
  intro generation task found
  rw [tasks]
  by_cases chosen : generation ∈ generations
  · exact ⟨change task, by simp [markTasks, chosen, found], shuts task, drops task⟩
  · exact ⟨task, by simp [markTasks, chosen, found], id, id⟩

theorem Grown.told (grown : ∀ generation, Grown server after generation) :
    TaskToldOn server after := by
  intro generation task found
  cases grown generation with
  | same tasks => exact ⟨task, tasks.trans found, id, id⟩
  | fed old message known isOpen tasks =>
      rw [found, Option.some.injEq] at known
      subst known
      exact ⟨_, tasks, id, id⟩
  | born address message absent tasks =>
      rw [found] at absent
      cases absent

theorem TaskEffect.told {generation : Nat} {task next : ActorTask}
    (effect : TaskEffect server after generation task next)
    (found : server.tasks generation = some task) : TaskToldOn server after := by
  intro other known there
  rw [effect.tasks]
  by_cases own : other = generation
  · subst own
    rw [found, Option.some.injEq] at there
    subst there
    exact ⟨next, Function.update_self .., fun told => effect.shutdownSignal.trans told,
      fun asked => effect.abortRequested.trans asked⟩
  · exact ⟨known, by rw [Function.update_of_ne own, there], id, id⟩

theorem shutdownStep?_told {expired : Bool} {pc : ShutdownPc}
    (stepped : server.shutdownStep? expired pc = some after) : TaskToldOn server after := by
  unfold Server.shutdownStep? at stepped
  split at stepped
  case h_1 =>
    split at stepped <;> cases stepped
    · exact .of_marks rfl (fun _ _ => rfl) fun _ => id
    · exact .of_tasks rfl
  case h_2 =>
    split at stepped
    · cases stepped
      exact .of_tasks rfl
    · split at stepped
      · cases stepped
        exact .of_tasks rfl
      · split at stepped <;> cases stepped
        exact .of_tasks rfl
  case h_3 =>
    cases stepped
    exact .of_marks rfl (fun _ => id) fun _ _ => rfl
  case h_5 => split at stepped <;> cases stepped <;> exact .of_tasks rfl
  case h_8 => cases stepped
  case h_9 => cases stepped
  all_goals
    cases stepped
    exact .of_tasks rfl

theorem fenceStep?_told {pc : FencePc} (stepped : server.fenceStep? pc = some after) :
    TaskToldOn server after := by
  unfold Server.fenceStep? at stepped
  split at stepped
  case h_1 =>
    cases stepped
    exact .of_marks rfl (fun _ => id) fun _ _ => rfl
  case h_3 =>
    split at stepped <;> cases stepped
    exact .of_tasks rfl
  case h_5 => split at stepped <;> cases stepped <;> exact .of_tasks rfl
  case h_7 => cases stepped
  all_goals
    cases stepped
    exact .of_tasks rfl

/-- Nobody takes back that a task was told to stop. -/
theorem step?_told (routes : RoutesOk server) {authorityValid : Bool} {event : ServerEvent}
    (stepped : server.step? config authorityValid event = some after) :
    TaskToldOn server after := by
  cases event with
  | conn id event => exact Grown.told ((connStep?_moves rfl stepped).grown routes)
  | task generation event =>
      obtain ⟨task, found, moved⟩ := Option.bind_eq_some_iff.mp stepped
      obtain ⟨next, effect⟩ := taskStep?_effect moved
      exact effect.told found
  | shutdown expired => exact shutdownStep?_told stepped
  | fence => exact fenceStep?_told stepped

/-- The tasks of a snapshot are told to stop by `shutdown`, and are asked to be
dropped by `fence`. -/
structure SnapshotsOk (server : Server) : Prop where
  shutdown : ∀ completions aborts, server.shutdown = .waiting completions aborts →
    ∀ generation ∈ completions, ∃ task, server.tasks generation = some task ∧
      task.shutdownSignal = true
  fence : ∀ completions, server.fence = .waiting completions →
    ∀ generation ∈ completions, ∃ task, server.tasks generation = some task ∧
      task.abortRequested = true

/-- A routed generation has a task. -/
theorem exists_task_of_routed {generation : Nat} (routed : generation ∈ server.routed) :
    ∃ task, server.tasks generation = some task := by
  have present := (List.mem_filter.mp routed).2
  unfold isRouted at present
  split at present
  · rename_i task found
    exact ⟨task, found⟩
  · cases present

namespace SnapshotsOk

theorem kept (ok : SnapshotsOk server) (told : TaskToldOn server after)
    (shutdown : ∀ completions aborts, after.shutdown = .waiting completions aborts →
      ∀ generation ∈ completions, ∃ earlier aborts',
        server.shutdown = .waiting earlier aborts' ∧ generation ∈ earlier)
    (fence : ∀ completions, after.fence = .waiting completions →
      ∀ generation ∈ completions, ∃ earlier,
        server.fence = .waiting earlier ∧ generation ∈ earlier) : SnapshotsOk after := by
  constructor
  · intro completions aborts here generation member
    obtain ⟨earlier, aborts', before, known⟩ := shutdown completions aborts here generation member
    obtain ⟨task, found, signalled⟩ := ok.shutdown earlier aborts' before generation known
    obtain ⟨later, there, shuts, -⟩ := told generation task found
    exact ⟨later, there, shuts signalled⟩
  · intro completions here generation member
    obtain ⟨earlier, before, known⟩ := fence completions here generation member
    obtain ⟨task, found, asked⟩ := ok.fence earlier before generation known
    obtain ⟨later, there, -, drops⟩ := told generation task found
    exact ⟨later, there, drops asked⟩

theorem of_control (ok : SnapshotsOk server) (told : TaskToldOn server after)
    (control : SameControl server after) : SnapshotsOk after := by
  refine ok.kept told ?_ ?_
  · intro completions aborts here generation member
    exact ⟨completions, aborts, control.shutdown ▸ here, member⟩
  · intro completions here generation member
    exact ⟨completions, control.fence ▸ here, member⟩

/-- `shutdown` goes on without waiting for another task. -/
theorem shutdown_kept (ok : SnapshotsOk server) (told : TaskToldOn server after)
    (fence : after.fence = server.fence)
    (waits : ∀ completions aborts, after.shutdown = .waiting completions aborts →
      ∃ earlier, server.shutdown = .waiting earlier aborts ∧ completions ⊆ earlier) :
    SnapshotsOk after := by
  refine ok.kept told ?_ ?_
  · intro completions aborts here generation member
    obtain ⟨earlier, before, shrinks⟩ := waits completions aborts here
    exact ⟨earlier, aborts, before, shrinks member⟩
  · intro completions here generation member
    exact ⟨completions, fence ▸ here, member⟩

theorem fence_kept (ok : SnapshotsOk server) (told : TaskToldOn server after)
    (shutdown : after.shutdown = server.shutdown)
    (waits : ∀ completions, after.fence = .waiting completions →
      ∃ earlier, server.fence = .waiting earlier ∧ completions ⊆ earlier) :
    SnapshotsOk after := by
  refine ok.kept told ?_ ?_
  · intro completions aborts here generation member
    exact ⟨completions, aborts, shutdown ▸ here, member⟩
  · intro completions here generation member
    obtain ⟨earlier, before, shrinks⟩ := waits completions here
    exact ⟨earlier, before, shrinks member⟩

/-- Every routed task after its mark. -/
theorem marked_routed {change : ActorTask → ActorTask} {generation : Nat}
    (member : generation ∈ server.routed) :
    ∃ task, (server.markTasks server.routed change).tasks generation = some (change task) := by
  obtain ⟨task, found⟩ := exists_task_of_routed member
  exact ⟨task, by simp [markTasks, member, found]⟩

theorem shutdownStep? (ok : SnapshotsOk server) {expired : Bool}
    (stepped : server.shutdownStep? expired server.shutdown = some after) :
    SnapshotsOk after := by
  have told := shutdownStep?_told stepped
  unfold Server.shutdownStep? at stepped
  split at stepped
  case h_1 =>
    split at stepped
    · cases stepped
      constructor
      · intro completions aborts here generation member
        cases here
        obtain ⟨task, found⟩ := marked_routed member
        exact ⟨_, found, rfl⟩
      · intro completions here generation member
        obtain ⟨task, found, asked⟩ := ok.fence completions here generation member
        obtain ⟨later, there, -, drops⟩ := told generation task found
        exact ⟨later, there, drops asked⟩
    · cases stepped
      exact ok.shutdown_kept told rfl (by simp)
  case h_2 completions aborts here =>
    split at stepped
    · cases stepped
      exact ok.shutdown_kept told rfl (by simp)
    · split at stepped
      · cases stepped
        exact ok.shutdown_kept told rfl (by simp)
      · rename_i generation rest
        split at stepped
        · cases stepped
          refine ok.shutdown_kept told rfl ?_
          intro later aborts' waiting
          cases waiting
          exact ⟨_, here, List.subset_cons_self _ _⟩
        · cases stepped
  case h_3 =>
    cases stepped
    exact ok.shutdown_kept told rfl (by simp)
  case h_5 =>
    split at stepped <;> cases stepped <;>
      exact ok.shutdown_kept told rfl (by simp)
  case h_8 => cases stepped
  case h_9 => cases stepped
  all_goals
    cases stepped
    exact ok.shutdown_kept told rfl (by simp)

theorem fenceStep? (ok : SnapshotsOk server)
    (stepped : server.fenceStep? server.fence = some after) : SnapshotsOk after := by
  have told := fenceStep?_told stepped
  unfold Server.fenceStep? at stepped
  split at stepped
  case h_1 =>
    cases stepped
    constructor
    · intro completions aborts here generation member
      obtain ⟨task, found, signalled⟩ := ok.shutdown completions aborts here generation member
      obtain ⟨later, there, shuts, -⟩ := told generation task found
      exact ⟨later, there, shuts signalled⟩
    · intro completions here generation member
      cases here
      obtain ⟨task, found⟩ := marked_routed member
      exact ⟨_, found, rfl⟩
  case h_3 generation rest here =>
    split at stepped
    · cases stepped
      refine ok.fence_kept told rfl ?_
      intro later waiting
      cases waiting
      exact ⟨_, here, List.subset_cons_self _ _⟩
    · cases stepped
  case h_5 =>
    split at stepped <;> cases stepped <;>
      exact ok.fence_kept told rfl (by simp)
  case h_7 => cases stepped
  all_goals
    cases stepped
    exact ok.fence_kept told rfl (by simp)

theorem step? (ok : SnapshotsOk server) (routes : RoutesOk server) {authorityValid : Bool}
    {event : ServerEvent} (stepped : server.step? config authorityValid event = some after) :
    SnapshotsOk after := by
  have told := step?_told routes stepped
  cases event with
  | conn id event => exact ok.of_control told (connStep?_effect rfl stepped).1
  | task generation event =>
      obtain ⟨task, found, moved⟩ := Option.bind_eq_some_iff.mp stepped
      obtain ⟨next, effect⟩ := taskStep?_effect moved
      exact ok.of_control told effect.toSameControl
  | shutdown expired => exact ok.shutdownStep? stepped
  | fence => exact ok.fenceStep? stepped

end SnapshotsOk

theorem snapshotsOk_of_reachable (reach : (serverSystem config).Reachable server) :
    SnapshotsOk server := by
  refine invariant_of_reachable_step SnapshotsOk ?_ ?_ reach
  · rintro start rfl
    constructor
    · intro completions aborts here
      cases here
    · intro completions here
      cases here
  · intro before label after earlier ok _ stepped
    exact ok.step? (routesOk_of_reachable earlier) stepped

/-! ## `shutdown` and `fence` -/

namespace Server

/-- A task of a snapshot that has not completed can move, or waits for the lock of
its address, whose holder can. -/
def Completing (config : RuntimeConfig) (server : Server) (generation : Nat) : Prop :=
  server.CanMove config (.task generation) ∨
    ∃ holder, server.WaitsFor (.task generation) holder ∧ server.CanMove config holder

theorem completing (ok : WaitsOk server) {generation : Nat} {task : ActorTask}
    (found : server.tasks generation = some task)
    (told : task.shutdownSignal = true ∨ task.abortRequested = true)
    (incomplete : server.hasCompleted generation = false) :
    server.Completing config generation := by
  have busy : ¬ server.AtRest (.task generation) := by
    intro rest
    rcases rest task found with ended | ⟨-, -, untold, unasked⟩
    · simp [hasCompleted, found, ended] at incomplete
    · simp [untold, unasked] at told
  rcases @task_goes_or_waits _ config ok _ busy with (moves | stranded) | ⟨other, waits, -⟩
  · exact .inl moves
  · obtain ⟨known, there, -, untold, unasked, -⟩ := stranded
    rw [found, Option.some.injEq] at there
    subst there
    simp [untold, unasked] at told
  · refine .inr ⟨other, waits, ?_⟩
    cases waits with
    | release known here held => exact canMove_of_guards ok (ok.tenure _ _ held)

theorem shutdown_goes_or_waits (ok : WaitsOk server) (snapshots : SnapshotsOk server)
    (underWay : server.shutdown.hasReturned = false) :
    (server.shutdownStep? false server.shutdown).isSome = true ∨
      ∃ generation rest aborts, server.shutdown = .waiting (generation :: rest) aborts ∧
        server.Completing config generation := by
  cases here : server.shutdown with
  | returned | skipped =>
      rw [here] at underWay
      cases underWay
  | idle =>
      simp only [shutdownStep?]
      split <;> exact .inl rfl
  | waiting completions aborts =>
      cases completions with
      | nil => exact .inl rfl
      | cons generation rest =>
          cases completed : server.hasCompleted generation with
          | true => simp [shutdownStep?, completed]
          | false =>
              obtain ⟨task, found, signalled⟩ :=
                snapshots.shutdown _ _ here generation List.mem_cons_self
              exact .inr ⟨generation, rest, aborts, rfl,
                completing ok found (.inl signalled) completed⟩
  | terminating timedOut sweep =>
      simp only [shutdownStep?]
      split <;> exact .inl rfl
  | _ => exact .inl rfl

theorem fence_goes_or_waits (ok : WaitsOk server) (snapshots : SnapshotsOk server)
    (underWay : server.fence ≠ .returned) :
    (server.fenceStep? server.fence).isSome = true ∨
      ∃ generation rest, server.fence = .waiting (generation :: rest) ∧
        server.Completing config generation := by
  cases here : server.fence with
  | returned => exact absurd here underWay
  | waiting completions =>
      cases completions with
      | nil => exact .inl rfl
      | cons generation rest =>
          cases completed : server.hasCompleted generation with
          | true => simp [fenceStep?, completed]
          | false =>
              obtain ⟨task, found, asked⟩ :=
                snapshots.fence _ here generation List.mem_cons_self
              exact .inr ⟨generation, rest, rfl, completing ok found (.inr asked) completed⟩
  | terminating sweep =>
      simp only [fenceStep?]
      split <;> exact .inl rfl
  | _ => exact .inl rfl

end Server

/-- A call of `shutdown` or `fence` that has not returned takes its next step
without its timeout, or it waits for an actor task of its snapshot that can move
or that waits for the holder of its lock, which can. -/
theorem stopping_waits_for_moving_tasks (reach : (serverSystem config).Reachable server) :
    (server.shutdown.hasReturned = false →
      (server.shutdownStep? false server.shutdown).isSome = true ∨
        ∃ generation rest aborts, server.shutdown = .waiting (generation :: rest) aborts ∧
          server.Completing config generation) ∧
    (server.fence ≠ .returned →
      (server.fenceStep? server.fence).isSome = true ∨
        ∃ generation rest, server.fence = .waiting (generation :: rest) ∧
          server.Completing config generation) := by
  have ok := waitsOk_of_reachable reach
  have snapshots := snapshotsOk_of_reachable reach
  exact ⟨shutdown_goes_or_waits ok snapshots, fence_goes_or_waits ok snapshots⟩

/-- `shutdown` waits for the one actor, which can move. -/
theorem shutdown_waits_for_the_cart :
    ∃ server, (serverSystem cartRuntime).run? (.fresh cartRuntime)
        (openAndActivate ++ [(true, .shutdown false)]) = some server ∧
      server.shutdownStep? false server.shutdown = none ∧
      ∃ generation rest aborts, server.shutdown = .waiting (generation :: rest) aborts ∧
        server.Completing cartRuntime generation := by
  have reach := @reachable_of_run? _ _ (serverSystem cartRuntime) _ _
    (openAndActivate ++ [(true, .shutdown false)]) rfl rfl
  refine ⟨_, rfl, rfl, ?_⟩
  rcases (stopping_waits_for_moving_tasks reach).1 rfl with goes | waits
  · cases goes
  · exact waits

end Coactor.Runtime
