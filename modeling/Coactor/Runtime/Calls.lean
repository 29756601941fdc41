import Coactor.Runtime.Resolution

/-!
# Router calls under way

A `SessionOpen` that has taken the resolution lock runs `resolve`, and an idle
actor task that has taken it runs `release_local_owner`.  Only a reply moves
such a call on, and only a `resolve` that returned `Local` leads to a dispatch.
-/

namespace Coactor.Runtime

open Coactor.Coordination

variable {server after : Server} {config : RuntimeConfig}

/-! ## Connection tasks -/

/-- Where a connection task stands after a reply to `resolve`. -/
def ConnPc.afterReply (address : ActorAddress) (session : SessionId) (reserved : Bool) :
    ClusterRouter.ResolveProgram → ConnPc
  | .ret (.ok (.localOwner reservation)) => .openRegister address session reservation
  | .ret (.ok .remote) => .openAck session (some .notOwner)
  | .ret (.error error) => .openAck session (some error)
  | program => .resolving address session program reserved

/-- How a step moves a connection task with respect to `resolve`. -/
inductive ResolveMove (config : RuntimeConfig) (before : ConnPc) (event : ConnEvent)
    (after : ConnPc) : Prop where
  | kept (same : after = before) (silent : ∀ reply, event ≠ .reply reply)
  | begun (address : ActorAddress) (session : SessionId)
      (waiting : before = .openLock address session)
      (moved : after = .resolving address session config.router.resolve false)
  | replied (address : ActorAddress) (session : SessionId)
      (program next : ClusterRouter.ResolveProgram) (reserved reserved' : Bool)
      (reply : RouterReply) (here : before = .resolving address session program reserved)
      (answered : event = .reply reply) (resumed : program.resume? reply = some next)
      (moved : after = .afterReply address session reserved' next)
  | carried (address : ActorAddress) (held : before.holdsLocal address)
      (still : after.holdsLocal address) (silent : ∀ reply, event ≠ .reply reply)
  | freed (free : after.guards = none) (silent : ∀ reply, event ≠ .reply reply)

namespace Server

theorem resolved_pc {id : Nat} {address : ActorAddress} {session : SessionId} {reserved : Bool}
    (program : ClusterRouter.ResolveProgram) :
    ((server.resolved id address session reserved program).conns id).pc =
      .afterReply address session reserved program := by
  rcases program with (error | ⟨reservation⟩ | _) | ⟨request, resume⟩ <;> exact setConn_pc

/-- A step that changes nothing but the program point of a connection task. -/
theorem passage_resolveMove {authorityValid : Bool} {id : Nat} {pc next : ConnPc}
    {event : ConnEvent} (passage : ConnPassage authorityValid server id pc event next) :
    ResolveMove config pc event next := by
  cases passage with
  | received envelope => exact .freed (inbound_guards envelope) (by simp)
  | @authorized opening | @running opening => exact .carried opening.address rfl rfl (by simp)
  | @unclosed _ _ next => exact .freed (by cases next <;> rfl) (by simp)
  | _ => exact .freed rfl (by simp)

/-- A step of a connection task moves it in one of these ways. -/
theorem connStep?_move {authorityValid : Bool} {id : Nat} {pc : ConnPc} {event : ConnEvent}
    (here : (server.conns id).pc = pc)
    (stepped : server.connStep? config authorityValid id pc event = some after) :
    ResolveMove config pc event (after.conns id).pc := by
  cases connStep?_case stepped with
  | passed passage =>
      rw [setConn_pc]
      exact passage_resolveMove passage
  | locked => exact .begun _ _ rfl setConn_pc
  | @asked _ _ _ _ reserved _ _ _ _ resumed | @resolvedHere _ _ _ _ reserved _ _ _ resumed =>
      exact .replied _ _ _ _ _ reserved _ rfl rfl resumed setConn_pc
  | @resolvedAway _ _ _ _ reserved _ _ _ _ resumed away =>
      rcases away with ⟨rfl, rfl⟩ | rfl <;>
        exact .replied _ _ _ _ _ reserved _ rfl rfl resumed setConn_pc
  | @registered address => exact .carried address rfl (by rw [setConn_pc]; exact rfl) (by simp)
  | @dispatched _ _ _ _ ending | @actionDispatched _ _ _ _ _ ending =>
      exact .freed (by rw [setConn_pc]; cases ending <;> rfl) (by simp)
  | @closeDispatched _ _ next => exact .freed (by rw [setConn_pc]; cases next <;> rfl) (by simp)
  | noted => exact .kept (by simpa using here) (by simp)
  | unregistrable | undispatched | unregistered | closed | unlocked =>
      exact .freed (by rw [setConn_pc]; rfl) (by simp)

end Server

/-! ## Actor tasks -/

/-- Where an actor task stands after a reply to `release_local_owner`. -/
def TaskPc.afterReply : ClusterRouter.ReleaseProgram → TaskPc
  | .ret _ => .removing
  | program => .releasing program

/-- How a step moves an actor task with respect to `release_local_owner`. -/
inductive ReleaseMove (config : RuntimeConfig) (before : TaskPc) (event : TaskEvent)
    (after : TaskPc) : Prop where
  | begun (waiting : before = .releaseLock)
      (moved : after = .releasing config.router.releaseLocalOwner)
  | replied (program next : ClusterRouter.ReleaseProgram) (reply : RouterReply)
      (here : before = .releasing program) (answered : event = .reply reply)
      (resumed : program.resume? reply = some next) (moved : after = .afterReply next)
  | freed (free : after.isReleasing = false) (silent : ∀ reply, event ≠ .reply reply)

namespace Server

variable {generation : Nat} {task next : ActorTask}

theorem passage_releaseMove {event : TaskEvent} {onward : TaskPc}
    (passage : TaskPassage server generation task event onward) :
    ReleaseMove config task.pc event onward := by
  cases passage with
  | asked waiting resumed => exact .replied _ _ _ waiting rfl resumed rfl
  | @handled _ draining completed =>
      exact .freed (by cases completed <;> cases draining <;> rfl) (by simp)
  | _ => exact .freed rfl (by simp)

/-- A step of an actor task moves it in one of these ways. -/
theorem taskStep?_move {event : TaskEvent}
    (stepped : server.taskStep? config generation task task.pc event = some after)
    (here : after.tasks generation = some next) :
    ReleaseMove config task.pc event next.pc := by
  obtain ⟨middle, moved, rfl, step⟩ := taskStep?_case stepped
  simp only [setTask, Function.update_self, Option.some.injEq] at here
  subst here
  cases step with
  | passed passage => exact passage_releaseMove passage
  | locked waiting => exact .begun waiting rfl
  | released waiting resumed => exact .replied _ _ _ waiting rfl resumed rfl
  | @opened _ draining completed =>
      exact .freed (by cases completed <;> cases draining <;> rfl) (by simp)
  | _ => exact .freed rfl (by simp)

end Server

/-- A dispatch leaves every actor task at its program point, and starts new ones
at their first. -/
theorem DispatchEffect.task_origin (effect : DispatchEffect server after) {generation : Nat}
    {task : ActorTask} (here : after.tasks generation = some task) :
    task.pc = .spawned ∨
      ∃ old, server.tasks generation = some old ∧ old.pc = task.pc ∧
        old.address = task.address := by
  cases effect with
  | unchanged _ tasks _ => exact .inr ⟨task, tasks ▸ here, rfl, rfl⟩
  | unrouted _ _ _ tasks _ => exact .inr ⟨task, tasks ▸ here, rfl, rfl⟩
  | enqueued _ changed old _ _ found _ _ tasks _ _ =>
      rw [tasks] at here
      by_cases same : generation = changed
      · subst same
        rw [Function.update_self, Option.some.injEq] at here
        subst here
        exact .inr ⟨old, found, rfl, rfl⟩
      · rw [Function.update_of_ne same] at here
        exact .inr ⟨task, here, rfl, rfl⟩
  | spawned _ _ _ _ tasks _ _ =>
      rw [tasks] at here
      by_cases same : generation = server.nextGeneration
      · rw [same, Function.update_self, Option.some.injEq] at here
        subst here
        exact .inl rfl
      · rw [Function.update_of_ne same] at here
        exact .inr ⟨task, here, rfl, rfl⟩

end Coactor.Runtime
