import Coactor.Runtime.Core

/-!
# Actor tasks

The task that `spawn_actor` starts: activation, the receive loop, the idle path
with the release of the owner record, the drain of a shutdown, and the drop of
its guard and of its mailbox on every way out.  The idle timer may fire at any
moment.  A task whose route is gone sees its shutdown channel closed and spins.
-/

namespace Coactor.Runtime

open Coactor.Coordination

inductive ActivationOutcome where
  | activated
  | failed
  | panicked
  deriving DecidableEq, Repr

/-- How an actor task goes on: the next local instruction, the end of a
callback, the idle timer, a reply to its router, or its abort. -/
inductive TaskEvent where
  | advance
  | activation (outcome : ActivationOutcome)
  | returned (completed : Bool)
  | idle
  | reply (reply : RouterReply)
  | abort
  deriving DecidableEq, Repr

namespace Server

variable (config : RuntimeConfig)

/-- Put an actor task at another program point. -/
def gotoTask (server : Server) (generation : Nat) (task : ActorTask) (pc : TaskPc) : Server :=
  server.setTask generation { task with pc := pc }

/-- `begin_deactivation`, with the program point that follows either answer. -/
def beginDeactivation (server : Server) (generation : Nat) (task : ActorTask) : Server :=
  match server.routes task.address with
  | some route =>
      if route.generation = generation ∧ task.mailbox = [] then
        { server with
          routes := Function.update server.routes task.address
            (some { route with state := .deactivating }) }.gotoTask generation task .deactivating
      else server.gotoTask generation task .receiving
  | none => server.gotoTask generation task .receiving

/-- The end of `execute_message`. -/
def executed (server : Server) (generation : Nat) (task : ActorTask) (message : MailboxMessage)
    (draining completed : Bool) : Server :=
  let pc : TaskPc :=
    if completed then (if draining then .draining else .receiving)
    else .terminateAll .actorStopped .leave
  match message with
  | .sessionOpened opening =>
      (server.complete opening (.sent (some generation)
        (if completed then none else some .actorStopped))).gotoTask generation task pc
  | _ => server.gotoTask generation task pc

/-- Drop an actor task at an await point.  One that was never polled has not
made its guard yet. -/
def abortTask? (server : Server) (generation : Nat) (task : ActorTask) : Option Server :=
  match task.pc with
  | .spawned =>
      some ((server.completeAll .dropped task.mailbox).setTask generation
        { task with pc := .ended, mailbox := [], closed := true })
  | .activating => some (server.gotoTask generation task .guardDrop)
  | .receiving => some (server.gotoTask generation task .guardDrop)
  | .executing message _ =>
      some ((server.completeAll .dropped [message]).gotoTask generation task .guardDrop)
  | .deactivating => some (server.gotoTask generation task .guardDrop)
  | .releaseLock => some (server.gotoTask generation task .guardDrop)
  | .releasing _ =>
      some ((server.unlock task.address).gotoTask generation task .guardDrop)
  | .draining => some (server.gotoTask generation task .guardDrop)
  | .shutdownDeactivating => some (server.gotoTask generation task .guardDrop)
  | _ => none

/-- One step of an actor task. -/
def taskStep? (server : Server) (generation : Nat) (task : ActorTask) :
    TaskPc → TaskEvent → Option Server
  | .spawned, .advance => some (server.gotoTask generation task .activating)
  | .activating, .activation .activated => some (server.gotoTask generation task .receiving)
  | .activating, .activation .failed =>
      some (server.gotoTask generation task (.failClose .activationFailed))
  | .activating, .activation .panicked =>
      some (server.gotoTask generation task (.failClose .actorStopped))
  | .failClose error, .advance =>
      some (server.setTask generation { task with closed := true, pc := .failRemove error })
  | .failRemove error, .advance =>
      some ((server.removeRoute task.address generation).gotoTask generation task
        (.failPending error))
  | .failPending error, .advance =>
      some ((server.completeAll (.sent (some generation) (some error)) task.mailbox).setTask
        generation { task with mailbox := [], pc := .terminateAll error .leave })
  | .terminateAll _ next, .advance =>
      some (server.gotoTask generation task
        (.terminating (server.registry.sessionsOf task.address) next))
  | .terminating (session :: rest) next, .advance =>
      some ({ server with
        registry := server.registry.unregisterActor task.address session }.gotoTask generation
          task (.terminating rest next))
  | .terminating [] .leave, .advance => some (server.gotoTask generation task .guardDrop)
  | .terminating [] .deactivate, .advance =>
      some (server.gotoTask generation task .shutdownDeactivating)
  | .receiving, .advance =>
      if task.shutdownSignal then some (server.gotoTask generation task .shutdownClose)
      else if server.isRouted generation then
        match task.mailbox with
        | message :: rest =>
            some (server.setTask generation
              { task with mailbox := rest, pc := .executing message false })
        | [] => if task.closed then some (server.gotoTask generation task .removing) else none
      else none
  | .receiving, .idle =>
      if task.shutdownSignal = false ∧ server.isRouted generation then
        some (server.gotoTask generation task .idleCount)
      else none
  | .executing message draining, .returned completed =>
      some (server.executed generation task message draining completed)
  | .idleCount, .advance =>
      if server.registry.sessionCount task.address = 0 then
        some (server.gotoTask generation task .idleBegin)
      else some (server.gotoTask generation task .receiving)
  | .idleBegin, .advance => some (server.beginDeactivation generation task)
  | .deactivating, .returned _ => some (server.gotoTask generation task .releaseLock)
  | .releaseLock, .advance =>
      match server.resolutions task.address with
      | none => some ((server.lock task.address (.task generation)).gotoTask generation task
          (.releasing config.router.releaseLocalOwner))
      | some _ => none
  | .releasing program, .reply reply =>
      (program.resume? reply).map fun
        | .ret _ => (server.unlock task.address).gotoTask generation task .removing
        | next => server.gotoTask generation task (.releasing next)
  | .shutdownClose, .advance =>
      some (server.setTask generation { task with closed := true, pc := .draining })
  | .draining, .advance =>
      match task.mailbox with
      | message :: rest =>
          some (server.setTask generation
            { task with mailbox := rest, pc := .executing message true })
      | [] => some (server.gotoTask generation task
          (.terminateAll .runtimeShuttingDown .deactivate))
  | .shutdownDeactivating, .returned _ => some (server.gotoTask generation task .removing)
  | .removing, .advance =>
      some ((server.removeRoute task.address generation).gotoTask generation task .guardDrop)
  | .guardDrop, .advance =>
      some ((server.removeRoute task.address generation).gotoTask generation task .guardComplete)
  | .guardComplete, .advance =>
      some (server.setTask generation { task with completed := true, pc := .dropReceiver })
  | .dropReceiver, .advance =>
      some ((server.completeAll .dropped task.mailbox).setTask generation
        { task with mailbox := [], closed := true, pc := .ended })
  | _, .abort => if task.abortRequested then server.abortTask? generation task else none
  | _, _ => none

end Server

end Coactor.Runtime
