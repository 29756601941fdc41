import Coactor.Runtime.Lifecycle
import Coactor.Foundation.Transition

/-!
# Shutdown, fence, and the Server as a whole

`shutdown` and `fence` change the status and take a snapshot of the routes
under the actors lock.  Both then wait for the tasks of that snapshot, clear
what is left, terminate all Sessions and abort the connection tasks.  A Server
takes one step of a connection task, of an actor task, of `shutdown` or of
`fence` at a time, in any order.
-/

namespace Coactor.Runtime

open Coactor.Foundation.Transition

/-- One lock section of `terminate_all_sessions`; no sweep is left at its end. -/
def Sweep.step (registry : SessionRegistry) : Sweep → SessionRegistry × Option Sweep
  | .start => (registry, some (.addresses registry.addresses))
  | .addresses [] => (registry, none)
  | .addresses (address :: rest) =>
      (registry, some (.sessions address (registry.sessionsOf address) rest))
  | .sessions _ [] rest => (registry, some (.addresses rest))
  | .sessions address (session :: others) rest =>
      (registry.unregisterActor address session, some (.sessions address others rest))

namespace Server

/-- Change the tasks of some generations. -/
def markTasks (server : Server) (generations : List Nat) (mark : ActorTask → ActorTask) :
    Server :=
  { server with
    tasks := fun generation =>
      if generation ∈ generations then (server.tasks generation).map mark
      else server.tasks generation }

/-- Whether waiting on the completion channel of a generation ends: it has been
sent `true`, or its sender was dropped unsent. -/
def hasCompleted (server : Server) (generation : Nat) : Bool :=
  match server.tasks generation with
  | some task => task.completed || (match task.pc with | .ended => true | _ => false)
  | none => true

/-- `actors.lock().clear()`. -/
def clearRoutes (server : Server) : Server :=
  { server with
    routes := fun _ => none
    available := server.available + server.routed.length }

/-- `abort_inbound_tasks`. -/
def abortInboundTasks (server : Server) : Server :=
  { server with
    conns := fun id =>
      if (server.conns id).registered then
        { server.conns id with registered := false, abortRequested := true }
      else server.conns id }

/-- One step of `shutdown`; `expired` says that its timeout fires. -/
def shutdownStep? (server : Server) (expired : Bool) : ShutdownPc → Option Server
  | .idle =>
      match server.status with
      | .running =>
          some { server.markTasks server.routed (fun task => { task with shutdownSignal := true })
            with
            status := .shuttingDown
            shutdown := .waiting server.routed server.routed }
      | _ => some { server with shutdown := .skipped }
  | .waiting completions aborts =>
      if expired then some { server with shutdown := .aborting aborts }
      else match completions with
        | [] => some { server with shutdown := .terminating false .start }
        | generation :: rest =>
            if server.hasCompleted generation then
              some { server with shutdown := .waiting rest aborts }
            else none
  | .aborting aborts =>
      some { server.markTasks aborts (fun task => { task with abortRequested := true }) with
        shutdown := .clearing }
  | .clearing => some { server.clearRoutes with shutdown := .terminating true .start }
  | .terminating timedOut sweep =>
      match sweep.step server.registry with
      | (registry, some sweep) =>
          some { server with registry := registry, shutdown := .terminating timedOut sweep }
      | (registry, none) =>
          some { server with registry := registry, shutdown := .abortInbound timedOut }
  | .abortInbound timedOut =>
      some { server.abortInboundTasks with shutdown := .storing timedOut }
  | .storing timedOut =>
      some { server with status := .stopped, shutdown := .returned timedOut }
  | .returned _ => none
  | .skipped => none

/-- One step of `fence`. -/
def fenceStep? (server : Server) : FencePc → Option Server
  | .idle =>
      some { server.markTasks server.routed (fun task => { task with abortRequested := true }) with
        status := .fenced
        fence := .waiting server.routed }
  | .waiting [] => some { server with fence := .clearing }
  | .waiting (generation :: rest) =>
      if server.hasCompleted generation then some { server with fence := .waiting rest }
      else none
  | .clearing => some { server.clearRoutes with fence := .terminating .start }
  | .terminating sweep =>
      match sweep.step server.registry with
      | (registry, some sweep) =>
          some { server with registry := registry, fence := .terminating sweep }
      | (registry, none) => some { server with registry := registry, fence := .abortInbound }
  | .abortInbound => some { server.abortInboundTasks with fence := .returned }
  | .returned => none

end Server

/-! ## The Server as a system -/

inductive ServerEvent where
  | conn (id : Nat) (event : ConnEvent)
  | task (generation : Nat) (event : TaskEvent)
  | shutdown (expired : Bool)
  | fence
  deriving DecidableEq

/-- One step of a Server while its Node authority is valid or not. -/
def Server.step? (config : RuntimeConfig) (authorityValid : Bool) (server : Server) :
    ServerEvent → Option Server
  | .conn id event => server.connStep? config authorityValid id (server.conns id).pc event
  | .task generation event =>
      (server.tasks generation).bind fun task =>
        server.taskStep? config generation task task.pc event
  | .shutdown expired => server.shutdownStep? expired server.shutdown
  | .fence => server.fenceStep? server.fence

/-- Every interleaving of the tasks of one Server, with the Node authority valid
or not at each step, and with any answers of the store. -/
def serverSystem (config : RuntimeConfig) : System Server (Bool × ServerEvent) where
  initial := fun server => server = .fresh config
  step? := fun server label => server.step? config label.1 label.2

end Coactor.Runtime
