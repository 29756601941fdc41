import Coactor.Coordination.Routing

/-!
# The state of one Server

The fields of `ServerInner` that its tasks share, the tasks themselves, and the
calls of `shutdown` and `fence`.  A task stands at a program point; between two
program points it does what one lock section or one piece of straight-line code
does.  Every lock section is one step.
-/

namespace Coactor.Runtime

open Coactor.Coordination

/-! ## Sessions -/

/-- The 16 bytes of a Session ID. -/
structure SessionId where
  value : BitVec 128
  deriving DecidableEq, Repr

/-- One handling of a `SessionOpen` that registered its Session, told from others
by a serial number.  It stands for its oneshot channel as well. -/
structure Opening where
  address : ActorAddress
  session : SessionId
  serial : Nat
  deriving DecidableEq

/-- A registered Session and the connection its Events go to. -/
structure SessionEntry where
  opening : Opening
  connection : Nat
  deriving DecidableEq

abbrev SessionRegistry := List SessionEntry

namespace SessionRegistry

def names (address : ActorAddress) (session : SessionId) (entry : SessionEntry) : Bool :=
  entry.opening.address == address && entry.opening.session == session

/-- `sink(..).is_some()`. -/
def contains (registry : SessionRegistry) (address : ActorAddress) (session : SessionId) : Bool :=
  registry.any (names address session)

/-- `register_actor`; a second registration is turned down. -/
def registerActor (registry : SessionRegistry) (entry : SessionEntry) : Option SessionRegistry :=
  if registry.contains entry.opening.address entry.opening.session then none
  else some (registry ++ [entry])

/-- `unregister_actor`; `contains` tells whether anything is removed. -/
def unregisterActor (registry : SessionRegistry) (address : ActorAddress)
    (session : SessionId) : SessionRegistry :=
  registry.filter fun entry => !names address session entry

def sessionCount (registry : SessionRegistry) (address : ActorAddress) : Nat :=
  (registry.filter fun entry => entry.opening.address == address).length

/-- `is_bound_to` the sender of a connection. -/
def isBoundTo (registry : SessionRegistry) (address : ActorAddress) (session : SessionId)
    (connection : Nat) : Bool :=
  registry.any fun entry => names address session entry && entry.connection == connection

/-- `by_sender_snapshot`. -/
def bySender (registry : SessionRegistry) (connection : Nat) : List (ActorAddress × SessionId) :=
  (registry.filter fun entry => entry.connection == connection).map fun entry =>
    (entry.opening.address, entry.opening.session)

/-- The Sessions `terminate_all` finds at an address. -/
def sessionsOf (registry : SessionRegistry) (address : ActorAddress) : List SessionId :=
  (registry.filter fun entry => entry.opening.address == address).map (·.opening.session)

/-- `by_actor_addresses`. -/
def addresses (registry : SessionRegistry) : List ActorAddress :=
  (registry.map (·.opening.address)).eraseDups

end SessionRegistry

/-! ## Routes and actor tasks -/

inductive Status where
  | running
  | shuttingDown
  | stopped
  | fenced
  deriving DecidableEq, Repr

inductive RouteState where
  | active
  | deactivating
  deriving DecidableEq, Repr

/-- A route; its task is the one of its generation, and it owns one permit. -/
structure Route where
  generation : Nat
  state : RouteState
  deriving DecidableEq, Repr

inductive MailboxMessage where
  | action (session : SessionId) (payload : List UInt8)
  | sessionOpened (opening : Opening)
  | sessionClosed (session : SessionId)
  deriving DecidableEq

/-- The oneshot of an opening: the generation that answered, if a task did,
and the error it answered with, if any. -/
inductive Completion where
  | pending
  | sent (generation : Option Nat) (failure : Option SendError)
  | dropped
  deriving DecidableEq, Repr

/-- What an actor task does once it has terminated the Sessions of its address. -/
inductive AfterTermination where
  | leave
  | deactivate
  deriving DecidableEq, Repr

/-- Where the task spawned by `spawn_actor` stands. -/
inductive TaskPc where
  | spawned
  | activating
  | failClose (error : SendError)
  | failRemove (error : SendError)
  | failPending (error : SendError)
  | terminateAll (error : SendError) (next : AfterTermination)
  | terminating (sessions : List SessionId) (next : AfterTermination)
  | receiving
  | executing (message : MailboxMessage) (draining : Bool)
  | idleCount
  | idleBegin
  | deactivating
  | releaseLock
  | releasing (program : ClusterRouter.ReleaseProgram)
  | shutdownClose
  | draining
  | shutdownDeactivating
  | removing
  | guardDrop
  | guardComplete
  | dropReceiver
  | ended

/-- An actor task with its mailbox and the ends of its channels that others
hold: `shutdownSignal` and `abortRequested` are set from outside, `completed`
is read there. -/
structure ActorTask where
  address : ActorAddress
  pc : TaskPc
  mailbox : List MailboxMessage
  closed : Bool
  shutdownSignal : Bool
  abortRequested : Bool
  completed : Bool

/-! ## Connection tasks -/

/-- The three parts of `dispatch_message`. -/
inductive DispatchStage where
  | authority
  | status
  | actors
  deriving DecidableEq, Repr

/-- What follows a closed Session: the next Envelope, or the rest of the
Sessions of a lost connection. -/
abbrev AfterClose := Option (List (ActorAddress × SessionId))

/-- Where the task of an inbound connection stands. -/
inductive ConnPc where
  | unaccepted
  | receiving
  | openLock (address : ActorAddress) (session : SessionId)
  | resolving (address : ActorAddress) (session : SessionId)
      (program : ClusterRouter.ResolveProgram) (reserved : Bool)
  | openRegister (address : ActorAddress) (session : SessionId) (reservation : Bool)
  | openDispatch (opening : Opening) (reservation : Bool) (stage : DispatchStage)
  | openUnregister (opening : Opening) (error : SendError)
  | openAwait (opening : Opening)
  | openAck (session : SessionId) (failure : Option SendError)
  | actionBound (address : ActorAddress) (session : SessionId) (payload : List UInt8)
  | actionSink (address : ActorAddress) (session : SessionId) (payload : List UInt8)
  | actionDispatch (address : ActorAddress) (session : SessionId) (payload : List UInt8)
      (stage : DispatchStage)
  | closeBound (address : ActorAddress) (session : SessionId)
  | closeUnregister (address : ActorAddress) (session : SessionId) (after : AfterClose)
  | closeDispatch (address : ActorAddress) (session : SessionId) (after : AfterClose)
  | disconnecting (rest : List (ActorAddress × SessionId))
  | ended

structure Conn where
  pc : ConnPc
  registered : Bool
  abortRequested : Bool

/-! ## Shutdown and fence -/

/-- Progress of `terminate_all_sessions`. -/
inductive Sweep where
  | start
  | addresses (rest : List ActorAddress)
  | sessions (address : ActorAddress) (sessions : List SessionId) (rest : List ActorAddress)
  deriving DecidableEq

/-- Where the call of `shutdown` stands; `skipped` is its early return. -/
inductive ShutdownPc where
  | idle
  | waiting (completions aborts : List Nat)
  | aborting (aborts : List Nat)
  | clearing
  | terminating (timedOut : Bool) (sweep : Sweep)
  | abortInbound (timedOut : Bool)
  | storing (timedOut : Bool)
  | returned (timedOut : Bool)
  | skipped
  deriving DecidableEq

/-- Where the call of `fence` stands. -/
inductive FencePc where
  | idle
  | waiting (completions : List Nat)
  | clearing
  | terminating (sweep : Sweep)
  | abortInbound
  | returned
  deriving DecidableEq

/-! ## The Server -/

/-- Who holds the resolution lock of an address. -/
inductive Holder where
  | conn (id : Nat)
  | task (generation : Nat)
  deriving DecidableEq, Repr

/-- What a Server is built with: its router, its registered Actor Types with
their mailbox capacities, and its capacity. -/
structure RuntimeConfig where
  router : ClusterRouter
  mailboxCapacity : String → Option Nat
  maxActiveActors : Nat
  positive : ∀ actorType capacity, mailboxCapacity actorType = some capacity → 0 < capacity

structure Server where
  status : Status
  routes : ActorAddress → Option Route
  registry : SessionRegistry
  available : Nat
  nextGeneration : Nat
  nextOpening : Nat
  resolutions : ActorAddress → Option Holder
  conns : Nat → Conn
  tasks : Nat → Option ActorTask
  completions : Opening → Completion
  shutdown : ShutdownPc
  fence : FencePc

namespace Server

/-- A Server just built. -/
def fresh (config : RuntimeConfig) : Server where
  status := .running
  routes := fun _ => none
  registry := []
  available := config.maxActiveActors
  nextGeneration := 1
  nextOpening := 0
  resolutions := fun _ => none
  conns := fun _ => ⟨.unaccepted, false, false⟩
  tasks := fun _ => none
  completions := fun _ => .pending
  shutdown := .idle
  fence := .idle

def setConn (server : Server) (id : Nat) (pc : ConnPc) : Server :=
  { server with conns := Function.update server.conns id { server.conns id with pc := pc } }

def setTask (server : Server) (generation : Nat) (task : ActorTask) : Server :=
  { server with tasks := Function.update server.tasks generation (some task) }

def lock (server : Server) (address : ActorAddress) (holder : Holder) : Server :=
  { server with resolutions := Function.update server.resolutions address (some holder) }

def unlock (server : Server) (address : ActorAddress) : Server :=
  { server with resolutions := Function.update server.resolutions address none }

/-- Drop a reservation, if there is one. -/
def refund (server : Server) (reservation : Bool) : Server :=
  { server with available := if reservation then server.available + 1 else server.available }

/-- Answer the oneshot of an opening. -/
def complete (server : Server) (opening : Opening) (completion : Completion) : Server :=
  { server with completions := Function.update server.completions opening completion }

/-- Answer every opening among these messages. -/
def completeAll (server : Server) (completion : Completion) : List MailboxMessage → Server
  | [] => server
  | .sessionOpened opening :: rest => (server.complete opening completion).completeAll completion rest
  | _ :: rest => server.completeAll completion rest

/-- `remove_route`: only the route of this generation is removed. -/
def removeRoute (server : Server) (address : ActorAddress) (generation : Nat) : Server :=
  match server.routes address with
  | some route =>
      if route.generation = generation then
        { server with
          routes := Function.update server.routes address none
          available := server.available + 1 }
      else server
  | none => server

/-- Whether the route of this generation is in the actors map. -/
def isRouted (server : Server) (generation : Nat) : Bool :=
  match server.tasks generation with
  | some task => (server.routes task.address).any fun route => route.generation == generation
  | none => false

/-- The generations of the routes in the actors map. -/
def routed (server : Server) : List Nat :=
  (List.range server.nextGeneration).filter server.isRouted

end Server

end Coactor.Runtime
