import Coactor.Coordination.NodeSession
import Coactor.Runtime.State

/-!
# Dispatch and connection tasks

`dispatch_message` reads the Node authority, then the status, and then takes
the lock of the actors map, in three steps.  A connection task handles one
Envelope after the other.  While it handles a `SessionOpen` it owns the
resolution lock of the address from the start of `resolve` to the end of
`dispatch_message`.
-/

namespace Coactor.Runtime

open Coactor.Coordination

/-! ## `dispatch_message` -/

/-- How the section of `dispatch_message` under the actors lock ends.  The last
case is a panic of the consumer's constructor. -/
inductive DispatchEnd where
  | enqueued
  | failed (error : SendError)
  | panicked
  deriving DecidableEq, Repr

namespace Server

variable (config : RuntimeConfig)

/-- `spawn_actor` and the insertion of its route, with the permit already taken. -/
def spawn (server : Server) (address : ActorAddress) (message : MailboxMessage)
    (panics : Bool) : Server × DispatchEnd :=
  match config.mailboxCapacity address.actorType, panics with
  | some _, false =>
      ({ server with
          nextGeneration := server.nextGeneration + 1
          tasks := Function.update server.tasks server.nextGeneration
            (some ⟨address, .spawned, [message], false, false, false, false⟩)
          routes := Function.update server.routes address
            (some ⟨server.nextGeneration, .active⟩) }, .enqueued)
  | _, _ =>
      ({ server with
          nextGeneration := server.nextGeneration + 1
          available := server.available + 1 }, .panicked)

/-- Take the reservation or a permit, and spawn. -/
def activate (server : Server) (address : ActorAddress) (message : MailboxMessage)
    (reservation panics : Bool) : Server × DispatchEnd :=
  if reservation then server.spawn config address message panics
  else if 0 < server.available then
    { server with available := server.available - 1 }.spawn config address message panics
  else (server.completeAll (.sent none (some .runtimeAtCapacity)) [message],
    .failed .runtimeAtCapacity)

/-- The section of `dispatch_message` under the actors lock. -/
def dispatchActors (server : Server) (address : ActorAddress) (message : MailboxMessage)
    (reservation panics : Bool) : Server × DispatchEnd :=
  match server.routes address with
  | none => server.activate config address message reservation panics
  | some { state := .deactivating, .. } =>
      (server.refund reservation, .failed .actorDeactivating)
  | some { generation := generation, state := .active } =>
      match server.tasks generation with
      | some task =>
          if task.closed then
            (server.removeRoute address generation).activate config address message
              reservation panics
          else if task.mailbox.length < (config.mailboxCapacity address.actorType).getD 0 then
            ((server.setTask generation
              { task with mailbox := task.mailbox ++ [message] }).refund reservation, .enqueued)
          else
            ((server.completeAll (.sent none (some .mailboxFull)) [message]).refund reservation,
              .failed .mailboxFull)
      | none => (server.refund reservation, .failed .actorStopped)

/-- `dispatch_message_if_active`. -/
def dispatchIfActive (server : Server) (address : ActorAddress) (message : MailboxMessage) :
    Server :=
  match server.routes address with
  | some { generation := generation, state := .active } =>
      match server.tasks generation with
      | some task =>
          if task.closed then server
          else if task.mailbox.length < (config.mailboxCapacity address.actorType).getD 0 then
            server.setTask generation { task with mailbox := task.mailbox ++ [message] }
          else server
      | none => server
  | _ => server

/-- Whether the section under the actors lock goes on to spawn an actor. -/
def wouldSpawn (server : Server) (address : ActorAddress) : Bool :=
  match server.routes address with
  | none => true
  | some { state := .deactivating, .. } => false
  | some { generation := generation, state := .active } =>
      (server.tasks generation).any ActorTask.closed

/-- Whether the section under the actors lock reaches `spawn_actor`, and with it the
consumer's constructor. -/
def wouldActivate (server : Server) (address : ActorAddress) (reservation : Bool) : Bool :=
  match server.routes address with
  | none => reservation || decide (0 < server.available)
  | some _ => server.wouldSpawn address

end Server

/-- The error with which the status check of `dispatch_message` fails. -/
def Status.refusal : Status → Option SendError
  | .running => none
  | .shuttingDown => some .runtimeShuttingDown
  | .fenced => some .nodeFenced
  | .stopped => some .runtimeStopped

/-! ## Inbound Envelopes -/

inductive EnvelopeKind where
  | action (payload : List UInt8)
  | sessionOpen
  | sessionClose
  | other
  deriving DecidableEq, Repr

/-- An Envelope; an identifier that does not parse is absent. -/
structure Envelope where
  protocolVersion : Nat
  address : Option ActorAddress
  session : Option SessionId
  kind : Option EnvelopeKind
  deriving DecidableEq

/-- Where `dispatch_inbound` stands after its first checks. -/
def Envelope.inbound (envelope : Envelope) : ConnPc :=
  match envelope.kind, envelope.session, envelope.address with
  | some kind, some session, some address =>
      let versionOk := envelope.protocolVersion == transportProtocolVersion
      match kind with
      | .action payload =>
          if versionOk then .actionBound address session payload else .receiving
      | .sessionOpen =>
          if versionOk then .openLock address session
          else .openAck session (some (.remoteProtocol .versionMismatch))
      | .sessionClose => .closeBound address session
      | .other => .receiving
  | _, _, _ => .receiving

/-! ## Connection tasks -/

/-- How a connection task goes on.  `panics` says that the consumer's
constructor panics if it is called. -/
inductive ConnEvent where
  | accept
  | register
  | receive (envelope : Envelope)
  | disconnect
  | advance (panics : Bool)
  | reply (reply : RouterReply)
  | abort
  deriving DecidableEq

def AfterClose.pc : AfterClose → ConnPc
  | none => .receiving
  | some rest => .disconnecting rest

namespace Server

variable (config : RuntimeConfig)

/-- The effect of a router's reply on the capacity semaphore, and whether a
permit is reserved afterwards. -/
def capacityReply? (server : Server) (reserved : Bool) : RouterReply → Option (Server × Bool)
  | .permit granted =>
      if granted = decide (0 < server.available) then
        some ({ server with available := server.available - 1 }, granted)
      else none
  | .dropped => some (server.refund reserved, false)
  | _ => some (server, reserved)

/-- Go on after a reply to `resolve`. -/
def resolved (server : Server) (id : Nat) (address : ActorAddress) (session : SessionId)
    (reserved : Bool) : ClusterRouter.ResolveProgram → Server
  | .ret (.ok (.localOwner reservation)) =>
      server.setConn id (.openRegister address session reservation)
  | .ret (.ok .remote) =>
      (server.unlock address).setConn id (.openAck session (some .notOwner))
  | .ret (.error error) => (server.unlock address).setConn id (.openAck session (some error))
  | program => server.setConn id (.resolving address session program reserved)

/-- The start of `open_local_session`. -/
def openRegister (server : Server) (id : Nat) (address : ActorAddress) (session : SessionId)
    (reservation : Bool) : Server :=
  match config.mailboxCapacity address.actorType with
  | none => ((server.unlock address).refund reservation).setConn id
      (.openAck session (some (.actorTypeNotRegistered address.actorType)))
  | some _ =>
      let opening : Opening := ⟨address, session, server.nextOpening⟩
      match server.registry.registerActor ⟨opening, id⟩ with
      | none => ((server.unlock address).refund reservation).setConn id
          (.openAck session (some .actorStopped))
      | some registry =>
          { server with registry := registry, nextOpening := server.nextOpening + 1 }.setConn id
            (.openDispatch opening reservation .authority)

/-- One part of the `dispatch_message` of an opening. -/
def openDispatch (authorityValid : Bool) (server : Server) (id : Nat) (opening : Opening)
    (reservation panics : Bool) : DispatchStage → Server
  | .authority =>
      if authorityValid then server.setConn id (.openDispatch opening reservation .status)
      else ((server.unlock opening.address).refund reservation).setConn id
        (.openUnregister opening .nodeFenced)
  | .status =>
      match server.status.refusal with
      | none => server.setConn id (.openDispatch opening reservation .actors)
      | some error => ((server.unlock opening.address).refund reservation).setConn id
          (.openUnregister opening error)
  | .actors =>
      match server.dispatchActors config opening.address (.sessionOpened opening) reservation
        panics with
      | (server, .enqueued) => (server.unlock opening.address).setConn id (.openAwait opening)
      | (server, .failed error) =>
          (server.unlock opening.address).setConn id (.openUnregister opening error)
      | (server, .panicked) => (server.unlock opening.address).setConn id .ended

/-- One part of the `dispatch_message` of an Action. -/
def actionDispatch (authorityValid : Bool) (server : Server) (id : Nat) (address : ActorAddress)
    (session : SessionId) (payload : List UInt8) (panics : Bool) : DispatchStage → Server
  | .authority =>
      if authorityValid then server.setConn id (.actionDispatch address session payload .status)
      else server.setConn id .receiving
  | .status =>
      match server.status.refusal with
      | none => server.setConn id (.actionDispatch address session payload .actors)
      | some _ => server.setConn id .receiving
  | .actors =>
      match server.dispatchActors config address (.action session payload) false panics with
      | (server, .panicked) => server.setConn id .ended
      | (server, _) => server.setConn id .receiving

/-- Drop a connection task at an await point. -/
def abortConn? (server : Server) (id : Nat) : ConnPc → Option Server
  | .receiving => some (server.setConn id .ended)
  | .openLock _ _ => some (server.setConn id .ended)
  | .resolving address _ _ reserved =>
      some (((server.unlock address).refund reserved).setConn id .ended)
  | .openAwait _ => some (server.setConn id .ended)
  | _ => none

/-- One step of a connection task. -/
def connStep? (authorityValid : Bool) (server : Server) (id : Nat) :
    ConnPc → ConnEvent → Option Server
  | .unaccepted, .accept => some (server.setConn id .receiving)
  | .receiving, .receive envelope => some (server.setConn id envelope.inbound)
  | .receiving, .disconnect =>
      some (server.setConn id (.disconnecting (server.registry.bySender id)))
  | .openLock address session, .advance _ =>
      match server.resolutions address with
      | none => some ((server.lock address (.conn id)).setConn id
          (.resolving address session config.router.resolve false))
      | some _ => none
  | .resolving address session program reserved, .reply reply =>
      (program.resume? reply).bind fun next =>
        (server.capacityReply? reserved reply).map fun (server, reserved) =>
          server.resolved id address session reserved next
  | .openRegister address session reservation, .advance _ =>
      some (server.openRegister config id address session reservation)
  | .openDispatch opening reservation stage, .advance panics =>
      some (server.openDispatch config authorityValid id opening reservation panics stage)
  | .openUnregister opening error, .advance _ =>
      some ({ server with
        registry := server.registry.unregisterActor opening.address opening.session }.setConn id
          (.openAck opening.session (some error)))
  | .openAwait opening, .advance _ =>
      match server.completions opening with
      | .pending => none
      | .sent _ none => some (server.setConn id (.openAck opening.session none))
      | .sent _ (some error) => some (server.setConn id (.openUnregister opening error))
      | .dropped => some (server.setConn id (.openUnregister opening .actorStopped))
  | .openAck _ _, .advance _ => some (server.setConn id .receiving)
  | .actionBound address session payload, .advance _ =>
      if server.registry.isBoundTo address session id then
        some (server.setConn id (.actionSink address session payload))
      else some (server.setConn id .receiving)
  | .actionSink address session payload, .advance _ =>
      if server.registry.contains address session then
        some (server.setConn id (.actionDispatch address session payload .authority))
      else some (server.setConn id .receiving)
  | .actionDispatch address session payload stage, .advance panics =>
      some (server.actionDispatch config authorityValid id address session payload panics stage)
  | .closeBound address session, .advance _ =>
      if server.registry.isBoundTo address session id then
        some (server.setConn id (.closeUnregister address session none))
      else some (server.setConn id .receiving)
  | .closeUnregister address session after, .advance _ =>
      if server.registry.contains address session then
        some ({ server with registry := server.registry.unregisterActor address session }.setConn
          id (.closeDispatch address session after))
      else some (server.setConn id after.pc)
  | .closeDispatch address session after, .advance _ =>
      some ((server.dispatchIfActive config address (.sessionClosed session)).setConn id after.pc)
  | .disconnecting [], .advance _ => some (server.setConn id .ended)
  | .disconnecting ((address, session) :: rest), .advance _ =>
      some (server.setConn id (.closeUnregister address session (some rest)))
  | pc, .register =>
      match pc with
      | .unaccepted => none
      | _ => some { server with
          conns := Function.update server.conns id { server.conns id with registered := true } }
  | pc, .abort => if (server.conns id).abortRequested then server.abortConn? id pc else none
  | _, _ => none

end Server

end Coactor.Runtime
