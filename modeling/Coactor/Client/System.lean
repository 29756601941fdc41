import Coactor.Client.Open
import Coactor.Client.ReceiveLoop
import Coactor.Foundation.Transition

/-!
# Sessions, shutdown, and the Client as a whole

`Session::send` and `Session::recv`, `Client::shutdown`, and all tasks of one
Client in any order.  `shutdown` takes the Client by value, so it never runs
beside a call of `open`, and the drop of a Session never runs beside its `send`.
-/

namespace Coactor.Client

open Coactor.Foundation
open Coactor.Foundation.Transition
open Coactor.Runtime

/-- One step of a Client: of `open`, of a receive loop, of the transport below
the sender of a connection, of `send` and `recv`, or of `shutdown`. -/
inductive ClientEvent where
  | begin (session : SessionId) (address : ActorAddress)
  | call (session : SessionId) (event : OpenEvent)
  | loop (connection : Nat) (event : LoopEvent)
  | transmit (connection : Nat)
  | hangUp (connection : Nat)
  | send (session : SessionId) (payload : List UInt8)
  | sending (index : Nat)
  | recv (session : SessionId)
  | shutdown
  deriving DecidableEq

namespace ClientInner

variable (config : ClientConfig)

/-- The start of `open`, with the Session ID it generates. -/
def begin? (client : ClientInner) (session : SessionId) (address : ActorAddress) :
    Option ClientInner :=
  match client.calls session, client.status with
  | none, .running =>
      some ({ client with
        receivers := client.receivers ++ [session]
        begun := client.begun ++ [session] }.setCall session
          ⟨address, .resolving resolveOwner, 0, [], none, false⟩)
  | _, _ => none

/-- The start of `Session::send`, up to the check of the status. -/
def send? (client : ClientInner) (session : SessionId) (payload : List UInt8) :
    Option ClientInner :=
  match client.calls session with
  | some { pc := .opened _, .. } =>
      some { client with
        sends := client.sends ++
          [⟨session, payload, if client.status = .running then .checking else .returned⟩] }
  | _ => none

def setSend (client : ClientInner) (index : Nat) (send : SendCall) : ClientInner :=
  { client with sends := client.sends.set index send }

/-- One step of a call of `Session::send` on a connection. -/
def sendStep? (client : ClientInner) (index : Nat) (send : SendCall) (address : ActorAddress)
    (connection : Nat) : Option ClientInner :=
  match send.pc with
  | .checking =>
      some (client.setSend index { send with
        pc := if client.isClosed connection then .returned else .sending })
  | .sending =>
      some ((client.offerTo connection
        ⟨none, envelopeAction address send.session send.payload⟩).setSend index
          { send with pc := .returned })
  | .returned => none

/-- The connection of a Session that `open` has returned. -/
def sessionOf (client : ClientInner) (session : SessionId) : Option (ActorAddress × Nat) :=
  match client.calls session with
  | some { pc := .opened connection, address := address, .. } => some (address, connection)
  | _ => none

/-- One step of `shutdown`. -/
def shutdownStep? (client : ClientInner) : ClientShutdownPc → Option ClientInner
  | .idle =>
      if client.begun.all fun session =>
          (client.calls session).all fun call => call.pc.hasReturned then
        some { client with status := .stopped, shutdown := .collecting }
      else none
  | .collecting =>
      some { client with pools := [], shutdown := .pools (client.pools.map Prod.snd) }
  | .pools [] => some { client with shutdown := .aborting }
  | .pools (pool :: rest) =>
      if client.poolHolders pool then none
      else some { client.setPoolConnections pool [] with
        shutdown := .closing (client.poolConnections pool) rest }
  | .closing [] rest => some { client with shutdown := .pools rest }
  | .closing (connection :: others) rest =>
      some { client.modify connection (fun connection =>
          if connection.closed then connection
          else { connection with closed := true, sender := connection.sender.close }) with
        shutdown := .closing others rest }
  | .aborting =>
      some { client with
        connections := fun id => (client.connections id).map fun connection =>
          if connection.registered then
            { connection with registered := false, abortRequested := true }
          else connection
        shutdown := .clearing }
  | .clearing => some { client with pendingOpens := fun _ => none, shutdown := .snapshotting }
  | .snapshotting => some { client with shutdown := .unregistering client.receivers }
  | .unregistering sessions => some { client with receivers := [], shutdown := .terminating sessions }
  | .terminating [] => some { client with shutdown := .returned }
  | .terminating (session :: rest) =>
      some { client.offer session ⟨none, .error .runtimeStopped⟩ with
        shutdown := .terminating rest }
  | .returned => none

/-- One step of a Client. -/
def step? (client : ClientInner) : ClientEvent → Option ClientInner
  | .begin session address => client.begin? session address
  | .call session event =>
      (client.calls session).bind fun call => client.openStep? config session call call.pc event
  | .loop id event =>
      (client.connections id).bind fun connection =>
        client.loopStep? id connection connection.loop event
  | .transmit id =>
      (client.connections id).bind fun connection =>
        connection.sender.receive?.map fun received =>
          client.modify id fun connection => { connection with sender := received.2 }
  | .hangUp id =>
      some (client.modify id fun connection =>
        { connection with sender := connection.sender.close })
  | .send session payload => client.send? session payload
  | .sending index =>
      (client.sends[index]?).bind fun send =>
        (client.sessionOf send.session).bind fun found =>
          client.sendStep? index send found.1 found.2
  | .recv session =>
      ((client.channels session).receive?).map fun received =>
        { client with channels := Function.update client.channels session received.2 }
  | .shutdown => client.shutdownStep? client.shutdown

end ClientInner

/-! ## What a step is seen to do -/

/-- The tickets of an acknowledgement and of the pending open it completes. -/
def completedBy (before after : ClientInner) : ClientEvent → Option (Option Nat × Nat)
  | .loop id _ =>
      match (before.connections id).map TransportConnection.loop,
        (after.connections id).map TransportConnection.loop with
      | some (.acknowledging answered _ _), some (.completing _ ticket _) => some (answered, ticket)
      | _, _ => none
  | _ => none

/-- The Action that a step hands to the sender of its connection. -/
def sentBy (before : ClientInner) : ClientEvent → Option (SessionId × List UInt8)
  | .sending index =>
      match before.sends[index]? with
      | some { session := session, payload := payload, pc := .sending } =>
          match before.sessionOf session with
          | some (_, connection) =>
              if (before.connections connection).any fun found => found.sender.accepts then
                some (session, payload)
              else none
          | none => none
      | _ => none
  | _ => none

/-- What a Session receives in a step. -/
def yieldedBy (before : ClientInner) : ClientEvent → Option (SessionId × Received)
  | .recv session => (before.channels session).receive?.map fun received => (session, received.1)
  | _ => none

/-- Every interleaving of the tasks of one Client. -/
def clientSystem (config : ClientConfig) : System ClientInner ClientEvent where
  initial := fun client => client = .fresh
  step? := ClientInner.step? config

end Coactor.Client
