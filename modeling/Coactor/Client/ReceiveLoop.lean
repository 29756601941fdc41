import Coactor.Client.State

/-!
# Receive loops

The task that `spawn_receive_loop` starts for a connection: it handles one
Envelope after the other, and when the connection is lost it marks it closed,
takes it out of its pool, and ends the Sessions that are bound to it.  It can be
aborted where it waits for an Envelope or for the lock of the pool.
-/

namespace Coactor.Client

open Coactor.Foundation
open Coactor.Runtime
open Coactor.Transport

/-- How a receive loop goes on. -/
inductive LoopEvent where
  | receive (inbound : Inbound)
  | lost
  | advance
  | abort
  deriving DecidableEq

/-- The result that an acknowledgement carries. -/
def ackResult : Option AckOutcome → Option SendError
  | some .ok => none
  | some (.failure code) => some (fromWire code)
  | none => some (.remoteProtocol .malformedMessage)

/-- Where `handle_envelope` stands after its first checks. -/
def Inbound.handle (inbound : Inbound) : LoopPc :=
  match inbound.kind, inbound.session with
  | some (.event payload), some session => .delivering session (.ok payload)
  | some (.sessionError failure), some session => .delivering session (.error (fromWire failure))
  | some (.sessionOpenedAck outcome), some session =>
      .acknowledging inbound.ticket session (ackResult outcome)
  | _, _ => .receiving

namespace ClientInner

/-- Put a receive loop at another program point. -/
def gotoLoop (client : ClientInner) (id : Nat) (pc : LoopPc) : ClientInner :=
  client.modify id fun connection => { connection with loop := pc }

/-- One step of the receive loop of a connection. -/
def loopStep? (client : ClientInner) (id : Nat) (connection : TransportConnection) :
    LoopPc → LoopEvent → Option ClientInner
  | .receiving, .receive inbound => some (client.gotoLoop id inbound.handle)
  | .receiving, .lost => some (client.gotoLoop id .closing)
  | .delivering session item, .advance =>
      if session ∈ connection.sessions then some (client.gotoLoop id (.looking session item))
      else some (client.gotoLoop id .receiving)
  | .looking session item, .advance =>
      if session ∈ client.receivers then some (client.gotoLoop id (.pushing session item))
      else some (client.gotoLoop id .receiving)
  | .pushing session item, .advance =>
      some ((client.offer session ⟨some id, item⟩).gotoLoop id .receiving)
  | .acknowledging answered session result, .advance =>
      match client.pendingOn session id with
      | some pending =>
          some ((client.takePending session).gotoLoop id
            (.completing answered pending.ticket result))
      | none => some (client.gotoLoop id .receiving)
  | .completing _ ticket result, .advance =>
      some ((client.complete ticket result).gotoLoop id .receiving)
  | .closing, .advance =>
      some (client.modify id fun connection =>
        { connection with closed := true, loop := .unpooling })
  | .unpooling, .advance =>
      match client.pools.lookup connection.endpoint with
      | some pool => some (client.gotoLoop id (.poolLock pool))
      | none => some (client.gotoLoop id .draining)
  | .poolLock pool, .advance =>
      if client.poolHolders pool then none
      else some ((client.setPoolConnections pool
        ((client.poolConnections pool).filter (· != id))).gotoLoop id .draining)
  | .draining, .advance =>
      some (client.modify id fun connection =>
        { connection with sessions := [], loop := .zeroing connection.sessions })
  | .zeroing sessions, .advance =>
      some (client.modify id fun connection =>
        { connection with boundSessions := 0, loop := .ending sessions })
  | .ending [], .advance => some (client.gotoLoop id .ended)
  | .ending (session :: rest), .advance =>
      match client.pendingOn session id with
      | some pending =>
          some ((client.takePending session).gotoLoop id (.failing pending.ticket rest))
      | none => some (client.gotoLoop id (.terminating session rest))
  | .failing ticket rest, .advance =>
      some ((client.complete ticket (some .remoteUnavailable)).gotoLoop id (.ending rest))
  | .terminating session rest, .advance =>
      some ((client.terminate session ⟨some id, .error .remoteUnavailable⟩).gotoLoop id
        (.ending rest))
  | .receiving, .abort =>
      if connection.abortRequested then some (client.gotoLoop id .ended) else none
  | .poolLock _, .abort =>
      if connection.abortRequested then some (client.gotoLoop id .ended) else none
  | _, _ => none

end ClientInner

end Coactor.Client
