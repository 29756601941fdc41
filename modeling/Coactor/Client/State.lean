import Coactor.Foundation.Channel
import Coactor.Client.OwnerResolution
import Coactor.Runtime.Core
import Coactor.Transport.Wire

/-!
# The state of one Client

The fields of `ClientInner`, the calls of `open` with the Sessions they return,
the receive loop of every Transport Connection, the calls of `Session::send` and
the call of `shutdown`.  As on a Server, a task stands at a program point and
every lock section and every atomic access is one step.  A call of `open` is
named by the Session ID it generates; the oneshot channel of each of its
attempts is named by a ticket.
-/

namespace Coactor.Client

open Coactor.Coordination
open Coactor.Foundation
open Coactor.Runtime
open Coactor.Transport

/-! ## Transport Connections -/

/-- `SESSION_RECEIVER_CAPACITY`. -/
def sessionReceiverCapacity : Nat := 64

/-- `TRANSPORT_CHANNEL_CAPACITY`. -/
def transportChannelCapacity : Nat := 1024

/-- What a Session receives: an Event, or an error. -/
inductive SessionItem where
  | ok (payload : List UInt8)
  | error (error : SendError)
  deriving DecidableEq, Repr

/-- An Envelope to a Server; a `SessionOpen` carries the ticket of its attempt,
which nothing reads. -/
structure Sent where
  ticket : Option Nat
  envelope : Envelope
  deriving DecidableEq

inductive InboundKind where
  | event (payload : List UInt8)
  | sessionError (failure : Int)
  | sessionOpenedAck (outcome : Option AckOutcome)
  | other
  deriving DecidableEq, Repr

/-- An Envelope from a Server; an identifier that does not parse is absent.  An
acknowledgement carries the ticket of the attempt it answers, which nothing
reads. -/
structure Inbound where
  ticket : Option Nat
  session : Option SessionId
  kind : Option InboundKind
  deriving DecidableEq

/-- Where the receive loop of a connection stands. -/
inductive LoopPc where
  | unspawned
  | receiving
  | delivering (session : SessionId) (item : SessionItem)
  | looking (session : SessionId) (item : SessionItem)
  | pushing (session : SessionId) (item : SessionItem)
  | acknowledging (answered : Option Nat) (session : SessionId) (result : Option SendError)
  | completing (answered : Option Nat) (ticket : Nat) (result : Option SendError)
  | closing
  | unpooling
  | poolLock (pool : Nat)
  | draining
  | zeroing (sessions : List SessionId)
  | ending (sessions : List SessionId)
  | failing (ticket : Nat) (rest : List SessionId)
  | terminating (session : SessionId) (rest : List SessionId)
  | ended
  deriving DecidableEq

structure TransportConnection where
  endpoint : String
  sender : Channel Sent
  sessions : List SessionId
  boundSessions : UInt64
  closed : Bool
  loop : LoopPc
  registered : Bool
  abortRequested : Bool
  deriving DecidableEq

/-! ## Calls of `open` -/

/-- An entry of `pending_opens`; its oneshot channel is the one of the ticket. -/
structure PendingOpen where
  connection : Nat
  ticket : Nat
  deriving DecidableEq, Repr

/-- The oneshot channel of an attempt; its sender can be dropped unsent. -/
inductive Oneshot where
  | waiting
  | sent (result : Option SendError)
  | dropped
  deriving DecidableEq, Repr

inductive OpenError where
  | runtimeStopped
  | directoryUnavailable
  | attemptsExhausted
  | remoteUnavailable
  | actorTypeNotRegistered
  | runtimeAtCapacity
  | ownershipUnavailable
  | remoteProtocol
  deriving DecidableEq, Repr

/-- `From<SendError> for OpenError`. -/
def OpenError.ofSendError : SendError → OpenError
  | .runtimeStopped | .runtimeShuttingDown => .runtimeStopped
  | .directoryUnavailable => .directoryUnavailable
  | .actorTypeNotRegistered _ => .actorTypeNotRegistered
  | .runtimeAtCapacity => .runtimeAtCapacity
  | .ownershipUnavailable => .ownershipUnavailable
  | .remoteProtocol _ => .remoteProtocol
  | _ => .remoteUnavailable

/-- Where an iteration connects to, with the live owner it resolved; without one
the attempt is a placement. -/
structure Target where
  endpoint : String
  liveOwner : Option (String × NodeSessionId)
  deriving DecidableEq

def Target.isPlacement (target : Target) : Bool := target.liveOwner.isNone

/-- What follows an `unbind` in `open`. -/
inductive AfterUnbind where
  | exhausted
  | retract (error : SendError)
  deriving DecidableEq, Repr

/-- Where a call of `open` stands, and after it the Session it returned. -/
inductive OpenPc where
  | resolving (program : OwnerProgram)
  | listing
  | pooling (target : Target)
  | poolLock (target : Target) (pool : Nat)
  | retaining (target : Target) (pool : Nat) (kept rest : List Nat)
  | connecting (target : Target) (pool : Nat)
  | choosing (target : Target) (pool : Nat) (best : Option (Nat × UInt64)) (rest : List Nat)
  | binding (target : Target) (pool connection : Nat)
  | counting (target : Target) (pool connection : Nat)
  | spawning (target : Target) (pool connection : Nat)
  | acquired (target : Target) (connection : Nat)
  | checking (target : Target) (connection ticket : Nat)
  | sending (target : Target) (connection ticket : Nat)
  | awaiting (target : Target) (connection ticket : Nat)
  | closeChecking (target : Target) (connection : Nat) (error : SendError)
  | closeSending (target : Target) (connection : Nat) (error : SendError)
  | unbinding (target : Target) (connection : Nat) (next : AfterUnbind)
  | uncounting (target : Target) (connection : Nat) (next : AfterUnbind)
  | retracting (target : Target) (error : SendError)
  | failing (error : OpenError)
  | unregistering (error : OpenError)
  | failed (error : OpenError)
  | abandoned
  | opened (connection : Nat)
  | dropUnregistering (connection : Nat)
  | dropUnbinding (connection : Nat)
  | dropUncounting (connection : Nat)
  | dropChecking (connection : Nat)
  | dropSending (connection : Nat)
  | dropped (connection : Nat)

/-- A call of `open`; `expired` says that its deadline has passed. -/
structure OpenCall where
  address : ActorAddress
  pc : OpenPc
  attempts : Nat
  excluded : List String
  failedLiveOwner : Option (String × NodeSessionId)
  expired : Bool

/-- Whether no call of `open` is in progress, only perhaps the Session it returned. -/
def OpenPc.hasReturned : OpenPc → Bool
  | .failed _ | .abandoned | .opened _ | .dropUnregistering _ | .dropUnbinding _
  | .dropUncounting _ | .dropChecking _ | .dropSending _ | .dropped _ => true
  | _ => false

/-! ## Calls of `send` and `shutdown` -/

inductive SendPc where
  | checking
  | sending
  | returned
  deriving DecidableEq, Repr

/-- A call of `Session::send`. -/
structure SendCall where
  session : SessionId
  payload : List UInt8
  pc : SendPc
  deriving DecidableEq

inductive ClientStatus where
  | running
  | stopped
  deriving DecidableEq, Repr

/-- Where the call of `shutdown` stands. -/
inductive ClientShutdownPc where
  | idle
  | collecting
  | pools (rest : List Nat)
  | closing (connections rest : List Nat)
  | aborting
  | clearing
  | snapshotting
  | unregistering (sessions : List SessionId)
  | terminating (sessions : List SessionId)
  | returned
  deriving DecidableEq

/-! ## The Client -/

structure PlacementCandidate where
  endpoint : String
  activeActorCount : Nat
  maxActorCount : Nat
  deriving DecidableEq, Repr

/-- What a Client is built with. -/
structure ClientConfig where
  maxOpenAttempts : Nat
  maxConnectionsPerEndpoint : Nat
  positiveAttempts : 0 < maxOpenAttempts
  positiveConnections : 0 < maxConnectionsPerEndpoint

/-- A result in the channel of a Session, with the connection it came from. -/
structure Received where
  source : Option Nat
  item : SessionItem
  deriving DecidableEq, Repr

structure ClientInner where
  status : ClientStatus
  receivers : List SessionId
  channels : SessionId → Channel Received
  pools : List (String × Nat)
  poolHolders : Nat → Bool
  poolConnections : Nat → List Nat
  nextPool : Nat
  pendingOpens : SessionId → Option PendingOpen
  oneshots : Nat → Oneshot
  nextTicket : Nat
  placementCache : Option (List PlacementCandidate)
  connections : Nat → Option TransportConnection
  nextConnection : Nat
  calls : SessionId → Option OpenCall
  begun : List SessionId
  sends : List SendCall
  shutdown : ClientShutdownPc

namespace ClientInner

/-- A Client just built. -/
def fresh : ClientInner where
  status := .running
  receivers := []
  channels := fun _ => ⟨sessionReceiverCapacity, [], false⟩
  pools := []
  poolHolders := fun _ => false
  poolConnections := fun _ => []
  nextPool := 0
  pendingOpens := fun _ => none
  oneshots := fun _ => .waiting
  nextTicket := 0
  placementCache := none
  connections := fun _ => none
  nextConnection := 1
  calls := fun _ => none
  begun := []
  sends := []
  shutdown := .idle

def setCall (client : ClientInner) (session : SessionId) (call : OpenCall) : ClientInner :=
  { client with calls := Function.update client.calls session (some call) }

/-- Change one connection, if there is one. -/
def modify (client : ClientInner) (connection : Nat)
    (change : TransportConnection → TransportConnection) : ClientInner :=
  { client with
    connections := Function.update client.connections connection
      ((client.connections connection).map change) }

/-- Drop the sender of a pending open, if there is one. -/
def dropSender (client : ClientInner) : Option PendingOpen → Nat → Oneshot
  | some pending => Function.update client.oneshots pending.ticket .dropped
  | none => client.oneshots

/-- Insert into or remove from `pending_opens`, and drop what was there. -/
def setPending (client : ClientInner) (session : SessionId) (pending : Option PendingOpen) :
    ClientInner :=
  { client with
    pendingOpens := Function.update client.pendingOpens session pending
    oneshots := client.dropSender (client.pendingOpens session) }

/-- Take an entry out of `pending_opens` with its sender. -/
def takePending (client : ClientInner) (session : SessionId) : ClientInner :=
  { client with pendingOpens := Function.update client.pendingOpens session none }

/-- The entry of a Session that names this connection. -/
def pendingOn (client : ClientInner) (session : SessionId) (connection : Nat) :
    Option PendingOpen :=
  (client.pendingOpens session).filter fun pending => pending.connection == connection

def setPoolHolder (client : ClientInner) (pool : Nat) (held : Bool) : ClientInner :=
  { client with poolHolders := Function.update client.poolHolders pool held }

def setPoolConnections (client : ClientInner) (pool : Nat) (connections : List Nat) :
    ClientInner :=
  { client with poolConnections := Function.update client.poolConnections pool connections }

/-- Send the result of an attempt into its oneshot channel. -/
def complete (client : ClientInner) (ticket : Nat) (result : Option SendError) : ClientInner :=
  { client with oneshots := Function.update client.oneshots ticket (.sent result) }

/-- `try_send` into the channel of a Session. -/
def offer (client : ClientInner) (session : SessionId) (received : Received) : ClientInner :=
  { client with
    channels := Function.update client.channels session
      ((client.channels session).offer received) }

/-- Drop the receiver of a Session. -/
def dropReceiver (client : ClientInner) (session : SessionId) : ClientInner :=
  { client with
    channels := Function.update client.channels session (client.channels session).close }

/-- `CallerRegistry::unregister_local`. -/
def unregisterLocal (client : ClientInner) (session : SessionId) : ClientInner :=
  { client with receivers := client.receivers.filter (· != session) }

/-- `CallerRegistry::terminate`. -/
def terminate (client : ClientInner) (session : SessionId) (received : Received) : ClientInner :=
  if session ∈ client.receivers then (client.unregisterLocal session).offer session received
  else client

/-- `TransportConnection::closed`; a connection that does not exist counts as closed. -/
def isClosed (client : ClientInner) (connection : Nat) : Bool :=
  (client.connections connection).all TransportConnection.closed

end ClientInner

end Coactor.Client
