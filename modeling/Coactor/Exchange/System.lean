import Coactor.Client.System
import Coactor.Runtime.Acknowledgement

/-!
# A Client and the Servers it reaches

One Client runs beside any number of Servers.  Each of its Transport Connections
leads to one Server and carries Envelopes in order: from the queue of the
sender over the wire to the receiver.  The Servers have other connections as
well, on which anything may arrive except the Session IDs that the Client
generates.  A journal records what the parties have done; no step reads it.
-/

namespace Coactor.Exchange

open Coactor.Client
open Coactor.Foundation
open Coactor.Foundation.Transition
open Coactor.Runtime
open Coactor.Transport

/-- An Envelope to the Client; an acknowledgement carries the ticket of the
attempt it answers, which nothing reads. -/
structure Replied where
  ticket : Option Nat
  outbound : Outbound
  deriving DecidableEq

/-- What the Client makes of an Envelope from a Server. -/
def Replied.inbound (replied : Replied) : Inbound :=
  match replied.outbound with
  | .sessionOpenedAck session none =>
      ⟨replied.ticket, some session, some (.sessionOpenedAck (some .ok))⟩
  | .sessionOpenedAck session (some error) =>
      ⟨replied.ticket, some session, some (.sessionOpenedAck (some (.failure (toWire error))))⟩
  | .event session payload => ⟨replied.ticket, some session, some (.event payload)⟩
  | .sessionError session error =>
      ⟨replied.ticket, some session, some (.sessionError (toWire error))⟩

/-- A call of `deliver_event` that has found its connection. -/
structure EventDelivery where
  server : Nat
  connection : Nat
  session : SessionId
  payload : List UInt8
  deriving DecidableEq

/-- An answer to a `SessionOpen` with the opening that was registered for it. -/
structure Answer where
  connection : Nat
  request : Option Sent
  opening : Option Opening
  failure : Option SendError
  deriving DecidableEq

/-- What has happened so far: the answers given on the Client's connections, the
callbacks that Servers began and those that returned normally, the pending
opens that acknowledgements completed, the Actions and the Events that entered
a connection, and what Sessions received. -/
structure Journal where
  answers : List Answer
  calls : List (Nat × Nat × MailboxMessage)
  returned : List (Nat × Nat × MailboxMessage)
  completed : List (Option Nat × Nat)
  sent : List (SessionId × List UInt8)
  delivered : List (Nat × SessionId × List UInt8)
  yielded : List (SessionId × Received)

structure Network where
  client : ClientInner
  servers : Nat → Server
  links : Nat → Option Nat
  up : Nat → List Sent
  handling : Nat → Option Sent
  requests : Nat → Option Opening
  queues : Nat → Channel Replied
  down : Nat → List Replied
  deliveries : List EventDelivery
  journal : Journal

/-- What the parties are built with; `own` tells the Session IDs that the Client
may generate. -/
structure ExchangeConfig where
  client : ClientConfig
  runtime : Nat → RuntimeConfig
  own : SessionId → Bool
  queueCapacity : Nat

/-! ## What the journal records -/

/-- The callback of which a step is the normal end. -/
def returnedBy (before : Server) : ServerEvent → Option (Nat × MailboxMessage)
  | .task generation (.returned true) =>
      match before.tasks generation with
      | some { pc := .executing message _, .. } => some (generation, message)
      | _ => none
  | _ => none

/-- The callback that a step begins. -/
def begunBy (before after : Server) : ServerEvent → Option (Nat × MailboxMessage)
  | .task generation _ =>
      match before.tasks generation, after.tasks generation with
      | some task, some { pc := .executing message _, .. } =>
          if task.pc.isExecuting then none else some (generation, message)
      | _, _ => none
  | _ => none

namespace Journal

def empty : Journal := ⟨[], [], [], [], [], [], []⟩

def recordClient (journal : Journal) (before after : ClientInner) (event : ClientEvent) :
    Journal :=
  { journal with
    completed := journal.completed ++ (completedBy before after event).toList
    sent := journal.sent ++ (sentBy before event).toList
    yielded := journal.yielded ++ (yieldedBy before event).toList }

def recordServer (journal : Journal) (id : Nat) (before after : Server) (event : ServerEvent) :
    Journal :=
  { journal with
    calls := journal.calls ++ (begunBy before after event).toList.map fun call => (id, call)
    returned := journal.returned ++ (returnedBy before event).toList.map fun call => (id, call) }

end Journal

/-! ## Steps -/

/-- One step: of the Client alone, of its connecting to a Server, of the
transport, of a Server, or of a call of `deliver_event`.  `report` stands for
the `SessionError`s of a Server, which are sent at any time. -/
inductive ExchangeEvent where
  | client (event : ClientEvent)
  | connect (session : SessionId) (server : Nat)
  | transmit (connection : Nat)
  | receive (connection : Nat)
  | server (id : Nat) (authorityValid : Bool) (event : ServerEvent)
  | lookUp (server : Nat) (address : ActorAddress) (session : SessionId) (payload : List UInt8)
  | deliver (index : Nat)
  | report (connection : Nat) (session : SessionId) (error : SendError)
  | relay (connection : Nat)
  | arrive (connection : Nat)
  | hangUp (connection : Nat)
  deriving DecidableEq

namespace Network

variable (config : ExchangeConfig)

def setServer (network : Network) (id : Nat) (server : Server) : Network :=
  { network with servers := Function.update network.servers id server }

/-- `try_send` into the queue of a connection, ignoring the answer. -/
def offer (network : Network) (connection : Nat) (replied : Replied) : Network :=
  { network with
    queues := Function.update network.queues connection
      ((network.queues connection).offer replied) }

/-- Steps of the Client alone; a Session ID it generates is one of its own. -/
def allowsClient : ClientEvent → Bool
  | .loop _ (.receive _) | .call _ .connected | .transmit _ => false
  | .begin session _ => config.own session
  | _ => true

def clientStep? (network : Network) (event : ClientEvent) : Option Network :=
  (network.client.step? config.client event).map fun client =>
    { network with
      client := client
      journal := network.journal.recordClient network.client client event }

/-- What a step of a Server's connection task sends on a connection of the Client. -/
def answered (network : Network) (connection : Nat) (before after : Server) : Network :=
  let request := requestAfter (network.requests connection) (before.conns connection).pc
    (after.conns connection).pc
  let network := { network with requests := Function.update network.requests connection request }
  match answerOf (before.conns connection).pc (after.conns connection).pc with
  | none => network
  | some (session, failure) =>
      let request := network.handling connection
      let network := network.offer connection
        ⟨request.bind Sent.ticket, .sessionOpenedAck session failure⟩
      { network with
        handling := Function.update network.handling connection none
        journal := { network.journal with
          answers := network.journal.answers ++
            [⟨connection, request, network.requests connection, failure⟩] } }

/-- Steps of a Server that the transport allows: on a connection of the Client
only the Client sends, and on others nobody knows its Session IDs. -/
def allowsServer (network : Network) (id : Nat) : ServerEvent → Bool
  | .conn connection (.receive envelope) =>
      network.links connection != some id && envelope.session.all fun session => !config.own session
  | _ => true

def serverStep? (network : Network) (id : Nat) (authorityValid : Bool) (event : ServerEvent) :
    Option Network :=
  ((network.servers id).step? (config.runtime id) authorityValid event).map fun after =>
    let next := { network.setServer id after with
      journal := network.journal.recordServer id (network.servers id) after event }
    match event with
    | .conn connection _ =>
        if network.links connection = some id then next.answered connection (network.servers id) after
        else next
    | _ => next

/-- The connection task of a Server takes the next Envelope from the wire. -/
def receive? (network : Network) (connection : Nat) : Option Network :=
  match network.links connection, network.up connection with
  | some id, sent :: rest =>
      (network.serverStep? config id true (.conn connection (.receive sent.envelope))).map
        fun next => { next with
          up := Function.update next.up connection rest
          handling := Function.update next.handling connection (some sent) }
  | _, _ => none

/-- The entry of a Session in the registry of a Server. -/
def sink (network : Network) (id : Nat) (address : ActorAddress) (session : SessionId) :
    Option SessionEntry :=
  (network.servers id).registry.lookup address session

/-- The second half of `deliver_event`. -/
def delivered (network : Network) (delivery : EventDelivery) : Network :=
  if network.links delivery.connection = some delivery.server then
    { network.offer delivery.connection ⟨none, .event delivery.session delivery.payload⟩ with
      journal := { network.journal with
        delivered := network.journal.delivered ++
          if (network.queues delivery.connection).accepts then
            [(delivery.connection, delivery.session, delivery.payload)]
          else [] } }
  else network

def step? (network : Network) : ExchangeEvent → Option Network
  | .client event => if allowsClient config event then network.clientStep? config event else none
  | .connect session server =>
      let connection := network.client.nextConnection
      match ((network.servers server).conns connection).pc with
      | .unaccepted =>
          (network.clientStep? config (.call session .connected)).map fun next =>
            { next with links := Function.update next.links connection (some server) }
      | _ => none
  | .transmit connection =>
      (network.client.connections connection).bind fun found =>
        found.sender.receive?.bind fun received =>
          (network.clientStep? config (.transmit connection)).map fun next =>
            { next with
              up := Function.update next.up connection (next.up connection ++ [received.1]) }
  | .receive connection => network.receive? config connection
  | .server id authorityValid event =>
      if network.allowsServer config id event then
        network.serverStep? config id authorityValid event
      else none
  | .lookUp server address session payload =>
      (network.sink server address session).map fun entry =>
        { network with
          deliveries := network.deliveries ++ [⟨server, entry.connection, session, payload⟩] }
  | .deliver index =>
      (network.deliveries[index]?).map fun delivery =>
        { network.delivered delivery with deliveries := network.deliveries.eraseIdx index }
  | .report connection session error =>
      some (network.offer connection ⟨none, .sessionError session error⟩)
  | .relay connection =>
      (network.queues connection).receive?.map fun received =>
        { network with
          queues := Function.update network.queues connection received.2
          down := Function.update network.down connection (network.down connection ++ [received.1]) }
  | .arrive connection =>
      match network.down connection with
      | replied :: rest =>
          (network.clientStep? config (.loop connection (.receive replied.inbound))).map fun next =>
            { next with down := Function.update next.down connection rest }
      | [] => none
  | .hangUp connection =>
      some { network with
        queues := Function.update network.queues connection (network.queues connection).close }

end Network

/-- A Client that has not connected yet, and Servers just built. -/
def Network.fresh (config : ExchangeConfig) : Network where
  client := .fresh
  servers := fun id => .fresh (config.runtime id)
  links := fun _ => none
  up := fun _ => []
  handling := fun _ => none
  requests := fun _ => none
  queues := fun _ => ⟨config.queueCapacity, [], false⟩
  down := fun _ => []
  deliveries := []
  journal := .empty

/-- Every interleaving of a Client, its Servers and the transport between them. -/
def exchangeSystem (config : ExchangeConfig) : System Network ExchangeEvent where
  initial := fun network => network = .fresh config
  step? := Network.step? config

end Coactor.Exchange
