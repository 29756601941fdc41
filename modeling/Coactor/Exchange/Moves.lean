import Coactor.Client.Pending
import Coactor.Exchange.System

/-!
# What one step of the exchange does

Every step is one of the Client, one of a Server, or one of the transport, and
is given here with the network it leads to.
-/

namespace Coactor.Exchange

open Coactor.Client
open Coactor.Foundation
open Coactor.Foundation.Transition
open Coactor.Runtime

variable {config : ExchangeConfig}

/-- What one step does. -/
inductive NetworkMove (config : ExchangeConfig) (before : Network) :
    ExchangeEvent → Network → Prop where
  | client {event : ClientEvent} {client : ClientInner}
      (allowed : Network.allowsClient config event = true)
      (move : ClientMove config.client before.client client event) :
      NetworkMove config before (.client event)
        { before with
          client := client
          journal := before.journal.recordClient before.client client event }
  | connect {session : SessionId} {server : Nat} {client : ClientInner}
      (unaccepted : ((before.servers server).conns before.client.nextConnection).pc = .unaccepted)
      (move : ClientMove config.client before.client client (.call session .connected)) :
      NetworkMove config before (.connect session server)
        { before with
          client := client
          links := Function.update before.links before.client.nextConnection (some server) }
  | transmit {connection : Nat} {sent : Sent} {rest : List Sent} {loop : LoopPc}
      {client : ClientInner}
      (found : before.client.traffic connection = some ⟨sent :: rest, loop⟩)
      (traffic : client.traffic =
        Function.update before.client.traffic connection (some ⟨rest, loop⟩))
      (move : ClientMove config.client before.client client (.transmit connection)) :
      NetworkMove config before (.transmit connection)
        { before with
          client := client
          up := Function.update before.up connection (before.up connection ++ [sent]) }
  | receive {connection id : Nat} {sent : Sent} {rest : List Sent} {server : Server}
      (linked : before.links connection = some id) (waiting : before.up connection = sent :: rest)
      (stepped : (before.servers id).step? (config.runtime id) true
        (.conn connection (.receive sent.envelope)) = some server)
      (here : ((before.servers id).conns connection).pc = .receiving)
      (there : (server.conns connection).pc = sent.envelope.inbound) :
      NetworkMove config before (.receive connection)
        { before with
          servers := Function.update before.servers id server
          requests := Function.update before.requests connection none
          up := Function.update before.up connection rest
          handling := Function.update before.handling connection (some sent) }
  | server {id : Nat} {authorityValid : Bool} {event : ServerEvent} {server : Server}
      (allowed : before.allowsServer config id event = true)
      (foreign : ∀ connection event', event = .conn connection event' →
        before.links connection ≠ some id)
      (stepped : (before.servers id).step? (config.runtime id) authorityValid event =
        some server) :
      NetworkMove config before (.server id authorityValid event)
        { before with
          servers := Function.update before.servers id server
          journal := before.journal.recordServer id (before.servers id) server event }
  | conn {id connection : Nat} {authorityValid : Bool} {event : ConnEvent} {server : Server}
      (linked : before.links connection = some id)
      (silent : ∀ envelope, event ≠ .receive envelope)
      (stepped : (before.servers id).step? (config.runtime id) authorityValid
        (.conn connection event) = some server)
      (unanswered : answerOf ((before.servers id).conns connection).pc
        (server.conns connection).pc = none) :
      NetworkMove config before (.server id authorityValid (.conn connection event))
        { before with
          servers := Function.update before.servers id server
          requests := Function.update before.requests connection
            (requestAfter (before.requests connection) ((before.servers id).conns connection).pc
              (server.conns connection).pc) }
  | answer {id connection : Nat} {authorityValid : Bool} {event : ConnEvent} {server : Server}
      {session : SessionId} {failure : Option SendError}
      (linked : before.links connection = some id)
      (stepped : (before.servers id).step? (config.runtime id) authorityValid
        (.conn connection event) = some server)
      (here : ((before.servers id).conns connection).pc = .openAck session failure)
      (there : (server.conns connection).pc = .receiving) :
      NetworkMove config before (.server id authorityValid (.conn connection event))
        { before with
          servers := Function.update before.servers id server
          queues := Function.update before.queues connection
            ((before.queues connection).offer
              ⟨(before.handling connection).bind Sent.ticket,
                .sessionOpenedAck session failure⟩)
          handling := Function.update before.handling connection none
          journal := { before.journal with
            answers := before.journal.answers ++
              [⟨connection, before.handling connection, before.requests connection, failure⟩] } }
  | lookUp {server : Nat} {address : ActorAddress} {session : SessionId} {payload : List UInt8}
      {entry : SessionEntry} (found : before.sink server address session = some entry) :
      NetworkMove config before (.lookUp server address session payload)
        { before with
          deliveries := before.deliveries ++ [⟨server, entry.connection, session, payload⟩] }
  | deliver {index : Nat} {delivery : EventDelivery}
      (found : before.deliveries[index]? = some delivery) :
      NetworkMove config before (.deliver index)
        { before.delivered delivery with deliveries := before.deliveries.eraseIdx index }
  | report {connection : Nat} {session : SessionId} {error : SendError} :
      NetworkMove config before (.report connection session error)
        (before.offer connection ⟨none, .sessionError session error⟩)
  | relay {connection : Nat} {replied : Replied} {rest : List Replied}
      (waiting : (before.queues connection).items = replied :: rest) :
      NetworkMove config before (.relay connection)
        { before with
          queues := Function.update before.queues connection
            { before.queues connection with items := rest }
          down := Function.update before.down connection (before.down connection ++ [replied]) }
  | arrive {connection : Nat} {replied : Replied} {rest : List Replied} {client : ClientInner}
      {found : TransportConnection} (waiting : before.down connection = replied :: rest)
      (present : before.client.connections connection = some found)
      (here : found.loop = .receiving)
      (step : LoopStep before.client client connection (.receive replied.inbound) found
        replied.inbound.handle) :
      NetworkMove config before (.arrive connection)
        { before with
          client := client
          down := Function.update before.down connection rest }
  | hangUp {connection : Nat} :
      NetworkMove config before (.hangUp connection)
        { before with
          queues := Function.update before.queues connection (before.queues connection).close }

namespace Network

variable {before after : Network}

theorem recordClient_call {journal : Journal} {client client' : ClientInner} {session : SessionId}
    {event : OpenEvent} : journal.recordClient client client' (.call session event) = journal := by
  simp [Journal.recordClient, completedBy, sentBy, yieldedBy]

theorem recordClient_transmit {journal : Journal} {client client' : ClientInner} {id : Nat} :
    journal.recordClient client client' (.transmit id) = journal := by
  simp [Journal.recordClient, completedBy, sentBy, yieldedBy]

theorem recordServer_conn {journal : Journal} {id connection : Nat} {server server' : Server}
    {event : ConnEvent} :
    journal.recordServer id server server' (.conn connection event) = journal := by
  simp [Journal.recordServer, begunBy, returnedBy]

theorem clientStep?_eq_some {event : ClientEvent}
    (stepped : before.clientStep? config event = some after) :
    ∃ client, before.client.step? config.client event = some client ∧
      after = { before with
        client := client
        journal := before.journal.recordClient before.client client event } := by
  obtain ⟨client, moved, rfl⟩ := Option.map_eq_some_iff.mp stepped
  exact ⟨client, moved, rfl⟩

theorem answerOf_eq_some {pc next : ConnPc} {session : SessionId} {failure : Option SendError}
    (answers : answerOf pc next = some (session, failure)) :
    pc = .openAck session failure ∧ next = .receiving := by
  unfold answerOf at answers
  split at answers
  · cases answers
    exact ⟨rfl, rfl⟩
  · cases answers

/-- An arriving Envelope is handled by a loop that waits for one. -/
theorem receive_loop {client client' : ClientInner} {id : Nat} {inbound : Inbound}
    (stepped : client.step? config.client (.loop id (.receive inbound)) = some client') :
    ∃ connection, client.connections id = some connection ∧ connection.loop = .receiving ∧
      LoopStep client client' id (.receive inbound) connection inbound.handle := by
  obtain ⟨connection, found, moved⟩ := Option.bind_eq_some_iff.mp stepped
  refine ⟨connection, found, ?_⟩
  cases here : connection.loop with
  | receiving =>
      rw [here] at moved
      cases moved
      exact ⟨rfl, ClientInner.loop_step found rfl rfl rfl rfl rfl rfl rfl rfl rfl rfl
        (.moves rfl rfl rfl rfl (here ▸ .receive inbound rfl))⟩
  | ending sessions =>
      rw [here] at moved
      cases sessions <;> cases moved
  | _ =>
      rw [here] at moved
      cases moved

/-- An Envelope is received by a connection task that waits for one. -/
theorem receive_conn {server after : Server} {runtime : RuntimeConfig} {connection : Nat}
    {envelope : Envelope}
    (stepped : server.step? runtime true (.conn connection (.receive envelope)) = some after) :
    (server.conns connection).pc = .receiving ∧
      (after.conns connection).pc = envelope.inbound := by
  simp only [Server.step?] at stepped
  cases here : (server.conns connection).pc with
  | receiving =>
      rw [here] at stepped
      cases stepped
      exact ⟨rfl, Server.setConn_pc⟩
  | disconnecting rest =>
      rw [here] at stepped
      cases rest <;> cases stepped
  | _ =>
      rw [here] at stepped
      cases stepped

theorem serverStep?_moves {id : Nat} {authorityValid : Bool} {event : ServerEvent}
    (allowed : before.allowsServer config id event = true)
    (stepped : before.serverStep? config id authorityValid event = some after) :
    NetworkMove config before (.server id authorityValid event) after := by
  obtain ⟨server, moved, rfl⟩ := Option.map_eq_some_iff.mp stepped
  cases event with
  | conn connection event =>
      by_cases linked : before.links connection = some id
      · have silent : ∀ envelope, event ≠ .receive envelope := by
          rintro envelope rfl
          simp [allowsServer, linked] at allowed
        simp only [linked, if_true, recordServer_conn, answered]
        cases answers : answerOf ((before.servers id).conns connection).pc
            (server.conns connection).pc with
        | none => exact .conn linked silent moved answers
        | some answer =>
            obtain ⟨here, there⟩ := answerOf_eq_some answers
            have kept : requestAfter (before.requests connection)
                ((before.servers id).conns connection).pc (server.conns connection).pc =
                  before.requests connection := by
              simp [here, there, requestAfter]
            simp only [kept, setServer, offer, Function.update_eq_self]
            exact .answer linked moved here there
      · have foreign : ∀ connection' event', ServerEvent.conn connection event =
            .conn connection' event' → before.links connection' ≠ some id := by
          rintro connection' event' ⟨⟩
          exact linked
        simp only [linked, if_false]
        exact .server allowed foreign moved
  | task generation event => exact .server allowed (by rintro connection event' ⟨⟩) moved
  | shutdown expired => exact .server allowed (by rintro connection event' ⟨⟩) moved
  | fence => exact .server allowed (by rintro connection event' ⟨⟩) moved

theorem receive?_moves {connection : Nat} (stepped : before.receive? config connection = some after) :
    NetworkMove config before (.receive connection) after := by
  unfold receive? at stepped
  split at stepped
  · rename_i id sent rest linked waiting
    obtain ⟨middle, moved, rfl⟩ := Option.map_eq_some_iff.mp stepped
    obtain ⟨server, received, rfl⟩ := Option.map_eq_some_iff.mp moved
    obtain ⟨here, there⟩ := receive_conn received
    simp only [linked, if_true, recordServer_conn, answered, here, answerOf, requestAfter]
    exact .receive linked waiting received here there
  · cases stepped

/-- Every step is one of the moves. -/
theorem step?_moves {event : ExchangeEvent}
    (stepped : (exchangeSystem config).step? before event = some after) :
    NetworkMove config before event after := by
  cases event with
  | client event =>
      obtain ⟨allowed, stepped⟩ := Option.ite_none_right_eq_some.mp stepped
      obtain ⟨client, moved, rfl⟩ := clientStep?_eq_some stepped
      exact .client allowed (ClientInner.step?_moves moved)
  | connect session server =>
      simp only [exchangeSystem, step?] at stepped
      split at stepped
      · rename_i unaccepted
        obtain ⟨middle, inner, rfl⟩ := Option.map_eq_some_iff.mp stepped
        obtain ⟨client, moved, rfl⟩ := clientStep?_eq_some inner
        simp only [recordClient_call]
        exact .connect unaccepted (ClientInner.step?_moves moved)
      · cases stepped
  | transmit connection =>
      obtain ⟨found, present, stepped⟩ := Option.bind_eq_some_iff.mp stepped
      obtain ⟨⟨sent, channel⟩, received, stepped⟩ := Option.bind_eq_some_iff.mp stepped
      obtain ⟨middle, inner, rfl⟩ := Option.map_eq_some_iff.mp stepped
      obtain ⟨client, moved, rfl⟩ := clientStep?_eq_some inner
      obtain ⟨rest, waiting, rfl⟩ := receive?_eq_some received
      have move := ClientInner.step?_moves moved
      have traffic := ClientInner.traffic_eq_some present
      rw [waiting] at traffic
      simp only [recordClient_transmit]
      cases move with
      | transmit head after =>
          rw [traffic, Option.some.injEq, Traffic.mk.injEq, List.cons.injEq] at head
          obtain ⟨⟨rfl, rfl⟩, rfl⟩ := head
          exact .transmit traffic after (ClientInner.step?_moves moved)
  | receive connection => exact receive?_moves stepped
  | server id authorityValid event =>
      obtain ⟨allowed, stepped⟩ := Option.ite_none_right_eq_some.mp stepped
      exact serverStep?_moves allowed stepped
  | lookUp server address session payload =>
      obtain ⟨entry, found, rfl⟩ := Option.map_eq_some_iff.mp stepped
      exact .lookUp found
  | deliver index =>
      obtain ⟨delivery, found, rfl⟩ := Option.map_eq_some_iff.mp stepped
      exact .deliver found
  | report connection session error =>
      obtain rfl := Option.some.inj stepped
      exact .report
  | relay connection =>
      obtain ⟨⟨replied, channel⟩, received, rfl⟩ := Option.map_eq_some_iff.mp stepped
      obtain ⟨rest, waiting, rfl⟩ := receive?_eq_some received
      exact .relay waiting
  | arrive connection =>
      simp only [exchangeSystem, step?] at stepped
      split at stepped
      · rename_i replied rest waiting
        obtain ⟨middle, inner, rfl⟩ := Option.map_eq_some_iff.mp stepped
        obtain ⟨client, moved, rfl⟩ := clientStep?_eq_some inner
        obtain ⟨found, present, here, step⟩ := receive_loop moved
        have silent : before.journal.recordClient before.client client
            (.loop connection (.receive replied.inbound)) = before.journal := by
          simp [Journal.recordClient, completedBy, sentBy, yieldedBy, present, here]
        simp only [silent]
        exact .arrive waiting present here step
      · cases stepped
  | hangUp connection =>
      obtain rfl := Option.some.inj stepped
      exact .hangUp

/-- What `deliver_event` does to the queues of the connections. -/
theorem delivered_queues (network : Network) (delivery : EventDelivery) :
    (network.delivered delivery).queues = network.queues ∨
      (network.delivered delivery).queues = Function.update network.queues delivery.connection
        ((network.queues delivery.connection).offer
          ⟨none, .event delivery.session delivery.payload⟩) := by
  unfold delivered
  split
  · exact .inr rfl
  · exact .inl rfl

/-- `deliver_event` touches nothing but queues and the journal. -/
theorem delivered_aside (network : Network) (delivery : EventDelivery) :
    (network.delivered delivery).client = network.client ∧
      (network.delivered delivery).servers = network.servers ∧
      (network.delivered delivery).links = network.links ∧
      (network.delivered delivery).up = network.up ∧
      (network.delivered delivery).handling = network.handling ∧
      (network.delivered delivery).requests = network.requests ∧
      (network.delivered delivery).down = network.down := by
  unfold delivered
  split <;> exact ⟨rfl, rfl, rfl, rfl, rfl, rfl, rfl⟩

/-! ## The Client in the exchange -/

/-- The step of the Client in a step of the exchange. -/
def clientEvent? (network : Network) : ExchangeEvent → Option ClientEvent
  | .client event => some event
  | .connect session _ => some (.call session .connected)
  | .transmit connection => some (.transmit connection)
  | .arrive connection =>
      (network.down connection).head?.map fun replied => .loop connection (.receive replied.inbound)
  | _ => none

/-- A step of the exchange is at most one step of the Client. -/
theorem step?_client {event : ExchangeEvent}
    (stepped : (exchangeSystem config).step? before event = some after) :
    (∃ clientEvent, before.clientEvent? event = some clientEvent ∧
      before.client.step? config.client clientEvent = some after.client) ∨
      (before.clientEvent? event = none ∧ after.client = before.client) := by
  have moves := step?_moves stepped
  cases event with
  | client event =>
      obtain ⟨allowed, stepped⟩ := Option.ite_none_right_eq_some.mp stepped
      obtain ⟨client, moved, rfl⟩ := clientStep?_eq_some stepped
      exact .inl ⟨event, rfl, moved⟩
  | connect session server =>
      simp only [exchangeSystem, step?] at stepped
      split at stepped
      · obtain ⟨middle, inner, rfl⟩ := Option.map_eq_some_iff.mp stepped
        obtain ⟨client, moved, rfl⟩ := clientStep?_eq_some inner
        exact .inl ⟨_, rfl, moved⟩
      · cases stepped
  | transmit connection =>
      obtain ⟨found, present, stepped⟩ := Option.bind_eq_some_iff.mp stepped
      obtain ⟨received, taken, stepped⟩ := Option.bind_eq_some_iff.mp stepped
      obtain ⟨middle, inner, rfl⟩ := Option.map_eq_some_iff.mp stepped
      obtain ⟨client, moved, rfl⟩ := clientStep?_eq_some inner
      exact .inl ⟨_, rfl, moved⟩
  | arrive connection =>
      simp only [exchangeSystem, step?] at stepped
      split at stepped
      · rename_i replied rest waiting
        obtain ⟨middle, inner, rfl⟩ := Option.map_eq_some_iff.mp stepped
        obtain ⟨client, moved, rfl⟩ := clientStep?_eq_some inner
        exact .inl ⟨_, by simp only [clientEvent?, waiting, List.head?_cons, Option.map_some], moved⟩
      · cases stepped
  | deliver index =>
      refine .inr ⟨rfl, ?_⟩
      cases moves with
      | deliver found => exact (delivered_aside before _).1
  | _ =>
      refine .inr ⟨rfl, ?_⟩
      cases moves <;> rfl

/-- A run of the exchange is a run of its Client. -/
theorem client_reachable {guard : Network → ExchangeEvent → Prop} {network : Network}
    (reach : (exchangeSystem config).ReachableWhile guard network) :
    (clientSystem config.client).Reachable network.client := by
  refine invariant_of_step
    (fun network : Network => (clientSystem config.client).Reachable network.client) ?_ ?_ reach
  · rintro _ rfl
    exact .start rfl
  · intro before event after earlier _ stepped
    rcases step?_client stepped with ⟨clientEvent, -, moved⟩ | ⟨-, same⟩
    · exact .step earlier trivial moved
    · exact same ▸ earlier

end Network

end Coactor.Exchange
