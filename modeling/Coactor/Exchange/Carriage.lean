import Coactor.Exchange.Actions

/-!
# What one step does with Actions

An Action crosses the queue of its connection, the wire, the hand of a connection
task and a mailbox.  Every step lets a Session hand one over, passes one on to a
mailbox, or begins a callback, and what it does not move may be lost.
-/

namespace Coactor.Exchange

open Coactor.Client
open Coactor.Coordination
open Coactor.Foundation
open Coactor.Foundation.Transition
open Coactor.Runtime

variable {config : ExchangeConfig} {before after network : Network} {event : ExchangeEvent}
  {connection id generation : Nat} {session : SessionId}

/-! ## Readings -/

/-- The payload of an Action of this Session, whose callback has begun. -/
def handledPayload? (session : SessionId) (call : Nat × Nat × MailboxMessage) :
    Option (List UInt8) :=
  call.2.2.payloadOf? session

namespace Journal

/-- The Actions of a Session whose callbacks have begun, on any Server. -/
def handledOf (journal : Journal) (session : SessionId) : List (List UInt8) :=
  journal.calls.filterMap (handledPayload? session)

/-- The Actions that a Session has handed to its connection. -/
def sentOf (journal : Journal) (session : SessionId) : List (List UInt8) :=
  journal.sent.filterMap (sentPayload? session)

end Journal

namespace Network

/-- The Action of a Session in the hand of the connection task at the other end. -/
def inTask (network : Network) (connection : Nat) (session : SessionId) : List (List UInt8) :=
  (network.links connection).elim [] fun id =>
    ((network.servers id).conns connection).pc.payloadFor session

/-- The Actions of a Session between its connection and a mailbox. -/
def outbound (network : Network) (connection : Nat) (session : SessionId) : List (List UInt8) :=
  network.inTask connection session ++
    ((network.up connection).filterMap (Sent.payloadOf? session) ++
      network.client.outgoing connection session)

/-- The Actions of a Session that a task of a Server can still take. -/
def backlog (network : Network) (place : Nat × Nat) (session : SessionId) : List (List UInt8) :=
  (network.servers place.1).backlog place.2 session

theorem inTask_of_linked (linked : network.links connection = some id) :
    network.inTask connection session =
      ((network.servers id).conns connection).pc.payloadFor session := by
  rw [inTask, linked, Option.elim_some]

theorem inTask_of_same (links : after.links connection = before.links connection)
    (same : ∀ id, before.links connection = some id →
      ((after.servers id).conns connection).pc = ((before.servers id).conns connection).pc) :
    after.inTask connection session = before.inTask connection session := by
  rw [inTask, inTask, links]
  cases linked : before.links connection with
  | none => rfl
  | some id => rw [Option.elim_some, Option.elim_some, same id linked]

section

variable {server : Server}

/-- A step of a Server away from the task of this connection. -/
theorem inTask_of_server (links : after.links = before.links)
    (servers : after.servers = Function.update before.servers id server)
    (same : before.links connection = some id →
      (server.conns connection).pc = ((before.servers id).conns connection).pc) :
    after.inTask connection session = before.inTask connection session := by
  refine inTask_of_same (by rw [links]) fun other linked => ?_
  rw [servers]
  by_cases here : other = id
  · subst here
    rw [Function.update_self, same linked]
  · rw [Function.update_of_ne here]

/-- A step of a Server leaves the mailboxes of the others alone. -/
theorem backlog_of_server (servers : after.servers = Function.update before.servers id server)
    {place : Nat × Nat} (kept : place.1 = id →
      (server.backlog place.2 session).Sublist
        ((before.servers id).backlog place.2 session)) :
    (after.backlog place session).Sublist (before.backlog place session) := by
  rw [backlog, backlog, servers]
  by_cases here : place.1 = id
  · rw [here, Function.update_self]
    exact kept here
  · rw [Function.update_of_ne here]

theorem backlog_here (servers : after.servers = Function.update before.servers id server) :
    after.backlog (id, generation) session = server.backlog generation session := by
  rw [backlog, servers, Function.update_self]

end

end Network

/-! ## Whose Actions are under way -/

theorem action_of_payloadFor {pc : ConnPc} {payload : List UInt8}
    (member : payload ∈ pc.payloadFor session) :
    ∃ address, pc.action? = some (address, session, payload) := by
  rw [ConnPc.payloadFor, Option.mem_toList] at member
  obtain ⟨⟨address, own, content⟩, acts, same⟩ := Option.bind_eq_some_iff.mp member
  simp only at same
  split at same
  · rename_i mine
    cases same
    exact ⟨address, mine ▸ acts⟩
  · cases same

/-- What is under way on a connection is of a Session that posts to it. -/
theorem Posted.outbound (posted : Posted config network)
    (under : network.outbound connection session ≠ []) :
    ∃ address, network.Posts session connection address := by
  obtain ⟨payload, member⟩ := List.exists_mem_of_ne_nil _ under
  rcases List.mem_append.mp member with inTask | under
  · rw [Network.inTask] at inTask
    cases linked : network.links connection with
    | none =>
        rw [linked] at inTask
        cases inTask
    | some id =>
        rw [linked, Option.elim_some] at inTask
        obtain ⟨address, acts⟩ := action_of_payloadFor inTask
        exact ⟨address, posted.hand connection id address session payload linked acts⟩
  · rcases List.mem_append.mp under with wired | queued
    · obtain ⟨sent, waiting, acts⟩ := List.mem_filterMap.mp wired
      obtain ⟨address, -, posts⟩ := posted.wire connection sent waiting session payload acts
      exact ⟨address, posts⟩
    · obtain ⟨sent, waiting, acts⟩ := List.mem_filterMap.mp queued
      obtain ⟨address, -, posts⟩ := posted.queue connection sent waiting session payload acts
      exact ⟨address, posts⟩

/-- The Actions of one Session are under way on at most one connection. -/
theorem Posted.outbound_unique (posted : Posted config network) {other : Nat}
    (different : connection ≠ other) :
    network.outbound connection session = [] ∨ network.outbound other session = [] := by
  by_contra both
  rw [not_or] at both
  obtain ⟨address, posts⟩ := posted.outbound both.1
  obtain ⟨actor, again⟩ := posted.outbound both.2
  exact different (posts.unique again).1

theorem MailboxMessage.eq_of_payloadOf {message : MailboxMessage} {payload : List UInt8}
    (acts : message.payloadOf? session = some payload) : message = .action session payload := by
  cases message with
  | action own content =>
      obtain ⟨rfl, same⟩ := Option.ite_none_right_eq_some.mp acts
      rw [Option.some.inj same]
  | _ => cases acts

/-- A task that can still take an Action of a Session is of the Actor, and on the
Server, that the Session posts to. -/
theorem Posted.backlog (posted : Posted config network) (own : config.own session = true)
    (waits : network.backlog (id, generation) session ≠ []) :
    ∃ task connection, (network.servers id).tasks generation = some task ∧
      task.pc.mayExecute = true ∧ network.links connection = some id ∧
      network.Posts session connection task.address := by
  obtain ⟨payload, member⟩ := List.exists_mem_of_ne_nil _ waits
  rw [Network.backlog, Server.backlog] at member
  simp only at member
  cases found : (network.servers id).tasks generation with
  | none =>
      rw [found] at member
      cases member
  | some task =>
      rw [found, Option.elim_some] at member
      split at member
      · rename_i may
        obtain ⟨message, waiting, acts⟩ := List.mem_filterMap.mp member
        rw [MailboxMessage.eq_of_payloadOf acts] at waiting
        obtain ⟨connection, linked, posts⟩ := posted.mailbox id generation task.address session
          payload own ⟨task, found, rfl, waiting⟩
        exact ⟨task, connection, rfl, may, linked, posts⟩
      · cases member

/-! ## One step -/

/-- What one step does with the Actions of a Session. -/
inductive Carriage (before after : Network) (session : SessionId) : Prop where
  | hands (backlog : ∀ place, after.backlog place session = before.backlog place session)
      (handled : after.journal.handledOf session = before.journal.handledOf session)
      (outbound : ∀ connection, Conveys (before.outbound connection session)
        (before.journal.sentOf session) (after.outbound connection session)
        (after.journal.sentOf session))
  | gives {holder : Nat} {target : Nat × Nat} {given : List (List UInt8)}
      (sent : after.journal.sentOf session = before.journal.sentOf session)
      (handled : after.journal.handledOf session = before.journal.handledOf session)
      (left : (given ++ after.outbound holder session).Sublist (before.outbound holder session))
      (others : ∀ connection, connection ≠ holder →
        after.outbound connection session = before.outbound connection session)
      (entered : (after.backlog target session).Sublist (before.backlog target session ++ given))
      (elsewhere : ∀ place, place ≠ target →
        (after.backlog place session).Sublist (before.backlog place session))
  | takes {source : Nat × Nat} {taken : List (List UInt8)}
      (sent : after.journal.sentOf session = before.journal.sentOf session)
      (handled : after.journal.handledOf session = before.journal.handledOf session ++ taken)
      (outbound : ∀ connection,
        after.outbound connection session = before.outbound connection session)
      (first : (taken ++ after.backlog source session).Sublist (before.backlog source session))
      (elsewhere : ∀ place, place ≠ source →
        (after.backlog place session).Sublist (before.backlog place session))

/-- A step of the Client: the Action that it hands over comes last. -/
theorem carriage_of_client {clientEvent : ClientEvent}
    (move : ClientMove config.client before.client after.client clientEvent)
    (servers : after.servers = before.servers) (up : after.up = before.up)
    (inTask : ∀ connection, after.inTask connection session = before.inTask connection session)
    (calls : after.journal.calls = before.journal.calls)
    (sent : after.journal.sent = before.journal.sent ++ (sentBy before.client clientEvent).toList) :
    Carriage before after session := by
  refine .hands (fun place => by rw [Network.backlog, Network.backlog, servers])
    (by rw [Journal.handledOf, Journal.handledOf, calls]) fun connection => ?_
  obtain ⟨new, moved, recorded⟩ :=
    @ClientMove.outgoing config.client before.client after.client session connection _ move
  refine ⟨new, ?_, ?_⟩
  · simp only [Network.outbound, inTask, up, List.append_assoc]
    exact (moved.append_left _).append_left _
  · rw [Journal.sentOf, Journal.sentOf, sent, List.filterMap_append]
    exact recorded.append_left _

/-- A step that neither begins a callback nor moves an Action. -/
theorem carriage_of_same
    (outbound : ∀ connection, after.outbound connection session = before.outbound connection session)
    (backlog : ∀ place, after.backlog place session = before.backlog place session)
    (calls : after.journal.calls = before.journal.calls)
    (sent : after.journal.sent = before.journal.sent) : Carriage before after session := by
  refine .hands backlog (by rw [Journal.handledOf, Journal.handledOf, calls]) fun connection => ?_
  exact .of_eq (outbound connection) (by rw [Journal.sentOf, Journal.sentOf, sent])

theorem payloadFor_inbound {sent : Sent} :
    (sent.envelope.inbound.payloadFor session).Sublist (sent.payloadOf? session).toList := by
  cases acts : sent.envelope.inbound.action? with
  | none =>
      rw [ConnPc.payloadFor, acts]
      exact List.nil_sublist _
  | some action =>
      obtain ⟨address, own, payload⟩ := action
      rw [ConnPc.payloadFor, acts, Option.bind_some]
      by_cases mine : own = session
      · subst mine
        rw [if_pos rfl, (action_inbound acts).1]
      · rw [if_neg mine]
        exact List.nil_sublist _

section

variable {server : Server}

/-- The Server at the other end of a connection goes on with what it has in hand. -/
theorem carriage_of_conn {authorityValid : Bool} {connEvent : ConnEvent}
    (linked : before.links connection = some id)
    (stepped : (before.servers id).step? (config.runtime id) authorityValid
      (.conn connection connEvent) = some server)
    (silent : ((before.servers id).conns connection).pc = .receiving →
      (server.conns connection).pc.action? = none)
    (servers : after.servers = Function.update before.servers id server)
    (links : after.links = before.links) (up : after.up = before.up)
    (client : after.client = before.client) (calls : after.journal.calls = before.journal.calls)
    (sent : after.journal.sent = before.journal.sent) : Carriage before after session := by
  cases Server.step?_moves stepped with
  | conn control others move =>
      obtain ⟨target, given, left, entered, kept⟩ :=
        @ConnMove.backlog _ _ _ _ session _ _ move silent
      refine @Carriage.gives _ _ _ connection (id, target) given
        (by rw [Journal.sentOf, Journal.sentOf, sent])
        (by rw [Journal.handledOf, Journal.handledOf, calls]) ?_ (fun other different => ?_) ?_
        fun place different => ?_
      · rw [Network.outbound, Network.outbound, Network.inTask_of_linked linked,
          Network.inTask_of_linked (links ▸ linked), up, client, servers, Function.update_self,
          ← List.append_assoc]
        exact left.append_right _
      · rw [Network.outbound, Network.outbound, up, client,
          Network.inTask_of_server links servers fun _ => by rw [others other different]]
      · rw [Network.backlog_here servers]
        exact entered
      · refine Network.backlog_of_server servers fun here => kept place.2 fun same => ?_
        exact different (Prod.ext here same)

/-- It takes the next Action from the wire. -/
theorem carriage_of_receive {sent : Sent} {rest : List Sent}
    (linked : before.links connection = some id) (waiting : before.up connection = sent :: rest)
    (stepped : (before.servers id).step? (config.runtime id) true
      (.conn connection (.receive sent.envelope)) = some server)
    (here : ((before.servers id).conns connection).pc = .receiving)
    (there : (server.conns connection).pc = sent.envelope.inbound)
    (servers : after.servers = Function.update before.servers id server)
    (links : after.links = before.links)
    (up : after.up = Function.update before.up connection rest)
    (client : after.client = before.client) (journal : after.journal = before.journal) :
    Carriage before after session := by
  cases Server.step?_moves stepped with
  | conn control others move =>
      rw [here] at move
      have kept : ∀ place, (after.backlog place session).Sublist (before.backlog place session) := by
        intro place
        refine Network.backlog_of_server servers fun _ => ?_
        have same := @Server.backlog_of_tasks (before.servers id) server place.2 session
          (by rw [move.tasks_of_receiving])
        rw [same]
      refine @Carriage.gives _ _ _ connection (id, 0) [] (by rw [journal]) (by rw [journal]) ?_
        (fun other different => ?_) ?_ fun place _ => kept place
      · rw [Network.outbound, Network.outbound, Network.inTask_of_linked linked, here,
          Network.inTask_of_linked (links ▸ linked), up, client, servers, Function.update_self,
          Function.update_self, there, waiting, filterMap_first, List.append_assoc]
        exact payloadFor_inbound.append_right _
      · rw [Network.outbound, Network.outbound, up, client, Function.update_of_ne different,
          Network.inTask_of_server links servers fun _ => by rw [others other different]]
      · rw [List.append_nil]
        exact kept _

/-- A step of a Server that leaves alone what the Client has sent. -/
theorem carriage_of_server (posted : Posted config before) (own : config.own session = true)
    {authorityValid : Bool} {serverEvent : ServerEvent}
    (foreign : ∀ connection event', serverEvent = .conn connection event' →
      before.links connection ≠ some id)
    (stepped : (before.servers id).step? (config.runtime id) authorityValid serverEvent =
      some server)
    (servers : after.servers = Function.update before.servers id server)
    (links : after.links = before.links) (up : after.up = before.up)
    (client : after.client = before.client)
    (journal : after.journal =
      before.journal.recordServer id (before.servers id) server serverEvent) :
    Carriage before after session := by
  have moves := Server.step?_moves stepped
  have outbound : ∀ connection,
      after.outbound connection session = before.outbound connection session := by
    intro connection
    rw [Network.outbound, Network.outbound, up, client, Network.inTask_of_server links servers]
    exact fun leads => other_conn moves fun event' here => foreign connection event' here leads
  have sent : after.journal.sentOf session = before.journal.sentOf session := by rw [journal]; rfl
  have kept : (∀ generation, (server.backlog generation session).Sublist
        ((before.servers id).backlog generation session)) →
      begunBy (before.servers id) server serverEvent = none → Carriage before after session := by
    intro backlog none
    have kept : ∀ place, (after.backlog place session).Sublist (before.backlog place session) :=
      fun place => Network.backlog_of_server servers fun _ => backlog place.2
    refine @Carriage.takes _ _ _ (id, 0) [] sent ?_ outbound (kept _) fun place _ => kept place
    rw [journal, Journal.recordServer, none]
    exact (congrArg _ (List.append_nil _)).trans (List.append_nil _).symm
  cases moves with
  | @conn connection connEvent control others move =>
      refine kept (fun generation => ?_) rfl
      by_cases waits : ((before.servers id).conns connection).pc = .receiving
      · rw [waits] at move
        have same := @Server.backlog_of_tasks (before.servers id) server generation session
          (by rw [move.tasks_of_receiving])
        rw [same]
      · obtain ⟨target, given, left, entered, kept⟩ :=
          @ConnMove.backlog _ _ _ _ session _ _ move fun here => absurd here waits
        have none : ((before.servers id).conns connection).pc.payloadFor session = [] := by
          by_contra inHand
          obtain ⟨payload, member⟩ := List.exists_mem_of_ne_nil _ inHand
          obtain ⟨address, acts⟩ := action_of_payloadFor member
          cases own.symm.trans (posted.foreign connection id address session payload
            (foreign connection connEvent rfl) acts)
        rw [none, List.sublist_nil, List.append_eq_nil_iff] at left
        by_cases same : generation = target
        · rw [left.1, List.append_nil, ← same] at entered
          exact entered
        · exact kept generation same
  | @task generation taskEvent task later found effect move =>
      have elsewhere : ∀ place, place ≠ (id, generation) →
          (after.backlog place session).Sublist (before.backlog place session) := by
        intro place different
        refine Network.backlog_of_server servers fun here => ?_
        have same := @Server.backlog_of_tasks (before.servers id) server place.2 session (by
          rw [effect.tasks, Function.update_of_ne fun last => different (Prod.ext here last)])
        rw [same]
      rw [Journal.recordServer] at journal
      have there : server.tasks generation = some later := by
        rw [effect.tasks, Function.update_self]
      obtain ⟨address, pc, mailbox, closed, shutdownSignal, abortRequested, completed⟩ := later
      rcases @TaskMove.backlog _ _ _ session _ _ move found effect.tasks with
        ⟨message, draining, rfl, idle, front⟩ | ⟨idle, front⟩
      · refine @Carriage.takes _ _ _ (id, generation) (message.payloadOf? session).toList sent ?_
          outbound ?_ elsewhere
        · rw [journal, Journal.handledOf, Journal.handledOf, List.filterMap_append]
          simp [begunBy, found, there, idle, handledPayload?, filterMap_singleton]
        · rw [Network.backlog_here servers]
          exact front ▸ .refl _
      · have none : begunBy (before.servers id) server (.task generation taskEvent) = none := by
          cases pc with
          | executing => cases idle
          | _ => simp [begunBy, found, there]
        refine kept (fun last => ?_) none
        by_cases same : last = generation
        · exact same ▸ front
        · have same := @Server.backlog_of_tasks (before.servers id) server last session
            (by rw [effect.tasks, Function.update_of_ne same])
          rw [same]
  | shutdown effect | fence effect =>
      refine kept (fun generation => ?_) rfl
      rw [effect.backlog]

end

/-- Every step is one of the three kinds. -/
theorem NetworkMove.carriage (move : NetworkMove config before event after)
    (posted : Posted config before) (made : LinksMade before) (own : config.own session = true) :
    Carriage before after session := by
  cases move with
  | lookUp | report | relay | hangUp =>
      exact carriage_of_same (fun _ => rfl) (fun _ => rfl) rfl rfl
  | @deliver index delivery found =>
      obtain ⟨client, servers, links, up, -⟩ := before.delivered_aside delivery
      refine carriage_of_same (fun connection => ?_) (fun place => ?_) ?_ ?_
      · simp only [Network.outbound, Network.inTask, client, servers, links, up]
      · simp only [Network.backlog, servers]
      · unfold Network.delivered
        split <;> rfl
      · unfold Network.delivered
        split <;> rfl
  | client allowed move => exact carriage_of_client move rfl rfl (fun _ => rfl) rfl rfl
  | connect unaccepted move =>
      refine carriage_of_client move rfl rfl (fun connection => ?_) rfl (List.append_nil _).symm
      by_cases new : connection = before.client.nextConnection
      · subst new
        rw [Network.inTask_of_linked (Function.update_self _ _ _), unaccepted, Network.inTask]
        cases linked : before.links before.client.nextConnection with
        | none => rfl
        | some id => cases Nat.lt_irrefl _ (made _ id linked)
      · exact Network.inTask_of_same (Function.update_of_ne new _ _) fun _ _ => rfl
  | arrive waiting present here step =>
      exact @carriage_of_client config before _ session _ (.loop present step) rfl rfl
        (fun _ => rfl) rfl (List.append_nil _).symm
  | @transmit connection sent rest loop client found traffic move =>
      refine carriage_of_same (fun other => ?_) (fun _ => rfl) rfl rfl
      by_cases same : other = connection
      · subst same
        have left := ClientInner.queue_of_traffic found
        have kept := @ClientInner.queue_of_traffic client other rest loop
          (by rw [traffic, Function.update_self])
        simp only [Network.outbound, Function.update_self, ClientInner.outgoing, left, kept,
          filterMap_pass]
        rfl
      · have kept : client.queue other = before.client.queue other := by
          rw [ClientInner.queue, ClientInner.queue, traffic, Function.update_of_ne same]
        simp only [Network.outbound, Function.update_of_ne same, ClientInner.outgoing, kept]
        rfl
  | receive linked waiting stepped here there =>
      exact carriage_of_receive linked waiting stepped here there rfl rfl rfl rfl rfl
  | server allowed foreign stepped =>
      exact carriage_of_server posted own foreign stepped rfl rfl rfl rfl rfl
  | @conn id connection authorityValid connEvent server linked silent stepped =>
      refine carriage_of_conn linked stepped (fun waits => ?_) rfl rfl rfl rfl rfl rfl
      rcases action_of_receiving stepped waits with none | ⟨envelope, rfl, -⟩
      · exact none
      · exact absurd rfl (silent envelope)
  | answer linked stepped here there =>
      refine carriage_of_conn linked stepped (fun waits => ?_) rfl rfl rfl rfl rfl rfl
      cases here.symm.trans waits

end Coactor.Exchange
