import Coactor.Client.Results
import Coactor.Exchange.Moves

/-!
# What an acknowledgement stands for

A Server answers `Ok` only to a `SessionOpen` that the Client sent, after the
actor has returned from `on_session_opened`.  The journal keeps the answer and the
callback, so a Session that `open` has returned can be traced to both.
-/

namespace Coactor.Exchange

open Coactor.Client
open Coactor.Foundation
open Coactor.Foundation.Transition
open Coactor.Runtime

variable {config : ExchangeConfig} {before after network : Network} {event : ExchangeEvent}

/-! ## What is under way -/

theorem mem_update {Item : Type} {lists : Nat → List Item} {changed other : Nat}
    {items : List Item} {item : Item} (member : item ∈ Function.update lists changed items other) :
    (other = changed ∧ item ∈ items) ∨ item ∈ lists other := by
  by_cases same : other = changed
  · subst same
    rw [Function.update_self] at member
    exact .inl ⟨rfl, member⟩
  · rw [Function.update_of_ne same] at member
    exact .inr member

theorem update_eq_some {Item : Type} {values : Nat → Option Item} {changed other : Nat}
    {value : Option Item} {item : Item} (found : Function.update values changed value other = some item) :
    (other = changed ∧ value = some item) ∨ values other = some item := by
  by_cases same : other = changed
  · subst same
    rw [Function.update_self] at found
    exact .inl ⟨rfl, found⟩
  · rw [Function.update_of_ne same] at found
    exact .inr found

namespace NetworkMove

variable {connection : Nat} {sent : Sent} {replied : Replied}

/-- What is on the wire to a Server comes from the sender's queue. -/
theorem up_origin (move : NetworkMove config before event after)
    (member : sent ∈ after.up connection) :
    sent ∈ before.up connection ∨
      ∃ traffic, before.client.traffic connection = some traffic ∧ sent ∈ traffic.queue := by
  cases move with
  | transmit found =>
      rcases mem_update member with ⟨rfl, sent'⟩ | earlier
      · refine (List.mem_append.mp sent').imp_right fun last => ⟨_, found, ?_⟩
        rw [List.mem_singleton.mp last]
        exact List.mem_cons_self
      · exact .inl earlier
  | receive linked waiting =>
      rcases mem_update member with ⟨rfl, rest⟩ | earlier
      · rw [waiting]
        exact .inl (.tail _ rest)
      · exact .inl earlier
  | @deliver index delivery found =>
      simp only [(before.delivered_aside delivery).2.2.2.1] at member
      exact .inl member
  | _ => exact .inl member

/-- What a Server's connection task handles comes from the wire. -/
theorem handling_origin (move : NetworkMove config before event after)
    (held : after.handling connection = some sent) :
    before.handling connection = some sent ∨ sent ∈ before.up connection := by
  cases move with
  | receive linked waiting =>
      rcases update_eq_some held with ⟨rfl, first⟩ | earlier
      · cases first
        rw [waiting]
        exact .inr List.mem_cons_self
      · exact .inl earlier
  | answer =>
      rcases update_eq_some held with ⟨-, ⟨⟩⟩ | earlier
      exact .inl earlier
  | @deliver index delivery found =>
      simp only [(before.delivered_aside delivery).2.2.2.2.1] at held
      exact .inl held
  | _ => exact .inl held

/-- An answer is to what the connection task has in hand. -/
theorem answers_origin (move : NetworkMove config before event after) {answer : Answer}
    (member : answer ∈ after.journal.answers) :
    answer ∈ before.journal.answers ∨
      answer.request = before.handling answer.connection := by
  cases move with
  | answer =>
      refine (List.mem_append.mp member).imp_right fun last => ?_
      rw [List.mem_singleton.mp last]
  | @deliver index delivery found =>
      refine .inl ?_
      unfold Network.delivered at member
      split at member <;> exact member
  | _ => exact .inl member

theorem items_offer {channel : Channel Replied} {item new : Replied}
    (member : item ∈ (channel.offer new).items) : item ∈ channel.items ∨ item = new := by
  cases accepts : channel.accepts with
  | true =>
      rw [Channel.offer_of_accepts accepts] at member
      exact (List.mem_append.mp member).imp_right List.mem_singleton.mp
  | false =>
      rw [Channel.offer_of_refuses accepts] at member
      exact .inl member

/-- An acknowledgement in the queue of a Server's sender has been there before, or
answers what the connection task has in hand. -/
theorem queues_origin (move : NetworkMove config before event after) {session : SessionId}
    {failure : Option SendError} (member : replied ∈ (after.queues connection).items)
    (acknowledges : replied.outbound = .sessionOpenedAck session failure) :
    replied ∈ (before.queues connection).items ∨
      ∃ id, before.links connection = some id ∧
        ((before.servers id).conns connection).pc = .openAck session failure ∧
        replied.ticket = (before.handling connection).bind Sent.ticket ∧
        ⟨connection, before.handling connection, before.requests connection, failure⟩ ∈
          after.journal.answers := by
  have offered : ∀ {other : Nat} {new : Replied},
      replied ∈ (Function.update before.queues other ((before.queues other).offer new)
        connection).items →
      replied ∈ (before.queues connection).items ∨ (connection = other ∧ replied = new) := by
    intro other new member
    by_cases same : connection = other
    · subst same
      rw [Function.update_self] at member
      exact (items_offer member).imp_right fun last => ⟨rfl, last⟩
    · rw [Function.update_of_ne same] at member
      exact .inl member
  cases move with
  | @answer id other authorityValid event server own result linked stepped here =>
      rcases offered member with earlier | ⟨rfl, rfl⟩
      · exact .inl earlier
      · cases acknowledges
        exact .inr ⟨id, linked, here, rfl, List.mem_append_right _ (List.mem_singleton_self _)⟩
  | report =>
      rcases offered member with earlier | ⟨-, rfl⟩
      · exact .inl earlier
      · cases acknowledges
  | @deliver index delivery found =>
      rcases before.delivered_queues delivery with same | queues
      · simp only [same] at member
        exact .inl member
      · simp only [queues] at member
        rcases offered member with earlier | ⟨-, rfl⟩
        · exact .inl earlier
        · cases acknowledges
  | @relay other first rest waiting =>
      by_cases same : connection = other
      · subst same
        simp only [Function.update_self] at member
        rw [waiting]
        exact .inl (.tail _ member)
      · simp only [Function.update_of_ne same] at member
        exact .inl member
  | @hangUp other =>
      by_cases same : connection = other
      · subst same
        simp only [Function.update_self, Channel.close] at member
        exact .inl member
      · simp only [Function.update_of_ne same] at member
        exact .inl member
  | _ => exact .inl member

/-- What is on the wire to the Client comes from the queue of a Server's sender. -/
theorem down_origin (move : NetworkMove config before event after)
    (member : replied ∈ after.down connection) :
    replied ∈ before.down connection ∨ replied ∈ (before.queues connection).items := by
  cases move with
  | relay waiting =>
      rcases mem_update member with ⟨rfl, relayed⟩ | earlier
      · refine (List.mem_append.mp relayed).imp_right fun last => ?_
        rw [List.mem_singleton.mp last, waiting]
        exact List.mem_cons_self
      · exact .inl earlier
  | arrive waiting =>
      rcases mem_update member with ⟨rfl, rest⟩ | earlier
      · rw [waiting]
        exact .inl (.tail _ rest)
      · exact .inl earlier
  | @deliver index delivery found =>
      simp only [(before.delivered_aside delivery).2.2.2.2.2.2] at member
      exact .inl member
  | _ => exact .inl member

end NetworkMove

/-! ## What only grows -/

/-- A callback that a Server's actor has returned from. -/
def Journal.Returned (journal : Journal) (server : Nat) (opening : Opening) : Prop :=
  ∃ generation, (server, generation, .sessionOpened opening) ∈ journal.returned

/-- The Server at the other end of a connection has handled a `SessionOpen` for
the Actor and the Session of a call, the actor has returned from
`on_session_opened`, and the answer was `Ok`. -/
def Network.Vouched (network : Network) (connection : Nat) (session : SessionId) : Prop :=
  ∃ call server ticket serial, network.client.calls session = some call ∧
    network.links connection = some server ∧
    ⟨connection, some ⟨ticket, envelopeSessionOpen call.address session⟩,
      some ⟨call.address, session, serial⟩, none⟩ ∈ network.journal.answers ∧
    network.journal.Returned server ⟨call.address, session, serial⟩

/-- What is never taken back. -/
structure Grows (before after : Network) : Prop where
  calls : ∀ session call, before.client.calls session = some call →
    ∃ next, after.client.calls session = some next ∧ next.address = call.address
  links : ∀ connection id, before.links connection = some id → after.links connection = some id
  answers : before.journal.answers ⊆ after.journal.answers
  returned : before.journal.returned ⊆ after.journal.returned

theorem Grows.vouched (grows : Grows before after) {connection : Nat} {session : SessionId}
    (vouched : before.Vouched connection session) : after.Vouched connection session := by
  obtain ⟨call, server, ticket, serial, found, linked, answered, generation, returned⟩ := vouched
  obtain ⟨next, known, address⟩ := grows.calls session call found
  refine ⟨next, server, ticket, serial, known, grows.links _ _ linked, ?_, generation, ?_⟩
  · rw [address]
    exact grows.answers answered
  · rw [address]
    exact grows.returned returned

/-- The step of the Client in a step of the exchange; what its receive loops
receive comes from the wire. -/
theorem NetworkMove.client_move (move : NetworkMove config before event after) :
    (∃ clientEvent, ClientMove config.client before.client after.client clientEvent ∧
      ∀ id inbound, clientEvent = .loop id (.receive inbound) →
        ∃ replied rest, before.down id = replied :: rest ∧ inbound = replied.inbound) ∨
      after.client = before.client := by
  cases move with
  | @client event client allowed move =>
      refine .inl ⟨event, move, ?_⟩
      rintro id inbound rfl
      cases allowed
  | connect unaccepted move => exact .inl ⟨_, move, by rintro id inbound ⟨⟩⟩
  | transmit found traffic move => exact .inl ⟨_, move, by rintro id inbound ⟨⟩⟩
  | arrive waiting present here step =>
      refine .inl ⟨_, .loop present step, ?_⟩
      rintro id inbound ⟨⟩
      exact ⟨_, _, waiting, rfl⟩
  | deliver found => exact .inr (before.delivered_aside _).1
  | _ => exact .inr rfl

/-- A step links at most the next connection of the Client. -/
theorem Network.step?_links (stepped : (exchangeSystem config).step? before event = some after) :
    after.links = before.links ∨
      ∃ server, after.links =
          Function.update before.links before.client.nextConnection (some server) ∧
        ((before.servers server).conns before.client.nextConnection).pc = .unaccepted ∧
        after.servers = before.servers ∧ after.journal = before.journal ∧
        after.client.nextConnection = before.client.nextConnection + 1 := by
  have moves := Network.step?_moves stepped
  cases event with
  | connect session server =>
      simp only [exchangeSystem, Network.step?] at stepped
      split at stepped
      · rename_i unaccepted
        obtain ⟨middle, inner, rfl⟩ := Option.map_eq_some_iff.mp stepped
        obtain ⟨client, moved, rfl⟩ := Network.clientStep?_eq_some inner
        exact .inr ⟨server, rfl, unaccepted, rfl, Network.recordClient_call,
          ClientInner.step?_connected moved⟩
      · cases stepped
  | deliver index =>
      cases moves with
      | deliver found => exact .inl (before.delivered_aside _).2.2.1
  | _ => cases moves <;> exact .inl rfl

/-- Only connections that the Client has made are linked. -/
def LinksMade (network : Network) : Prop :=
  ∀ connection id, network.links connection = some id → connection < network.client.nextConnection

theorem linksMade_of_reachable (reach : (exchangeSystem config).Reachable network) :
    LinksMade network := by
  refine invariant_of_step LinksMade ?_ ?_ reach
  · rintro _ rfl connection id ⟨⟩
  · intro before event after made _ stepped connection id linked
    have later : before.client.nextConnection ≤ after.client.nextConnection := by
      rcases (Network.step?_moves stepped).client_move with ⟨clientEvent, move, -⟩ | same
      · exact move.nextConnection_le
      · exact Nat.le_of_eq (congrArg _ same.symm)
    rcases Network.step?_links stepped with same | ⟨server, updated, -, -, -, next⟩
    · exact Nat.lt_of_lt_of_le (made connection id (same ▸ linked)) later
    · rw [updated] at linked
      by_cases own : connection = before.client.nextConnection
      · rw [own, next]
        exact Nat.lt_succ_self _
      · rw [Function.update_of_ne own] at linked
        exact Nat.lt_of_lt_of_le (made connection id linked) later

theorem NetworkMove.journal_grows (move : NetworkMove config before event after) :
    before.journal.answers ⊆ after.journal.answers ∧
      before.journal.returned ⊆ after.journal.returned := by
  cases move with
  | client | connect | transmit | receive | conn | lookUp | report | relay | arrive | hangUp =>
      exact ⟨List.Subset.refl _, List.Subset.refl _⟩
  | server => exact ⟨List.Subset.refl _, List.subset_append_left _ _⟩
  | answer => exact ⟨List.subset_append_left _ _, List.Subset.refl _⟩
  | deliver found =>
      unfold Network.delivered
      split <;> exact ⟨List.Subset.refl _, List.Subset.refl _⟩

theorem grows_of_step (made : LinksMade before)
    (stepped : (exchangeSystem config).step? before event = some after) : Grows before after where
  calls session call found := by
    rcases (Network.step?_moves stepped).client_move with ⟨clientEvent, move, -⟩ | same
    · exact move.known found
    · exact ⟨call, same ▸ found, rfl⟩
  links connection id linked := by
    rcases Network.step?_links stepped with same | ⟨server, updated, -⟩
    · exact same ▸ linked
    · rw [updated, Function.update_of_ne]
      · exact linked
      · exact Nat.ne_of_lt (made connection id linked)
  answers := (Network.step?_moves stepped).journal_grows.1
  returned := (Network.step?_moves stepped).journal_grows.2

/-! ## Messages of the Client -/

/-- A message of a call that has begun; a `SessionOpen` is for the call's Actor. -/
def FromCall (client : ClientInner) (sent : Sent) : Prop :=
  ∃ session call, client.calls session = some call ∧ sent.envelope.session = some session ∧
    (sent.envelope.kind = some .sessionOpen →
      sent.envelope = envelopeSessionOpen call.address session)

theorem Grows.fromCall (grows : Grows before after) {sent : Sent}
    (fromCall : FromCall before.client sent) : FromCall after.client sent := by
  obtain ⟨session, call, found, named, opens⟩ := fromCall
  obtain ⟨next, known, address⟩ := grows.calls session call found
  exact ⟨session, next, known, named, fun kind => address ▸ opens kind⟩

theorem fromCall_of_hands {client : ClientInner} {id : Nat} {sent : Sent}
    (hands : client.Hands id sent) : FromCall client sent := by
  cases hands with
  | @opens session call ticket found awaiting same =>
      subst same
      exact ⟨session, call, found, rfl, fun _ => rfl⟩
  | @other session call found named kind =>
      exact ⟨session, call, found, named, fun opens => absurd opens kind⟩

/-- Everything under way to a Server, or answered by one, is a message of a call. -/
structure Sourced (network : Network) : Prop where
  queue : ∀ connection traffic, network.client.traffic connection = some traffic →
    ∀ sent ∈ traffic.queue, FromCall network.client sent
  wire : ∀ connection, ∀ sent ∈ network.up connection, FromCall network.client sent
  hand : ∀ connection sent, network.handling connection = some sent →
    FromCall network.client sent
  answers : ∀ answer ∈ network.journal.answers, ∀ sent, answer.request = some sent →
    FromCall network.client sent

namespace Sourced

theorem fresh : Sourced (.fresh config) where
  queue := by rintro connection traffic ⟨⟩
  wire := by rintro connection sent ⟨⟩
  hand := by rintro connection sent ⟨⟩
  answers := by rintro answer ⟨⟩

/-- The queues of the senders. -/
theorem queued (sourced : Sourced before) (grows : Grows before after)
    (move : NetworkMove config before event after) {connection : Nat} {traffic : Traffic}
    {sent : Sent} (present : after.client.traffic connection = some traffic)
    (member : sent ∈ traffic.queue) : FromCall after.client sent := by
  rcases move.client_move with ⟨clientEvent, move, -⟩ | same
  · rcases move.queue_origin present member with ⟨old, known, waited⟩ | hands
    · exact grows.fromCall (sourced.queue connection old known sent waited)
    · exact fromCall_of_hands hands
  · rw [same] at present
    exact grows.fromCall (sourced.queue connection traffic present sent member)

theorem step (sourced : Sourced before) (grows : Grows before after)
    (move : NetworkMove config before event after) : Sourced after where
  queue _ _ present _ member := sourced.queued grows move present member
  wire connection sent member := by
    rcases move.up_origin member with earlier | ⟨traffic, present, waited⟩
    · exact grows.fromCall (sourced.wire connection sent earlier)
    · exact grows.fromCall (sourced.queue connection traffic present sent waited)
  hand connection sent held := by
    rcases move.handling_origin held with earlier | received
    · exact grows.fromCall (sourced.hand connection sent earlier)
    · exact grows.fromCall (sourced.wire connection sent received)
  answers answer member sent request := by
    rcases move.answers_origin member with earlier | handled
    · exact grows.fromCall (sourced.answers answer earlier sent request)
    · exact grows.fromCall (sourced.hand _ sent (handled.symm.trans request))

theorem reachable (reach : (exchangeSystem config).Reachable network) : Sourced network := by
  refine invariant_of_reachable_step Sourced ?_ ?_ reach
  · rintro _ rfl
    exact fresh
  · intro before event after earlier sourced _ stepped
    exact sourced.step (grows_of_step (linksMade_of_reachable earlier) stepped)
      (Network.step?_moves stepped)

end Sourced

/-! ## Connection tasks -/

/-- The `SessionOpen` for this Actor and this Session is in hand. -/
def Asks (handling : Option Sent) (address : ActorAddress) (session : SessionId) : Prop :=
  ∃ sent, handling = some sent ∧ sent.envelope.kind = some .sessionOpen ∧
    sent.envelope.address = some address ∧ sent.envelope.session = some session

/-- What a connection task that will answer has in hand, and for an `Ok` what has
happened before it. -/
def HandledAt (handling : Option Sent) (request : Option Opening) (returned : Opening → Prop) :
    ConnPc → Prop
  | .openLock address session | .resolving address session _ _
  | .openRegister address session _ => Asks handling address session
  | .openDispatch opening _ _ | .openUnregister opening _ | .openAwait opening =>
      request = some opening ∧ Asks handling opening.address opening.session
  | .openAck session failure => ∃ address, Asks handling address session ∧
      (failure = none → ∃ serial, request = some ⟨address, session, serial⟩ ∧
        returned ⟨address, session, serial⟩)
  | _ => True

/-- The task is handling a `SessionOpen`. -/
def isAnswering : ConnPc → Bool
  | .openLock _ _ | .resolving _ _ _ _ | .openRegister _ _ _ | .openDispatch _ _ _
  | .openUnregister _ _ | .openAwait _ | .openAck _ _ => true
  | _ => false

section

variable {handling : Option Sent} {request : Option Opening} {returned weaker : Opening → Prop}
  {server later : Server} {runtime : RuntimeConfig} {pc next : ConnPc} {connection : Nat}

theorem handledAt_of_idle (idle : isAnswering pc = false) :
    HandledAt handling request returned pc := by
  cases pc with
  | openLock | resolving | openRegister | openDispatch | openUnregister | openAwait | openAck =>
      cases idle
  | _ => trivial

theorem handledAt_inbound (sent : Sent) :
    HandledAt (some sent) none returned sent.envelope.inbound := by
  unfold Envelope.inbound
  split
  · rename_i kind session address opens named actor
    cases kind with
    | sessionOpen =>
        simp only
        split
        · exact ⟨sent, rfl, opens, actor, named⟩
        · exact ⟨address, ⟨sent, rfl, opens, actor, named⟩, by rintro ⟨⟩⟩
    | action payload =>
        simp only
        split <;> trivial
    | sessionClose | other => trivial
  · trivial

theorem HandledAt.mono (holds : HandledAt handling request returned pc)
    (weakens : ∀ opening, returned opening → weaker opening) :
    HandledAt handling request weaker pc := by
  cases pc with
  | openAck session failure =>
      obtain ⟨address, asks, answered⟩ := holds
      refine ⟨address, asks, fun ok => ?_⟩
      obtain ⟨serial, requested, happened⟩ := answered ok
      exact ⟨serial, requested, weakens _ happened⟩
  | _ => exact holds

theorem handledAt_afterClose {next : AfterClose} : HandledAt handling request returned next.pc :=
  handledAt_of_idle (by cases next <;> rfl)

theorem HandledAt.quietMove (holds : HandledAt handling request returned pc)
    (move : QuietMove server connection pc next)
    (sent : ∀ opening generation, server.completions opening = .sent generation none →
      returned opening) (silent : pc = .receiving → isAnswering next = false) :
    HandledAt handling (requestAfter request pc next) returned next := by
  cases move with
  | receive envelope => exact handledAt_of_idle (silent rfl)
  | lock | resolve | resolved => exact holds
  | unresolved | unregistrable => exact ⟨_, holds, by rintro ⟨⟩⟩
  | dispatching => exact ⟨rfl, holds.2⟩
  | undispatched | turnedDown | unanswered => exact holds
  | @answered opening generation done =>
      exact ⟨opening.address, holds.2, fun _ => ⟨opening.serial, holds.1, sent opening generation done⟩⟩
  | unclosed => exact handledAt_afterClose
  | noted =>
      cases pc with
      | openDispatch => exact ⟨rfl, holds.2⟩
      | receiving => trivial
      | _ => exact holds
  | _ => trivial

/-- A connection task goes on with what it has in hand. -/
theorem HandledAt.connMove (holds : HandledAt handling request returned pc)
    (move : ConnMove runtime server later connection pc next)
    (sent : ∀ opening generation, server.completions opening = .sent generation none →
      returned opening) (silent : pc = .receiving → isAnswering next = false) :
    HandledAt handling (requestAfter request pc next) returned next := by
  cases move with
  | quiet same move => exact holds.quietMove move sent silent
  | register => exact ⟨rfl, holds⟩
  | opened => exact holds
  | unopened _ _ _ _ onward =>
      rcases onward with ⟨error, rfl⟩ | rfl
      · exact holds
      · trivial
  | @unregister opening => exact ⟨opening.address, holds.2, by rintro ⟨⟩⟩
  | unacted _ _ _ _ onward => rcases onward with rfl | rfl <;> trivial
  | closed | unheard => exact handledAt_afterClose
  | _ => trivial

/-- A connection task begins to answer only what it receives. -/
theorem idle_of_silent {authorityValid : Bool} {event : ConnEvent}
    (stepped : server.step? runtime authorityValid (.conn connection event) = some later)
    (silent : ∀ envelope, event ≠ .receive envelope)
    (here : (server.conns connection).pc = .receiving) :
    isAnswering (later.conns connection).pc = false := by
  simp only [Server.step?, here] at stepped
  cases event with
  | receive envelope => exact absurd rfl (silent envelope)
  | disconnect =>
      cases stepped
      rw [Server.setConn_pc]
      rfl
  | register =>
      cases stepped
      simp only [Function.update_self, here]
      rfl
  | abort =>
      simp only [Server.connStep?] at stepped
      split at stepped <;> cases stepped
      rw [Server.setConn_pc]
      rfl
  | accept | advance | reply => cases stepped

/-- A step of a Server moves a connection task only as one of that task. -/
theorem other_conn {event : ServerEvent} (move : ServerMove runtime server later event)
    (other : ∀ event', event ≠ .conn connection event') :
    (later.conns connection).pc = (server.conns connection).pc := by
  cases move with
  | @conn id event control others move =>
      rw [others connection]
      rintro rfl
      exact other event rfl
  | task found effect => rw [effect.conns]
  | shutdown effect | fence effect => exact effect.conns connection

/-- An opening is answered without a failure where its callback returns. -/
theorem returnedBy_of_sent {authorityValid : Bool} {event : ServerEvent} {opening : Opening}
    {answerer : Option Nat}
    (stepped : server.step? runtime authorityValid event = some later)
    (sent : later.completions opening = .sent answerer none) :
    server.completions opening = .sent answerer none ∨
      ∃ generation, returnedBy server event = some (generation, .sessionOpened opening) := by
  have moves := Server.step?_moves stepped
  cases moves with
  | conn control others move =>
      rcases move.completions opening with same | ⟨-, -, error, failed⟩
      · exact .inl (same ▸ sent)
      · rw [failed] at sent
        cases sent
  | @task generation event task next found effect move =>
      rcases move.completions opening with same | ⟨⟨draining, here⟩, done⟩ | ⟨-, -, failed⟩
      · exact .inl (same ▸ sent)
      · refine .inr ⟨generation, ?_⟩
        obtain ⟨current, known, moved⟩ := Option.bind_eq_some_iff.mp stepped
        obtain rfl := Option.some.inj (found.symm.trans known)
        obtain ⟨address, pc, mailbox, closed, shutdownSignal, abortRequested, completed⟩ := task
        obtain rfl : pc = .executing (.sessionOpened opening) draining := here
        cases event with
        | returned normally =>
            cases normally with
            | true => simp only [returnedBy, found]
            | false =>
                cases moved
                rw [sent] at done
                simp [Server.executed, Server.complete, Server.gotoTask, Server.setTask] at sent
        | abort =>
            simp only [Server.taskStep?, Server.abortTask?] at moved
            split at moved <;> cases moved
            simp [Server.completeAll, Server.complete, Server.gotoTask, Server.setTask] at sent
        | _ => cases moved
      · rcases failed with dropped | ⟨error, failed⟩
        · rw [dropped] at sent
          cases sent
        · rw [failed] at sent
          cases sent
  | shutdown effect | fence effect => exact .inl (effect.completions ▸ sent)

end

/-- Every linked connection task handles what it has in hand, and every opening
answered without a failure has been heard by an actor. -/
structure Handled (network : Network) : Prop where
  requests : ∀ connection id, network.links connection = some id →
    HandledAt (network.handling connection) (network.requests connection)
      (network.journal.Returned id) ((network.servers id).conns connection).pc
  completions : ∀ id opening answerer,
    (network.servers id).completions opening = .sent answerer none →
    network.journal.Returned id opening

namespace Handled

theorem fresh : Handled (.fresh config) where
  requests := by rintro connection id ⟨⟩
  completions := by rintro id opening answerer ⟨⟩

theorem Returned.mono {journal later : Journal} (grows : journal.returned ⊆ later.returned)
    {id : Nat} (opening : Opening) (returned : journal.Returned id opening) :
    later.Returned id opening := by
  obtain ⟨generation, member⟩ := returned
  exact ⟨generation, grows member⟩

/-- A step outside the Servers. -/
theorem aside (handled : Handled before) (links : after.links = before.links)
    (servers : after.servers = before.servers) (handling : after.handling = before.handling)
    (requests : after.requests = before.requests)
    (returned : before.journal.returned ⊆ after.journal.returned) : Handled after where
  requests connection id linked := by
    rw [links] at linked
    rw [servers, handling, requests]
    exact (handled.requests connection id linked).mono (Returned.mono returned)
  completions id opening answerer sent := by
    rw [servers] at sent
    exact Returned.mono returned _ (handled.completions id opening answerer sent)

/-- A step of one Server, from what it does to the connections of the Client. -/
theorem server {id : Nat} {server : Server} {authorityValid : Bool} {serverEvent : ServerEvent}
    (handled : Handled before) (links : after.links = before.links)
    (servers : after.servers = Function.update before.servers id server)
    (stepped : (before.servers id).step? (config.runtime id) authorityValid serverEvent =
      some server)
    (returned : before.journal.returned ⊆ after.journal.returned)
    (recorded : ∀ call, returnedBy (before.servers id) serverEvent = some call →
      (id, call) ∈ after.journal.returned)
    (others : ∀ connection, (before.links connection = some id →
        ∀ event', serverEvent ≠ .conn connection event') →
      after.handling connection = before.handling connection ∧
        after.requests connection = before.requests connection)
    (own : ∀ connection event', before.links connection = some id →
      serverEvent = .conn connection event' →
      HandledAt (after.handling connection) (after.requests connection)
        (before.journal.Returned id) (server.conns connection).pc) : Handled after where
  requests connection other linked := by
    rw [links] at linked
    refine HandledAt.mono ?_ (Returned.mono returned)
    rw [servers]
    by_cases same : other = id
    · subst same
      rw [Function.update_self]
      by_cases its : ∃ event', serverEvent = .conn connection event'
      · obtain ⟨event', here⟩ := its
        exact own connection event' linked here
      · have elsewhere : ∀ event', serverEvent ≠ .conn connection event' :=
          fun event' here => its ⟨event', here⟩
        obtain ⟨handling, requests⟩ := others connection fun _ => elsewhere
        rw [handling, requests, other_conn (Server.step?_moves stepped) elsewhere]
        exact handled.requests connection other linked
    · have elsewhere : before.links connection ≠ some id := by
        rw [linked]
        exact fun same' => same (Option.some.inj same')
      obtain ⟨handling, requests⟩ := others connection fun linked' => absurd linked' elsewhere
      rw [Function.update_of_ne same, handling, requests]
      exact handled.requests connection other linked
  completions other opening answerer sent := by
    rw [servers] at sent
    by_cases same : other = id
    · subst same
      rw [Function.update_self] at sent
      rcases returnedBy_of_sent stepped sent with earlier | ⟨generation, returns⟩
      · exact Returned.mono returned _ (handled.completions other opening answerer earlier)
      · exact ⟨generation, recorded _ returns⟩
    · rw [Function.update_of_ne same] at sent
      exact Returned.mono returned _ (handled.completions other opening answerer sent)

theorem step (handled : Handled before)
    (stepped : (exchangeSystem config).step? before event = some after) : Handled after := by
  have links := Network.step?_links stepped
  have moves := Network.step?_moves stepped
  have returned := moves.journal_grows.2
  cases moves with
  | client | transmit | lookUp | report | relay | arrive | hangUp =>
      exact handled.aside rfl rfl rfl rfl returned
  | @connect session server client unaccepted move =>
      refine ⟨fun connection id linked => ?_, handled.completions⟩
      rcases update_eq_some linked with ⟨rfl, same⟩ | earlier
      · cases same
        simp only [unaccepted]
        trivial
      · exact handled.requests connection id earlier
  | @deliver index delivery found =>
      obtain ⟨-, servers, same, -, handling, requests, -⟩ := before.delivered_aside delivery
      exact handled.aside same servers handling requests returned
  | @receive connection id sent rest server linked waiting moved here there =>
      refine handled.server rfl rfl moved returned ?_ ?_ ?_
      · rintro call ⟨⟩
      · intro other elsewhere
        have different : other ≠ connection := by
          rintro rfl
          exact elsewhere linked _ rfl
        exact ⟨Function.update_of_ne different _ _, Function.update_of_ne different _ _⟩
      · rintro other event' linked' ⟨⟩
        simp only [Function.update_self, there]
        exact handledAt_inbound sent
  | @server id authorityValid serverEvent server allowed foreign moved =>
      refine handled.server rfl rfl moved returned ?_ (fun _ _ => ⟨rfl, rfl⟩) ?_
      · intro call returns
        refine List.mem_append_right _ ?_
        rw [returns]
        exact List.mem_singleton_self _
      · intro connection event' linked here
        exact absurd linked (foreign connection event' here)
  | @conn id connection authorityValid connEvent server linked silent moved unanswered =>
      refine handled.server rfl rfl moved returned ?_ ?_ ?_
      · rintro call ⟨⟩
      · intro other elsewhere
        have different : other ≠ connection := by
          rintro rfl
          exact elsewhere linked _ rfl
        exact ⟨rfl, Function.update_of_ne different _ _⟩
      · rintro other event' linked' ⟨⟩
        cases Server.step?_moves moved with
        | conn control others move =>
            simp only [Function.update_self]
            exact (handled.requests connection id linked).connMove move (handled.completions id)
              fun here => idle_of_silent moved silent here
  | @answer id connection authorityValid connEvent server session failure linked moved here there =>
      refine handled.server rfl rfl moved returned ?_ ?_ ?_
      · rintro call ⟨⟩
      · intro other elsewhere
        have different : other ≠ connection := by
          rintro rfl
          exact elsewhere linked _ rfl
        exact ⟨Function.update_of_ne different _ _, rfl⟩
      · rintro other event' linked' ⟨⟩
        rw [there]
        trivial

theorem reachable (reach : (exchangeSystem config).Reachable network) : Handled network := by
  refine invariant_of_step Handled ?_ ?_ reach
  · rintro _ rfl
    exact fresh
  · intro before event after handled _ stepped
    exact handled.step stepped

end Handled

/-! ## Successes -/

/-- Every success on its way to a call of `open`, or returned by one, is vouched for. -/
structure Backed (network : Network) : Prop where
  queued : ∀ connection session, ∀ replied ∈ (network.queues connection).items,
    replied.outbound = .sessionOpenedAck session none → network.Vouched connection session
  wired : ∀ connection session, ∀ replied ∈ network.down connection,
    replied.outbound = .sessionOpenedAck session none → network.Vouched connection session
  caused : Caused network.Vouched network.client

namespace Backed

theorem fresh : Backed (.fresh config) where
  queued := by rintro connection session replied ⟨⟩
  wired := by rintro connection session replied ⟨⟩
  caused := Caused.fresh

/-- An `Ok` is sent after the actor has returned from the callback of the
`SessionOpen` in hand. -/
theorem vouched_of_ok (sourced : Sourced before) (handled : Handled before)
    (grows : Grows before after) {connection id : Nat} {session : SessionId}
    (linked : before.links connection = some id)
    (here : ((before.servers id).conns connection).pc = .openAck session none)
    (answered : ⟨connection, before.handling connection, before.requests connection, none⟩ ∈
      after.journal.answers) : after.Vouched connection session := by
  have holds := handled.requests connection id linked
  rw [here] at holds
  obtain ⟨address, ⟨sent, held, opens, actor, named⟩, happened⟩ := holds
  obtain ⟨serial, requested, generation, returned⟩ := happened rfl
  obtain ⟨own, call, found, its, whole⟩ := sourced.hand connection sent held
  obtain rfl := Option.some.inj (named.symm.trans its)
  obtain ⟨ticket, envelope⟩ := sent
  obtain rfl : envelope = envelopeSessionOpen call.address session := whole opens
  obtain rfl : call.address = address := Option.some.inj actor
  obtain ⟨next, known, same⟩ := grows.calls session call found
  refine ⟨next, id, ticket, serial, known, grows.links _ _ linked, ?_, generation, ?_⟩
  · rw [held, requested] at answered
    rw [same]
    exact answered
  · rw [same]
    exact grows.returned returned

theorem heard {replied : Replied} {answered : Option Nat} {session : SessionId}
    (handles : replied.inbound.handle = .acknowledging answered session none) :
    replied.outbound = .sessionOpenedAck session none ∧ replied.ticket = answered := by
  obtain ⟨ticket, outbound⟩ := replied
  cases outbound with
  | sessionOpenedAck own failure =>
      cases failure with
      | none =>
          cases handles
          exact ⟨rfl, rfl⟩
      | some error => cases handles
  | event | sessionError => cases handles

theorem step (backed : Backed before) (sourced : Sourced before) (handled : Handled before)
    (ok : PendingOk before.client) (grows : Grows before after)
    (move : NetworkMove config before event after) : Backed after where
  queued connection session replied member acknowledges := by
    rcases move.queues_origin member acknowledges with earlier | ⟨id, linked, here, -, answered⟩
    · exact grows.vouched (backed.queued connection session replied earlier acknowledges)
    · exact vouched_of_ok sourced handled grows linked here answered
  wired connection session replied member acknowledges := by
    rcases move.down_origin member with earlier | relayed
    · exact grows.vouched (backed.wired connection session replied earlier acknowledges)
    · exact grows.vouched (backed.queued connection session replied relayed acknowledges)
  caused := by
    have caused := backed.caused.mono fun _ _ => grows.vouched
    rcases move.client_move with ⟨clientEvent, move, arrived⟩ | same
    · refine caused.move ok move fun id inbound answered session here handles => ?_
      obtain ⟨replied, rest, waiting, rfl⟩ := arrived id inbound here
      refine grows.vouched (backed.wired id session replied ?_ (heard handles).1)
      rw [waiting]
      exact List.mem_cons_self
    · exact same ▸ caused

theorem reachable (reach : (exchangeSystem config).Reachable network) : Backed network := by
  refine invariant_of_reachable_step Backed ?_ ?_ reach
  · rintro _ rfl
    exact fresh
  · intro before event after earlier backed _ stepped
    exact backed.step (.reachable earlier) (.reachable earlier)
      (.reachable (Network.client_reachable earlier))
      (grows_of_step (linksMade_of_reachable earlier) stepped) (Network.step?_moves stepped)

end Backed

end Coactor.Exchange
