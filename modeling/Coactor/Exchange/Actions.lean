import Coactor.Client.Streams
import Coactor.Exchange.Answers
import Coactor.Runtime.Succession

/-!
# Where an Action comes from

An Action of a Client's Session leaves only on the connection that `open` has
returned with the Session.  It crosses the queue of that connection, the wire and
the hand of a connection task, and enters a mailbox of the Actor on the Server at
the other end.
-/

namespace Coactor.Exchange

open Coactor.Client
open Coactor.Coordination
open Coactor.Foundation
open Coactor.Foundation.Transition
open Coactor.Runtime

variable {config : ExchangeConfig} {before after network : Network} {event : ExchangeEvent}
  {connection id : Nat} {session : SessionId} {address : ActorAddress} {payload : List UInt8}

/-! ## Steps of a Server -/

/-- A step of the exchange is at most one step of each Server. -/
theorem NetworkMove.server_step (move : NetworkMove config before event after) (id : Nat) :
    after.servers id = before.servers id ∨ ∃ authorityValid serverEvent,
      (before.servers id).step? (config.runtime id) authorityValid serverEvent =
        some (after.servers id) ∧
      (event = .server id authorityValid serverEvent ∨
        ∃ connection envelope, serverEvent = .conn connection (.receive envelope)) := by
  have updated : ∀ {other : Nat} {server : Server} {authorityValid : Bool}
      {serverEvent : ServerEvent},
      (before.servers other).step? (config.runtime other) authorityValid serverEvent =
        some server →
      (event = .server other authorityValid serverEvent ∨
        ∃ connection envelope, serverEvent = .conn connection (.receive envelope)) →
      Function.update before.servers other server id = before.servers id ∨
        ∃ authorityValid serverEvent,
          (before.servers id).step? (config.runtime id) authorityValid serverEvent =
            some (Function.update before.servers other server id) ∧
          (event = .server id authorityValid serverEvent ∨
            ∃ connection envelope, serverEvent = .conn connection (.receive envelope)) := by
    intro other server authorityValid serverEvent stepped origin
    by_cases same : id = other
    · subst same
      rw [Function.update_self]
      exact .inr ⟨authorityValid, serverEvent, stepped, origin⟩
    · rw [Function.update_of_ne same]
      exact .inl rfl
  cases move with
  | receive linked waiting stepped => exact updated stepped (.inr ⟨_, _, rfl⟩)
  | server allowed foreign stepped => exact updated stepped (.inl rfl)
  | conn linked silent stepped => exact updated stepped (.inl rfl)
  | answer linked stepped => exact updated stepped (.inl rfl)
  | deliver found => exact .inl (by rw [(before.delivered_aside _).2.1])
  | _ => exact .inl rfl

/-- A dispatch that spawns an actor too late finds no other task of its address. -/
def Network.Unrivaled (network : Network) (event : ExchangeEvent) : Prop :=
  ∀ id authorityValid serverEvent, event = .server id authorityValid serverEvent →
    Runtime.Unrivaled (network.servers id) (authorityValid, serverEvent)

/-- A run of the exchange is a run of each of its Servers. -/
theorem server_reachable {guard : Network → ExchangeEvent → Prop}
    {kept : Server → Bool × ServerEvent → Prop}
    (keeps : ∀ (network : Network) (event : ExchangeEvent) (id : Nat) (authorityValid : Bool)
      (serverEvent : ServerEvent), guard network event →
      (event = .server id authorityValid serverEvent ∨
        ∃ connection envelope, serverEvent = .conn connection (.receive envelope)) →
      kept (network.servers id) (authorityValid, serverEvent))
    (reach : (exchangeSystem config).ReachableWhile guard network) (id : Nat) :
    (serverSystem (config.runtime id)).ReachableWhile kept (network.servers id) := by
  refine invariant_of_step (fun network : Network =>
    (serverSystem (config.runtime id)).ReachableWhile kept (network.servers id)) ?_ ?_ reach
  · rintro _ rfl
    exact .start rfl
  · intro before event after earlier met stepped
    rcases (Network.step?_moves stepped).server_step id with
      same | ⟨authorityValid, serverEvent, moved, origin⟩
    · exact same ▸ earlier
    · exact .step earlier (keeps before event id authorityValid serverEvent met origin) moved

theorem server_reachable_of_unrivaled
    (reach : (exchangeSystem config).ReachableWhile Network.Unrivaled network) (id : Nat) :
    (serverSystem (config.runtime id)).ReachableWhile Unrivaled (network.servers id) := by
  refine server_reachable ?_ reach id
  intro network event id authorityValid serverEvent met origin
  rcases origin with here | ⟨connection, envelope, rfl⟩
  · exact met id authorityValid serverEvent here
  · rintro ⟨⟩

/-! ## Connections that Sessions post to -/

/-- `open` has returned the Session, which is one of an Actor, with a connection. -/
def Network.Posts (network : Network) (session : SessionId) (connection : Nat)
    (address : ActorAddress) : Prop :=
  ∃ call, network.client.calls session = some call ∧ call.address = address ∧
    call.pc.stage = .returned (some connection)

namespace Network.Posts

theorem unique {other : Nat} {own : ActorAddress} (posts : network.Posts session connection address)
    (again : network.Posts session other own) : connection = other ∧ address = own := by
  obtain ⟨call, found, here, returned⟩ := posts
  obtain ⟨same, known, there, still⟩ := again
  obtain rfl := Option.some.inj (found.symm.trans known)
  cases returned.symm.trans still
  exact ⟨rfl, here.symm.trans there⟩

/-- A returned Session keeps its connection. -/
theorem step (move : NetworkMove config before event after)
    (posts : before.Posts session connection address) : after.Posts session connection address := by
  obtain ⟨call, found, here, returned⟩ := posts
  rcases move.client_move with ⟨clientEvent, move, -⟩ | same
  · obtain ⟨next, known, there, still⟩ := move.stays_returned found returned
    exact ⟨next, known, there.trans here, still⟩
  · exact ⟨call, same ▸ found, here, returned⟩

end Network.Posts

/-- An Action under way on a connection is of a Session that posts to it. -/
def Addressed (network : Network) (connection : Nat) (sent : Sent) : Prop :=
  ∀ session payload, sent.payloadOf? session = some payload →
    ∃ address, sent.envelope.address = some address ∧ network.Posts session connection address

theorem Addressed.step {sent : Sent} (move : NetworkMove config before event after)
    (addressed : Addressed before connection sent) : Addressed after connection sent := by
  intro session payload acts
  obtain ⟨address, named, posts⟩ := addressed session payload acts
  exact ⟨address, named, posts.step move⟩

/-- What a connection task makes of an Action. -/
theorem action_inbound {sent : Sent}
    (acts : sent.envelope.inbound.action? = some (address, session, payload)) :
    sent.payloadOf? session = some payload ∧ sent.envelope.address = some address ∧
      sent.envelope.session = some session := by
  obtain ⟨ticket, version, own, actor, kind⟩ := sent
  unfold Envelope.inbound at acts
  split at acts
  · rename_i kind own actor acting named placed
    simp only at acting named placed
    subst acting named placed
    cases kind with
    | action content =>
        simp only at acts
        split at acts
        · cases acts
          simp [Sent.payloadOf?]
        · cases acts
    | sessionOpen =>
        simp only at acts
        split at acts <;> cases acts
    | sessionClose | other => cases acts
  · cases acts

section

variable {server later : Server} {runtime : RuntimeConfig} {authorityValid : Bool}

/-- A connection task that waits takes in hand what it receives, and nothing else. -/
theorem action_of_receiving {connEvent : ConnEvent}
    (stepped : server.step? runtime authorityValid (.conn connection connEvent) = some later)
    (here : (server.conns connection).pc = .receiving) :
    (later.conns connection).pc.action? = none ∨
      ∃ envelope, connEvent = .receive envelope ∧
        (later.conns connection).pc = envelope.inbound := by
  simp only [Server.step?, here] at stepped
  cases connEvent with
  | receive envelope =>
      cases stepped
      exact .inr ⟨envelope, rfl, Server.setConn_pc⟩
  | disconnect =>
      cases stepped
      rw [Server.setConn_pc]
      exact .inl rfl
  | register =>
      cases stepped
      simp only [Function.update_self, here]
      exact .inl rfl
  | abort =>
      simp only [Server.connStep?] at stepped
      split at stepped <;> cases stepped
      rw [Server.setConn_pc]
      exact .inl rfl
  | accept | advance | reply => cases stepped

/-- What a connection task has in hand after a step of its Server. -/
theorem action_origin {serverEvent : ServerEvent}
    (stepped : server.step? runtime authorityValid serverEvent = some later)
    (acts : (later.conns connection).pc.action? = some (address, session, payload)) :
    (server.conns connection).pc.action? = some (address, session, payload) ∨
      ∃ envelope, serverEvent = .conn connection (.receive envelope) ∧
        envelope.inbound.action? = some (address, session, payload) := by
  have moves := Server.step?_moves stepped
  by_cases own : ∃ connEvent, serverEvent = .conn connection connEvent
  · obtain ⟨connEvent, rfl⟩ := own
    cases moves with
    | conn control others move =>
        by_cases waits : (server.conns connection).pc = .receiving
        · rcases action_of_receiving stepped waits with none | ⟨envelope, rfl, inbound⟩
          · cases none.symm.trans acts
          · exact .inr ⟨envelope, rfl, inbound ▸ acts⟩
        · rcases move.action fun here => absurd here waits with none | same
          · cases none.symm.trans acts
          · exact .inl (same ▸ acts)
  · have same := @other_conn server later runtime connection serverEvent moves
      fun connEvent here => own ⟨connEvent, here⟩
    exact .inl (same ▸ acts)

end

/-- Every Action of a Session of the Client is on its way from the connection that
the Session posts to, or in a mailbox of its Actor at the other end. -/
structure Posted (config : ExchangeConfig) (network : Network) : Prop where
  queue : ∀ connection, ∀ sent ∈ network.client.queue connection,
    Addressed network connection sent
  wire : ∀ connection, ∀ sent ∈ network.up connection, Addressed network connection sent
  hand : ∀ connection id address session payload, network.links connection = some id →
    ((network.servers id).conns connection).pc.action? = some (address, session, payload) →
    network.Posts session connection address
  foreign : ∀ connection id address session payload, network.links connection ≠ some id →
    ((network.servers id).conns connection).pc.action? = some (address, session, payload) →
    config.own session = false
  mailbox : ∀ id generation address session payload, config.own session = true →
    (network.servers id).Holds generation address session payload →
    ∃ connection, network.links connection = some id ∧ network.Posts session connection address

namespace Posted

theorem fresh : Posted config (.fresh config) where
  queue := by rintro connection sent ⟨⟩
  wire := by rintro connection sent ⟨⟩
  hand := by rintro connection id address session payload ⟨⟩
  foreign := by rintro connection id address session payload - ⟨⟩
  mailbox := by rintro id generation address session payload - ⟨task, ⟨⟩, -⟩

theorem queued (posted : Posted config before) (move : NetworkMove config before event after)
    {sent : Sent} (member : sent ∈ after.client.queue connection) :
    Addressed after connection sent := by
  rcases move.client_move with ⟨clientEvent, moved, -⟩ | same
  · intro session payload acts
    rcases moved.action_origin member acts with waited | ⟨call, found, opened, named⟩
    · exact (posted.queue connection sent waited).step move session payload acts
    · refine ⟨call.address, named, Network.Posts.step move ⟨call, found, rfl, ?_⟩⟩
      rw [opened]
      rfl
  · rw [same] at member
    exact (posted.queue connection sent member).step move

theorem wired (posted : Posted config before) (move : NetworkMove config before event after)
    {sent : Sent} (member : sent ∈ after.up connection) : Addressed after connection sent := by
  rcases move.up_origin member with waited | ⟨traffic, found, waited⟩
  · exact (posted.wire connection sent waited).step move
  · refine (posted.queue connection sent ?_).step move
    rw [ClientInner.queue, found, Option.elim_some]
    exact waited

/-- A step outside the Servers, which links at most a new connection. -/
theorem aside (posted : Posted config before) (move : NetworkMove config before event after)
    (servers : after.servers = before.servers)
    (links : ∀ connection id, before.links connection = some id →
      after.links connection = some id)
    (idle : ∀ connection id, after.links connection = some id →
      before.links connection = some id ∨
        ((before.servers id).conns connection).pc.action? = none) : Posted config after where
  queue _ _ member := posted.queued move member
  wire _ _ member := posted.wired move member
  hand connection id address session payload linked acts := by
    rw [servers] at acts
    rcases idle connection id linked with known | none
    · exact (posted.hand connection id address session payload known acts).step move
    · cases none.symm.trans acts
  foreign connection id address session payload unlinked acts := by
    rw [servers] at acts
    exact posted.foreign connection id address session payload
      (fun linked => unlinked (links connection id linked)) acts
  mailbox id generation address session payload own holds := by
    rw [servers] at holds
    obtain ⟨connection, linked, posts⟩ := posted.mailbox id generation address session payload own holds
    exact ⟨connection, links connection id linked, posts.step move⟩

/-- A step of one Server. -/
theorem server {server : Server} {authorityValid : Bool} {serverEvent : ServerEvent}
    (posted : Posted config before) (ok : RoutesOk (before.servers id))
    (move : NetworkMove config before event after) (links : after.links = before.links)
    (servers : after.servers = Function.update before.servers id server)
    (stepped : (before.servers id).step? (config.runtime id) authorityValid serverEvent =
      some server)
    (received : ∀ connection envelope, serverEvent = .conn connection (.receive envelope) →
      (before.links connection = some id → ∃ sent ∈ before.up connection,
        sent.envelope = envelope) ∧
      (before.links connection ≠ some id → ∀ session, envelope.session = some session →
        config.own session = false)) : Posted config after where
  queue _ _ member := posted.queued move member
  wire _ _ member := posted.wired move member
  hand connection other address session payload linked acts := by
    rw [links] at linked
    rw [servers] at acts
    by_cases same : other = id
    · subst same
      rw [Function.update_self] at acts
      rcases action_origin stepped acts with earlier | ⟨envelope, here, inbound⟩
      · exact (posted.hand connection other address session payload linked earlier).step move
      · obtain ⟨sent, waited, rfl⟩ := (received connection envelope here).1 linked
        obtain ⟨acts, named, -⟩ := action_inbound inbound
        obtain ⟨actor, there, posts⟩ := posted.wire connection sent waited session payload acts
        obtain rfl := Option.some.inj (named.symm.trans there)
        exact posts.step move
    · rw [Function.update_of_ne same] at acts
      exact (posted.hand connection other address session payload linked acts).step move
  foreign connection other address session payload unlinked acts := by
    rw [links] at unlinked
    rw [servers] at acts
    by_cases same : other = id
    · subst same
      rw [Function.update_self] at acts
      rcases action_origin stepped acts with earlier | ⟨envelope, here, inbound⟩
      · exact posted.foreign connection other address session payload unlinked earlier
      · exact (received connection envelope here).2 unlinked session
          (@action_inbound session address payload ⟨none, envelope⟩ inbound).2.2
    · rw [Function.update_of_ne same] at acts
      exact posted.foreign connection other address session payload unlinked acts
  mailbox other generation address session payload own holds := by
    rw [links]
    rw [servers] at holds
    by_cases same : other = id
    · subst same
      rw [Function.update_self] at holds
      rcases (Server.step?_moves stepped).holds ok holds with
        earlier | ⟨connection, connEvent, -, acts⟩
      · obtain ⟨connection, linked, posts⟩ :=
          posted.mailbox other generation address session payload own earlier
        exact ⟨connection, linked, posts.step move⟩
      · by_cases linked : before.links connection = some other
        · exact ⟨connection, linked,
            (posted.hand connection other address session payload linked acts).step move⟩
        · cases own.symm.trans
            (posted.foreign connection other address session payload linked acts)
    · rw [Function.update_of_ne same] at holds
      obtain ⟨connection, linked, posts⟩ :=
        posted.mailbox other generation address session payload own holds
      exact ⟨connection, linked, posts.step move⟩

theorem step (posted : Posted config before) (made : LinksMade before)
    (ok : ∀ id, RoutesOk (before.servers id))
    (move : NetworkMove config before event after) : Posted config after := by
  have unlinked : before.links before.client.nextConnection = none := by
    rw [Option.eq_none_iff_forall_ne_some]
    intro id linked
    exact Nat.lt_irrefl _ (made _ id linked)
  have aside : after.servers = before.servers → after.links = before.links →
      Posted config after := by
    intro servers links
    exact posted.aside move servers (fun connection id linked => links ▸ linked)
      fun connection id linked => .inl (links ▸ linked)
  have moves := move
  cases moves with
  | client | transmit | lookUp | report | relay | arrive | hangUp => exact aside rfl rfl
  | deliver => exact aside (before.delivered_aside _).2.1 (before.delivered_aside _).2.2.1
  | connect unaccepted =>
      refine posted.aside move rfl (fun connection id linked => ?_) fun connection id linked => ?_
      · simp only
        rw [Function.update_of_ne]
        · exact linked
        · rintro rfl
          cases unlinked.symm.trans linked
      · rcases update_eq_some linked with ⟨rfl, same⟩ | known
        · cases same
          rw [unaccepted]
          exact .inr rfl
        · exact .inl known
  | @receive connection id sent rest server linked waiting stepped =>
      refine posted.server (ok id) move rfl rfl stepped ?_
      rintro other envelope ⟨⟩
      refine ⟨fun _ => ⟨sent, ?_, rfl⟩, fun unlinked => absurd linked unlinked⟩
      rw [waiting]
      exact List.mem_cons_self
  | @server id authorityValid serverEvent server allowed foreign stepped =>
      refine posted.server (ok id) move rfl rfl stepped ?_
      rintro connection envelope rfl
      refine ⟨fun linked => absurd linked (foreign connection _ rfl), fun _ session named => ?_⟩
      simp only [Network.allowsServer, Bool.and_eq_true, named, Option.all_some,
        Bool.not_eq_true'] at allowed
      exact allowed.2
  | conn linked silent stepped =>
      refine posted.server (ok _) move rfl rfl stepped ?_
      rintro connection envelope ⟨⟩
      exact absurd rfl (silent envelope)
  | answer linked stepped here =>
      refine posted.server (ok _) move rfl rfl stepped ?_
      rintro connection envelope ⟨⟩
      simp only [Server.step?, here] at stepped
      cases stepped

theorem reachable {guard : Network → ExchangeEvent → Prop}
    (reach : (exchangeSystem config).ReachableWhile guard network) : Posted config network := by
  refine invariant_of_reachable_step (Posted config) ?_ ?_ reach
  · rintro _ rfl
    exact fresh
  · intro before event after earlier posted _ stepped
    refine posted.step (linksMade_of_reachable (reachable_of_reachableWhile earlier))
      (fun id => ?_) (Network.step?_moves stepped)
    exact routesOk_of_reachable (server_reachable (fun _ _ _ _ _ _ _ => trivial) earlier id)

end Posted

end Coactor.Exchange
