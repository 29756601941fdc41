import Coactor.Exchange.Answers
import Coactor.Exchange.Stamps

/-!
# The attempt that an acknowledgement answers

An acknowledgement names its Session and comes on its connection, and a receive
loop completes the pending open of that Session on that connection.  Two attempts
may share both.  They are told apart as long as an attempt begins only where no
`SessionOpen` of its Session and no acknowledgement is under way on its connection.
-/

namespace Coactor.Exchange

open Coactor.Client
open Coactor.Coordination
open Coactor.Foundation
open Coactor.Foundation.Transition
open Coactor.Runtime

variable {config : ExchangeConfig} {before after network : Network} {event : ExchangeEvent}
  {connection : Nat} {session : SessionId} {ticket : Option Nat}

/-! ## Acknowledgements under way -/

/-- A `SessionOpen` for this Session. -/
def Opens (sent : Sent) (session : SessionId) : Prop :=
  sent.envelope.kind = some .sessionOpen ∧ sent.envelope.session = some session

/-- A `SessionOpen` for a Session, or an acknowledgement of one, is under way on a
connection with this ticket. -/
inductive UnderWay (network : Network) (connection : Nat) (session : SessionId) :
    Option Nat → Prop where
  | queued {traffic : Traffic} {sent : Sent}
      (present : network.client.traffic connection = some traffic) (member : sent ∈ traffic.queue)
      (opens : Opens sent session) : UnderWay network connection session sent.ticket
  | wired {sent : Sent} (member : sent ∈ network.up connection) (opens : Opens sent session) :
      UnderWay network connection session sent.ticket
  | handled {sent : Sent} (held : network.handling connection = some sent)
      (opens : Opens sent session) : UnderWay network connection session sent.ticket
  | answered {replied : Replied} {failure : Option SendError}
      (member : replied ∈ (network.queues connection).items)
      (acknowledges : replied.outbound = .sessionOpenedAck session failure) :
      UnderWay network connection session replied.ticket
  | relayed {replied : Replied} {failure : Option SendError}
      (member : replied ∈ network.down connection)
      (acknowledges : replied.outbound = .sessionOpenedAck session failure) :
      UnderWay network connection session replied.ticket
  | arrived {traffic : Traffic} {answered : Option Nat} {result : Option SendError}
      (present : network.client.traffic connection = some traffic)
      (here : traffic.loop = .acknowledging answered session result) :
      UnderWay network connection session answered

/-- An attempt begins only where nothing of an earlier attempt of its Session is
under way on its connection. -/
def BeginsUnanswered (config : ExchangeConfig) (network : Network) (event : ExchangeEvent) : Prop :=
  ∀ session call target connection, event = .client (.call session .advance) →
    network.client.calls session = some call → call.pc = .acquired target connection →
    call.attempts < config.client.maxOpenAttempts →
    ∀ ticket, ¬ UnderWay network connection session ticket

theorem acknowledges_of_handle {replied : Replied} {answered : Option Nat}
    {result : Option SendError}
    (handles : replied.inbound.handle = .acknowledging answered session result) :
    ∃ failure, replied.outbound = .sessionOpenedAck session failure ∧
      replied.ticket = answered := by
  obtain ⟨number, outbound⟩ := replied
  cases outbound with
  | sessionOpenedAck own failure =>
      cases failure <;> cases handles <;> exact ⟨_, rfl, rfl⟩
  | event | sessionError => cases handles

/-- What is under way has been under way, or the call of its Session has just sent it. -/
theorem underWay_origin (handled : Handled before) (move : NetworkMove config before event after)
    (way : UnderWay after connection session ticket) :
    UnderWay before connection session ticket ∨
      ∃ call sent, after.client.calls session = some call ∧
        call.pc.stage = .awaiting connection sent ∧ ticket = some sent := by
  cases way with
  | @queued traffic sent present member opens =>
      rcases move.client_move with ⟨clientEvent, move, -⟩ | same
      · rcases move.queue_origin present member with ⟨old, known, waited⟩ | hands
        · exact .inl (.queued known waited opens)
        · cases hands with
          | @opens own call ticket found awaiting same =>
              subst same
              obtain rfl : own = session := Option.some.inj opens.2
              exact .inr ⟨call, ticket, found, awaiting, rfl⟩
          | other found named kind => exact absurd opens.1 kind
      · exact .inl (.queued (same ▸ present) member opens)
  | wired member opens =>
      rcases move.up_origin member with earlier | ⟨traffic, present, waited⟩
      · exact .inl (.wired earlier opens)
      · exact .inl (.queued present waited opens)
  | handled held opens =>
      rcases move.handling_origin held with earlier | received
      · exact .inl (.handled earlier opens)
      · exact .inl (.wired received opens)
  | @answered replied failure member acknowledges =>
      rcases move.queues_origin member acknowledges with earlier | ⟨id, linked, here, same, -⟩
      · exact .inl (.answered earlier acknowledges)
      · have holds := handled.requests connection id linked
        rw [here] at holds
        obtain ⟨address, ⟨sent, held, opens, -, named⟩, -⟩ := holds
        rw [same, held]
        exact .inl (.handled held ⟨opens, named⟩)
  | relayed member acknowledges =>
      rcases move.down_origin member with earlier | answered
      · exact .inl (.relayed earlier acknowledges)
      · exact .inl (.answered answered acknowledges)
  | @arrived traffic answered result present here =>
      rcases move.client_move with ⟨clientEvent, move, arrives⟩ | same
      · rcases move.acknowledging_origin present here with ⟨old, known, before'⟩ | ⟨inbound, rfl, handles⟩
        · exact .inl (.arrived known before')
        · obtain ⟨replied, rest, waiting, rfl⟩ := arrives connection inbound rfl
          obtain ⟨failure, acknowledges, rfl⟩ := acknowledges_of_handle handles
          refine .inl (.relayed ?_ acknowledges)
          rw [waiting]
          exact List.mem_cons_self
      · exact .inl (.arrived (same ▸ present) here)

/-! ## One attempt after the other -/

/-- What is under way on the connection of a pending open answers its attempt, and
so did everything that has completed one. -/
structure Attuned (network : Network) : Prop where
  tickets : ∀ connection session ticket pending, UnderWay network connection session ticket →
    network.client.pendingOpens session = some pending → pending.connection = connection →
    ticket = some pending.ticket
  completed : ∀ answered ticket, (answered, ticket) ∈ network.journal.completed →
    answered = some ticket

theorem NetworkMove.completed_origin (move : NetworkMove config before event after)
    {pair : Option Nat × Nat} (member : pair ∈ after.journal.completed) :
    pair ∈ before.journal.completed ∨ ∃ clientEvent,
      ClientMove config.client before.client after.client clientEvent ∧
        completedBy before.client after.client clientEvent = some pair := by
  cases move with
  | @client clientEvent client allowed move =>
      refine (List.mem_append.mp member).imp_right fun last => ⟨clientEvent, move, ?_⟩
      exact Option.mem_toList.mp last
  | @deliver index delivery found =>
      refine .inl ?_
      unfold Network.delivered at member
      split at member <;> exact member
  | _ => exact .inl member

namespace Attuned

theorem fresh : Attuned (.fresh config) where
  tickets := by rintro connection session ticket pending way ⟨⟩
  completed := by rintro answered ticket ⟨⟩

/-- The connection of an attempt that begins carries nothing of an earlier one. -/
theorem begins (met : BeginsUnanswered config before event)
    (stepped : (exchangeSystem config).step? before event = some after) {pending : PendingOpen}
    (present : after.client.pendingOpens session = some pending) :
    before.client.pendingOpens session = some pending ∨
      ∀ ticket, ¬ UnderWay before pending.connection session ticket := by
  rcases Network.step?_client stepped with ⟨clientEvent, here, moved⟩ | ⟨-, same⟩
  · rcases (ClientInner.step?_moves moved).pending_origin present with
      earlier | ⟨openEvent, call, target, rfl, found, acquired, left⟩
    · exact .inl earlier
    · rcases ClientInner.step?_acquired found acquired moved with rfl | same
      · refine .inr (met session call target pending.connection ?_ found acquired left)
        cases event with
        | client => exact congrArg _ (Option.some.inj here)
        | arrive other => obtain ⟨replied, -, ⟨⟩⟩ := Option.map_eq_some_iff.mp here
        | _ => cases here
      · exact .inl (same ▸ present)
  · exact .inl (same ▸ present)

theorem step (attuned : Attuned before) (handled : Handled before) (ok : PendingOk after.client)
    (met : BeginsUnanswered config before event)
    (stepped : (exchangeSystem config).step? before event = some after) : Attuned after where
  tickets connection session ticket pending way present same := by
    subst same
    rcases underWay_origin handled (Network.step?_moves stepped) way with
      earlier | ⟨call, sent, found, awaiting, rfl⟩
    · rcases begins met stepped present with old | none
      · exact attuned.tickets _ session ticket pending earlier old rfl
      · exact absurd earlier (none ticket)
    · have attempt : call.pc.stage.attempt? = some ⟨pending.connection, sent⟩ := by
        rw [awaiting]
        rfl
      exact congrArg some (congrArg PendingOpen.ticket (ok.pending_eq found attempt present)).symm
  completed answered ticket member := by
    rcases (Network.step?_moves stepped).completed_origin member with
      earlier | ⟨clientEvent, move, completed⟩
    · exact attuned.completed answered ticket earlier
    · obtain ⟨id, session, result, traffic, present, here, pending⟩ := move.completed completed
      exact attuned.tickets id session answered ⟨id, ticket⟩ (.arrived present here) pending rfl

theorem reachable (reach : (exchangeSystem config).ReachableWhile (BeginsUnanswered config) network) :
    Attuned network := by
  refine invariant_of_reachable_step Attuned ?_ ?_ reach
  · rintro _ rfl
    exact fresh
  · intro before event after earlier attuned met stepped
    have reach := reachable_of_reachableWhile earlier
    exact attuned.step (.reachable reach)
      (.reachable (Network.client_reachable (.step reach trivial stepped))) met stepped

end Attuned

/-! ## Agreement -/

/-- A Session that `open` has returned is vouched for by the Server at the other
end of its connection, which has answered nothing before the call began; and no
acknowledgement has completed another attempt than the one it answers. -/
structure Agreement (network : Network) : Prop where
  vouched : ∀ session call connection, network.client.calls session = some call →
    call.pc.stage = .returned (some connection) → network.Vouched connection session
  during : ∀ session, network.client.calls session = none →
    ∀ answer ∈ network.journal.answers, ∀ sent, answer.request = some sent →
      sent.envelope.session ≠ some session
  attempts : ∀ answered ticket, (answered, ticket) ∈ network.journal.completed →
    answered = some ticket

/-- Client and Servers agree on every `open`, as long as every attempt begins where
nothing of an earlier one is under way on its connection. -/
theorem open_agreement
    (reach : (exchangeSystem config).ReachableWhile (BeginsUnanswered config) network) :
    Agreement network where
  vouched := (Backed.reachable (reachable_of_reachableWhile reach)).caused.returned
  during session unknown answer member sent request named := by
    have sourced := Sourced.reachable (reachable_of_reachableWhile reach)
    obtain ⟨own, call, found, its, -⟩ := sourced.answers answer member sent request
    obtain rfl := Option.some.inj (named.symm.trans its)
    rw [unknown] at found
    cases found
  attempts := (Attuned.reachable reach).completed

/-! ## Two attempts on one connection -/

/-- The connection where an attempt begins is empty, and what its Server has handled last
was no `SessionOpen`. -/
def beginsUnanswered? (network : Network) : ExchangeEvent → Bool
  | .client (.call session .advance) =>
      match network.client.calls session with
      | some { pc := .acquired _ connection, .. } =>
          (network.client.connections connection).all
              (fun found => found.sender.items.isEmpty && decide (found.loop = .receiving)) &&
            (network.up connection).isEmpty &&
            ((network.handling connection).all fun sent => sent.envelope.kind != some .sessionOpen) &&
            (network.queues connection).items.isEmpty && (network.down connection).isEmpty
      | _ => true
  | _ => true

theorem beginsUnanswered_of_check (checked : beginsUnanswered? network event = true) :
    BeginsUnanswered config network event := by
  rintro session call target connection rfl found here - ticket way
  obtain ⟨address, pc, attempts, excluded, failedLiveOwner, expired⟩ := call
  obtain rfl : pc = .acquired target connection := here
  simp only [beginsUnanswered?, found, Bool.and_eq_true, List.isEmpty_iff] at checked
  obtain ⟨⟨⟨⟨idle, up⟩, handling⟩, queues⟩, down⟩ := checked
  have quiet : ∀ {traffic}, network.client.traffic connection = some traffic →
      traffic.queue = [] ∧ traffic.loop = .receiving := by
    rintro _ present
    obtain ⟨found, known, rfl⟩ := Option.map_eq_some_iff.mp present
    simpa [known, TransportConnection.traffic, List.isEmpty_iff] using idle
  cases way with
  | queued present member =>
      rw [(quiet present).1] at member
      cases member
  | wired member =>
      rw [up] at member
      cases member
  | handled held opens =>
      rw [held, Option.all_some, opens.1] at handling
      cases handling
  | answered member =>
      rw [queues] at member
      cases member
  | relayed member =>
      rw [down] at member
      cases member
  | arrived present loop =>
      rw [(quiet present).2] at loop
      cases loop

/-- A Client with one connection for each endpoint. -/
def kiosk : ExchangeConfig :=
  ⟨⟨2, 1, Nat.two_pos, Nat.one_pos⟩, fun _ => cartRuntime, (· == ⟨7⟩), 4⟩

/-- The Server finds another live owner and refuses the `SessionOpen`, and the call gives
its attempt up. -/
def refusedOn (server connection : Nat) : List ExchangeEvent :=
  [.transmit connection, .server server true (.conn connection .accept), .receive connection] ++
    ([.advance false, .reply (.owner (.ok (some ⟨⟨some ⟨"node-b", ⟨"b-1"⟩⟩, 1⟩, ⟨""⟩⟩))),
      .reply (.node (.ok (some { shop "node-b" "host-b" with sessionId := ⟨"b-1"⟩ }))),
      .advance false].map fun event => .server server true (.conn connection event)) ++
    [.relay connection, .arrive connection] ++
    onClient (.replicate 2 (.loop connection .advance) ++ .replicate 6 (.call ⟨7⟩ .advance)) ++
    [.transmit connection, .receive connection, .server server true (.conn connection (.advance false))]

/-- The next attempt goes out over the connection that is there, and is served. -/
def servedAgain : List ExchangeEvent :=
  onClient ([.call ⟨7⟩ (.reply (.owner (.ok none))),
    .call ⟨7⟩ (.nodes [shop "node-a" "host-a"] ["host-a"])] ++ .replicate 12 (.call ⟨7⟩ .advance)) ++
    [.transmit 1, .receive 1] ++
    ([.advance false, .reply (.owner (.ok none)), .reply (.permit true), .reply (.issued 0),
      .reply (.outcome (.ok (.applied ⟨""⟩))), .advance false, .advance false, .advance false,
      .advance false].map fun event => .server 0 true (.conn 1 event))

def openedAgain : List ExchangeEvent :=
  attemptOn 0 [.begin ⟨7⟩ cartAddress] [shop "node-a" "host-a"] ["host-a"] ++ refusedOn 0 1 ++
    servedAgain ++ returnedOn 0 1

/-- Two attempts of one call on one connection, each completed by its own answer. -/
theorem retried_attempt_agrees :
    ∃ network, (exchangeSystem kiosk).ReachableWhile (BeginsUnanswered kiosk) network ∧
      network.client.sessionOf ⟨7⟩ = some (cartAddress, 1) ∧
      network.journal.completed = [(some 0, 0), (some 1, 1)] ∧ Agreement network := by
  have meets : (exchangeSystem kiosk).Meets (BeginsUnanswered kiosk) (.fresh kiosk) openedAgain :=
    meets_mono (fun _ _ checked => beginsUnanswered_of_check checked)
      (@meets_of_meets? _ _ (exchangeSystem kiosk)
        (fun network event => beginsUnanswered? network event = true) _ _ _ (by decide +kernel))
  have ran : (((exchangeSystem kiosk).run? (.fresh kiosk) openedAgain).map fun network =>
      (network.client.sessionOf ⟨7⟩, network.journal.completed)) =
        some (some (cartAddress, 1), [(some 0, 0), (some 1, 1)]) := by
    decide +kernel
  obtain ⟨network, run, ended⟩ := Option.map_eq_some_iff.mp ran
  obtain ⟨opened, completed⟩ := Prod.mk.inj ended
  have reach := @reachableWhile_of_run? _ _ (exchangeSystem kiosk) _ _ _ openedAgain (.start rfl)
    meets run
  exact ⟨network, reach, opened, completed, open_agreement reach⟩

/-- The deadline passes before the Server answers, the next attempt finds the live
owner over the same connection, and then the Server answers the first one. -/
def answeredLate : List ExchangeEvent :=
  attemptOn 0 [.begin ⟨7⟩ cartAddress] [shop "node-a" "host-a"] ["host-a"] ++ servedOn 0 1 ++
    onClient ([.call ⟨7⟩ .expire, .call ⟨7⟩ .elapsed] ++ .replicate 5 (.call ⟨7⟩ .advance) ++
      [.call ⟨7⟩ (.reply (.owner (.ok (some ⟨cartRuntime.router.localClaim 1, ⟨""⟩⟩)))),
        .call ⟨7⟩ (.reply (.node (.ok (some { shop "node-a" "host-a" with sessionId := ⟨"a-1"⟩ }))))] ++
      .replicate 10 (.call ⟨7⟩ .advance)) ++
    returnedOn 0 1

/-- The acknowledgement of the first attempt completes the second one. -/
theorem acknowledgement_completes_later_attempt :
    ∃ network, (exchangeSystem kiosk).Reachable network ∧
      (some 0, 1) ∈ network.journal.completed ∧ ¬ Agreement network := by
  have ran : (((exchangeSystem kiosk).run? (.fresh kiosk) answeredLate).map fun network =>
      network.journal.completed) = some [(some 0, 1)] := by
    decide +kernel
  obtain ⟨network, run, completed⟩ := Option.map_eq_some_iff.mp ran
  have member : (some 0, 1) ∈ network.journal.completed := by
    rw [completed]
    exact List.mem_singleton_self _
  refine ⟨network, reachable_of_run? rfl run, member, fun agreement => ?_⟩
  cases agreement.attempts _ _ member

end Coactor.Exchange
