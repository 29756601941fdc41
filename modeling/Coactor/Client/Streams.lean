import Coactor.Client.Reception
import Coactor.Foundation.Conveyor

/-!
# What a Session sends and receives

The Actions of a Session wait in the queue of its connection.  An Event for it
comes into the hand of a receive loop, then into the channel of the Session, and
is yielded.  Either way no step of the Client changes their order.
-/

namespace Coactor.Client

open Coactor.Foundation
open Coactor.Runtime

variable {config : ClientConfig} {client after : ClientInner} {session : SessionId}
  {connection : Nat}

/-! ## Events that arrive -/

def SessionItem.payload? : SessionItem → Option (List UInt8)
  | .ok payload => some payload
  | .error _ => none

/-- The payload of an Event that came from this connection. -/
def Received.payloadFrom? (connection : Nat) (received : Received) : Option (List UInt8) :=
  if received.source = some connection then received.item.payload? else none

/-- The payload of an Event that this Session has yielded from this connection. -/
def yieldedPayload? (connection : Nat) (session : SessionId) (yielded : SessionId × Received) :
    Option (List UInt8) :=
  if yielded.1 = session then yielded.2.payloadFrom? connection else none

/-- The Event for this Session in the hand of a receive loop. -/
def LoopPc.payloadFor (session : SessionId) (loop : LoopPc) : List (List UInt8) :=
  (loop.item?.bind fun item => if item.1 = session then item.2.payload? else none).toList

namespace ClientInner

/-- The Events from this connection in the channel of a Session. -/
def waiting (client : ClientInner) (connection : Nat) (session : SessionId) : List (List UInt8) :=
  (client.channels session).items.filterMap (Received.payloadFrom? connection)

/-- The Event for this Session in the hand of the receive loop of a connection. -/
def inHand (client : ClientInner) (connection : Nat) (session : SessionId) : List (List UInt8) :=
  (client.traffic connection).elim [] fun traffic => traffic.loop.payloadFor session

theorem waiting_of_items
    (same : (after.channels session).items = (client.channels session).items) :
    after.waiting connection session = client.waiting connection session := by
  rw [waiting, waiting, same]

theorem inHand_of_loop {traffic : Traffic} (found : client.traffic connection = some traffic) :
    client.inHand connection session = traffic.loop.payloadFor session := by
  rw [inHand, found, Option.elim_some]

theorem inHand_of_traffic (same : after.traffic connection = client.traffic connection) :
    after.inHand connection session = client.inHand connection session := by
  rw [inHand, inHand, same]

/-- An item that is no Event from this connection. -/
theorem waiting_offer_unread {other : SessionId} {received : Received}
    (unread : received.payloadFrom? connection = none)
    (channels : after.channels = Function.update client.channels other
      ((client.channels other).offer received)) :
    after.waiting connection session = client.waiting connection session := by
  rw [waiting, channels]
  by_cases same : session = other
  · subst same
    rw [Function.update_self]
    cases accepts : (client.channels session).accepts with
    | true =>
        rw [Channel.offer_of_accepts accepts]
        rw [filterMap_enter, unread, Option.toList_none, List.append_nil]
        rfl
    | false =>
        rw [Channel.offer_of_refuses accepts]
        rfl
  · rw [Function.update_of_ne same]
    rfl

end ClientInner

theorem SameLoop.inHand {traffic : Traffic} (same : SameLoop client connection traffic) :
    (traffic.loop.payloadFor session).Sublist (client.inHand connection session) := by
  rcases same with (idle | idle) | ⟨old, known, same⟩
  · rw [idle]
    exact List.nil_sublist _
  · rw [idle]
    exact List.nil_sublist _
  · rw [ClientInner.inHand_of_loop known, same]

theorem LoopPc.payloadFor_receiving : LoopPc.receiving.payloadFor session = [] := rfl

theorem LoopPc.payloadFor_pushing {item : SessionItem} :
    (LoopPc.pushing session item).payloadFor session = item.payload?.toList := by
  rw [payloadFor, item?, Option.bind_some, if_pos rfl]

/-- Apart from the receive loops nothing takes an Event in hand. -/
theorem ClientMove.inHand {event : ClientEvent} (move : ClientMove config client after event)
    (outside : ∀ id loopEvent, event ≠ .loop id loopEvent) :
    (after.inHand connection session).Sublist (client.inHand connection session) := by
  cases present : after.traffic connection with
  | none =>
      rw [ClientInner.inHand, present]
      exact List.nil_sublist _
  | some traffic =>
      rw [ClientInner.inHand_of_loop present]
      exact (move.sameLoop outside present).inHand

/-- An Event in the hand of a loop goes on, is handed to its Session, or is dropped. -/
theorem LoopMove.stream {loopEvent : LoopEvent} {loop later : LoopPc}
    (move : LoopMove client after connection loopEvent loop later)
    (silent : ∀ inbound, loopEvent ≠ .receive inbound) :
    (after.waiting connection session ++ later.payloadFor session).Sublist
      (client.waiting connection session ++ loop.payloadFor session) := by
  have kept : ∀ {next : LoopPc}, after.channels = client.channels →
      (next.payloadFor session).Sublist (loop.payloadFor session) →
      (after.waiting connection session ++ next.payloadFor session).Sublist
        (client.waiting connection session ++ loop.payloadFor session) := by
    intro next channels moved
    have same := @ClientInner.waiting_of_items client after session connection (by rw [channels])
    rw [same]
    exact moved.append_left _
  cases move with
  | moves pendingOpens oneshots channels receivers move =>
      refine kept channels ?_
      cases move with
      | receive inbound arrived => exact absurd arrived (silent inbound)
      | bound | found => exact .refl _
      | _ => exact List.nil_sublist _
  | @push own item pendingOpens oneshots channels =>
      rw [ClientInner.waiting, channels]
      by_cases same : session = own
      · subst same
        rw [Function.update_self]
        cases accepts : (client.channels session).accepts with
        | true =>
            rw [Channel.offer_of_accepts accepts, filterMap_enter, Received.payloadFrom?, if_pos rfl,
              LoopPc.payloadFor_pushing]
            exact (List.append_nil _).symm ▸ .refl _
        | false =>
            rw [Channel.offer_of_refuses accepts]
            exact (List.nil_sublist _).append_left _
      · rw [Function.update_of_ne same]
        exact (List.nil_sublist _).append_left _
  | take pending pendingOpens oneshots channels | lose pending pendingOpens oneshots channels =>
      exact kept channels (List.nil_sublist _)
  | complete completes idle live there pendingOpens oneshots channels =>
      refine kept channels ?_
      rcases there with rfl | ⟨rest, -, rfl⟩ <;> exact List.nil_sublist _
  | @terminate own rest pendingOpens oneshots channels =>
      rcases channels with channels | channels
      · exact kept channels (List.nil_sublist _)
      · rw [ClientInner.waiting_offer_unread (by rw [Received.payloadFrom?, if_pos rfl]; rfl) channels]
        exact (List.nil_sublist _).append_left _

/-- The loop of one connection hands over nothing from another. -/
theorem LoopMove.waiting_of_ne {id : Nat} {loopEvent : LoopEvent} {loop later : LoopPc}
    (move : LoopMove client after id loopEvent loop later) (other : connection ≠ id) :
    after.waiting connection session = client.waiting connection session := by
  have unread : ∀ item : SessionItem,
      Received.payloadFrom? connection ⟨some id, item⟩ = none := by
    intro item
    rw [Received.payloadFrom?, if_neg]
    rintro ⟨⟩
    exact other rfl
  cases move with
  | moves pendingOpens oneshots channels | take pending pendingOpens oneshots channels
  | lose pending pendingOpens oneshots channels
  | complete completes idle live there pendingOpens oneshots channels =>
      exact ClientInner.waiting_of_items (by rw [channels])
  | push pendingOpens oneshots channels =>
      exact ClientInner.waiting_offer_unread (unread _) channels
  | terminate pendingOpens oneshots channels =>
      rcases channels with channels | channels
      · exact ClientInner.waiting_of_items (by rw [channels])
      · exact ClientInner.waiting_offer_unread (unread _) channels

/-- What a Session yields comes from the front of its channel, and the Events behind it
stay in order. -/
theorem ClientMove.stream {event : ClientEvent} (move : ClientMove config client after event)
    (silent : ∀ id inbound, event ≠ .loop id (.receive inbound)) :
    ((yieldedBy client event).toList.filterMap (yieldedPayload? connection session) ++
      (after.waiting connection session ++ after.inHand connection session)).Sublist
      (client.waiting connection session ++ client.inHand connection session) := by
  have kept : (after.channels session).items = (client.channels session).items →
      (∀ id loopEvent, event ≠ .loop id loopEvent) →
      (after.waiting connection session ++ after.inHand connection session).Sublist
        (client.waiting connection session ++ client.inHand connection session) := by
    intro items outside
    have same := @ClientInner.waiting_of_items client after session connection items
    rw [same]
    exact (move.inHand outside).append_left _
  cases move with
  | begin unknown running calls receivers begun same channels =>
      exact kept (by rw [channels]) (by rintro id loopEvent ⟨⟩)
  | call found step => exact kept (step.aside.items session) (by rintro id loopEvent ⟨⟩)
  | transmit found traffic same channels | hangUp traffic same channels
  | send traffic same channels | sending traffic unsent same channels
  | act opened here found traffic sent same channels =>
      exact kept (by rw [channels]) (by rintro id loopEvent ⟨⟩)
  | @loop id loopEvent found next known step =>
      by_cases own : connection = id
      · subst own
        rw [ClientInner.inHand_of_loop (ClientInner.traffic_eq_some known),
          ClientInner.inHand_of_loop (by rw [step.traffic, Function.update_self])]
        refine step.move.stream ?_
        rintro inbound rfl
        exact silent connection inbound rfl
      · have same := @LoopMove.waiting_of_ne client after session connection id _ _ _ step.move own
        have hand := @ClientInner.inHand_of_traffic client after session connection
          (by rw [step.traffic, Function.update_of_ne own])
        rw [same, hand]
        exact .refl _
  | @recv own received rest waiting channels traffic =>
      have hand := @ClientInner.inHand_of_traffic client after session connection (by rw [traffic])
      rw [hand, ← List.append_assoc]
      refine List.Sublist.append_right ?_ _
      rw [yieldedBy, Channel.receive?, waiting, ClientInner.waiting, ClientInner.waiting, channels]
      by_cases same : session = own
      · subst same
        rw [Function.update_self]
        cases seen : received.payloadFrom? connection with
        | none => simp [yieldedPayload?, waiting, seen]
        | some payload => simp [yieldedPayload?, waiting, seen]
      · rw [Function.update_of_ne same]
        simp [yieldedPayload?, Ne.symm same]
  | shutdown step =>
      rcases step.channels with channels | ⟨other, channels⟩
      · exact kept (by rw [channels]) (by rintro id loopEvent ⟨⟩)
      · have same := @ClientInner.waiting_offer_unread client after session connection other
          ⟨none, .error .runtimeStopped⟩ (by rw [Received.payloadFrom?, if_neg (by rintro ⟨⟩)])
          channels
        have hand := @ClientInner.inHand_of_traffic client after session connection
          (by rw [step.traffic])
        rw [same, hand]
        exact .refl _

/-! ## Actions that leave -/

/-- The payload of an Action of this Session. -/
def Sent.payloadOf? (session : SessionId) (sent : Sent) : Option (List UInt8) :=
  match sent.envelope.session, sent.envelope.kind with
  | some own, some (.action payload) => if own = session then some payload else none
  | _, _ => none

theorem Sent.payloadOf?_of_kind {sent : Sent}
    (kind : ∀ payload, sent.envelope.kind ≠ some (.action payload)) :
    sent.payloadOf? session = none := by
  unfold Sent.payloadOf?
  split
  · rename_i own payload named acts
    exact absurd acts (kind payload)
  · rfl

/-- The payload of an Action that this Session has handed to its connection. -/
def sentPayload? (session : SessionId) (action : SessionId × List UInt8) : Option (List UInt8) :=
  if action.1 = session then some action.2 else none

/-- What waits for the sender of a connection. -/
def ClientInner.queue (client : ClientInner) (connection : Nat) : List Sent :=
  (client.traffic connection).elim [] Traffic.queue

/-- The Actions of a Session among it. -/
def ClientInner.outgoing (client : ClientInner) (connection : Nat) (session : SessionId) :
    List (List UInt8) :=
  (client.queue connection).filterMap (Sent.payloadOf? session)

/-- What a step hands to the sender of a connection: no Action, or the Action of a
Session that `open` has returned with this connection. -/
inductive ClientInner.Adds (client : ClientInner) (event : ClientEvent) (connection : Nat)
    (sent : Sent) : Prop where
  | other (kind : ∀ payload, sent.envelope.kind ≠ some (.action payload))
  | act {session : SessionId} {call : OpenCall} {payload : List UInt8}
      (known : client.calls session = some call) (opened : call.pc = .opened connection)
      (acts : sentBy client event = some (session, payload))
      (same : sent = ⟨none, envelopeAction call.address session payload⟩)

theorem ClientInner.queue_of_traffic {queue : List Sent} {loop : LoopPc}
    (found : client.traffic connection = some ⟨queue, loop⟩) : client.queue connection = queue := by
  rw [ClientInner.queue, found, Option.elim_some]

/-- A step hands at most one message to a sender, and takes at most the first away. -/
theorem ClientMove.queue {event : ClientEvent} (move : ClientMove config client after event) :
    ∃ new : List Sent, (after.queue connection).Sublist (client.queue connection ++ new) ∧
      (new = [] ∨ ∃ sent, new = [sent] ∧ client.Adds event connection sent) := by
  have same : after.traffic connection = client.traffic connection →
      ∃ new : List Sent, (after.queue connection).Sublist (client.queue connection ++ new) ∧
        (new = [] ∨ ∃ sent, new = [sent] ∧ client.Adds event connection sent) := by
    intro same
    refine ⟨[], ?_, .inl rfl⟩
    rw [ClientInner.queue, ClientInner.queue, same, List.append_nil]
  have updated : ∀ {other : Nat} {queue : List Sent} {loop : LoopPc} {new : List Sent},
      after.traffic = Function.update client.traffic other (some ⟨queue, loop⟩) →
      (connection = other → queue.Sublist (client.queue connection ++ new)) →
      (connection = other →
        new = [] ∨ ∃ sent, new = [sent] ∧ client.Adds event connection sent) →
      ∃ new : List Sent, (after.queue connection).Sublist (client.queue connection ++ new) ∧
        (new = [] ∨ ∃ sent, new = [sent] ∧ client.Adds event connection sent) := by
    intro other queue loop new changed here added
    by_cases own : connection = other
    · refine ⟨new, ?_, added own⟩
      rw [ClientInner.queue_of_traffic (by rw [changed, own, Function.update_self])]
      exact here own
    · exact same (by rw [changed, Function.update_of_ne own])
  have kept : ∀ {other : Nat} {queue later : List Sent} {loop loop' : LoopPc},
      client.traffic other = some ⟨queue, loop⟩ → later.Sublist queue →
      after.traffic = Function.update client.traffic other (some ⟨later, loop'⟩) →
      ∃ new : List Sent, (after.queue connection).Sublist (client.queue connection ++ new) ∧
        (new = [] ∨ ∃ sent, new = [sent] ∧ client.Adds event connection sent) := by
    intro other queue later loop loop' found moved changed
    refine updated changed (fun own => ?_) fun _ => .inl rfl
    rw [ClientInner.queue_of_traffic (own ▸ found), List.append_nil]
    exact moved
  have appended : ∀ {other : Nat} {queue : List Sent} {loop : LoopPc} {sent : Sent},
      client.traffic other = some ⟨queue, loop⟩ →
      after.traffic = Function.update client.traffic other (some ⟨queue ++ [sent], loop⟩) →
      (connection = other → client.Adds event connection sent) →
      ∃ new : List Sent, (after.queue connection).Sublist (client.queue connection ++ new) ∧
        (new = [] ∨ ∃ sent, new = [sent] ∧ client.Adds event connection sent) := by
    intro other queue loop sent found changed added
    refine updated changed (fun own => ?_) fun own => .inr ⟨sent, rfl, added own⟩
    rw [ClientInner.queue_of_traffic (own ▸ found)]
  cases move with
  | begin unknown running calls receivers begun others => exact same (by rw [others.traffic])
  | @call own openEvent call next known step =>
      cases step.move with
      | quiet others => exact same (by rw [others.traffic])
      | connect here onward traffic =>
          exact updated traffic (fun _ => List.nil_sublist _) fun _ => .inl rfl
      | spawn here onward id queue unspawned traffic => exact kept unspawned (.refl _) traffic
      | attempt target id here left onward traffic => exact same (by rw [traffic])
      | send id ticket here onward queue loop found traffic
      | close id queue loop stays found traffic =>
          exact appended found traffic fun _ => .other (by rintro payload ⟨⟩)
      | retract here onward traffic => exact same (by rw [traffic])
  | loop found step => exact kept (ClientInner.traffic_eq_some found) (.refl _) step.traffic
  | @transmit id sent rest loop found traffic =>
      exact kept found (List.sublist_cons_self sent rest) traffic
  | hangUp traffic | send traffic | sending traffic | recv found channels traffic =>
      exact same (by rw [traffic])
  | act opened here found traffic sent others =>
      exact appended found traffic fun own => .act opened (own ▸ here) sent rfl
  | shutdown step => exact same (by rw [step.traffic])

theorem ClientInner.Adds.payload {event : ClientEvent} {sent : Sent}
    (adds : client.Adds event connection sent) :
    (sent.payloadOf? session).toList.Sublist
      ((sentBy client event).toList.filterMap (sentPayload? session)) := by
  cases adds with
  | other kind =>
      rw [Sent.payloadOf?_of_kind kind]
      exact List.nil_sublist _
  | @act own call payload known opened acts same =>
      rw [acts, same, Option.toList_some]
      by_cases mine : own = session
      · simp [Sent.payloadOf?, envelopeAction, sentPayload?, mine]
      · simp [Sent.payloadOf?, envelopeAction, mine]

/-- The Action that a step hands to a connection comes last. -/
theorem ClientMove.outgoing {event : ClientEvent} (move : ClientMove config client after event) :
    Conveys (client.outgoing connection session) [] (after.outgoing connection session)
      ((sentBy client event).toList.filterMap (sentPayload? session)) := by
  obtain ⟨new, moved, added⟩ := @ClientMove.queue config client after connection event move
  refine ⟨new.filterMap (Sent.payloadOf? session), ?_, ?_⟩
  · rw [ClientInner.outgoing, ClientInner.outgoing, ← List.filterMap_append]
    exact moved.filterMap _
  · rcases added with rfl | ⟨sent, rfl, adds⟩
    · exact List.nil_sublist _
    · rw [filterMap_singleton]
      exact adds.payload

/-- An Action in the queue of a connection has been there before, or its Session has
just handed it over. -/
theorem ClientMove.action_origin {event : ClientEvent} {sent : Sent} {payload : List UInt8}
    (move : ClientMove config client after event) (member : sent ∈ after.queue connection)
    (acts : sent.payloadOf? session = some payload) :
    sent ∈ client.queue connection ∨
      ∃ call, client.calls session = some call ∧ call.pc = .opened connection ∧
        sent.envelope.address = some call.address := by
  obtain ⟨new, moved, added⟩ := @ClientMove.queue config client after connection event move
  refine (List.mem_append.mp (moved.subset member)).imp_right fun last => ?_
  rcases added with rfl | ⟨only, rfl, adds⟩
  · cases last
  · obtain rfl := List.mem_singleton.mp last
    cases adds with
    | other kind =>
        rw [Sent.payloadOf?_of_kind kind] at acts
        cases acts
    | @act own call payload known opened sends same =>
        subst same
        simp only [Sent.payloadOf?, envelopeAction] at acts
        split at acts
        · rename_i mine
          subst mine
          exact ⟨call, known, opened, rfl⟩
        · cases acts

/-- A call that has returned a Session keeps its connection. -/
theorem ClientMove.stays_returned {event : ClientEvent} {call : OpenCall}
    (move : ClientMove config client after event) (found : client.calls session = some call)
    (returned : call.pc.stage = .returned (some connection)) :
    ∃ next, after.calls session = some next ∧ next.address = call.address ∧
      next.pc.stage = .returned (some connection) := by
  have same : after.calls = client.calls → ∃ next, after.calls session = some next ∧
      next.address = call.address ∧ next.pc.stage = .returned (some connection) :=
    fun same => ⟨call, same ▸ found, rfl, returned⟩
  cases move with
  | @begin own address unknown running calls =>
      refine ⟨call, ?_, rfl, returned⟩
      rw [calls, Function.update_of_ne]
      · exact found
      · rintro rfl
        rw [unknown] at found
        cases found
  | @call own event current next known step =>
      rw [step.calls]
      by_cases mine : session = own
      · subst mine
        obtain rfl := Option.some.inj (known.symm.trans found)
        refine ⟨next, Function.update_self _ _ _, step.onward.address, ?_⟩
        have move := step.move
        cases move with
        | quiet same move =>
            rw [returned] at move
            generalize next.pc.stage = stage at move
            cases move
            rfl
        | connect here | spawn here =>
            rw [returned] at here
            cases here
        | attempt target id here =>
            rw [here] at returned
            cases returned
        | send id ticket here =>
            rw [returned] at here
            cases here
        | close id queue loop stays => exact stays.trans returned
        | retract here =>
            rw [returned] at here
            rcases here with cleaning | preparing
            · cases cleaning
            · cases preparing
      · exact ⟨call, by rw [Function.update_of_ne mine, found], rfl, returned⟩
  | loop known step => exact same step.calls
  | transmit known traffic others | hangUp traffic others | send traffic others
  | sending traffic silent others | act opened here known traffic sent others =>
      exact same others.calls
  | recv known channels traffic others => exact same others.calls
  | shutdown step => exact same step.calls

end Coactor.Client
