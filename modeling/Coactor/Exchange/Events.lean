import Coactor.Client.Streams
import Coactor.Exchange.Stamps

/-!
# Events in the order of their delivery

An Event that `deliver_event` has put into the queue of a connection crosses the
wire, the hand of a receive loop and the channel of its Session.  It may be lost
where a place is full, closed or unknown, and never overtakes another one.
-/

namespace Coactor.Exchange

open Coactor.Client
open Coactor.Foundation
open Coactor.Foundation.Transition
open Coactor.Runtime

variable {config : ExchangeConfig} {before after network : Network} {event : ExchangeEvent}
  {connection : Nat} {session : SessionId}

/-! ## Readings -/

/-- The payload of an Event for this Session. -/
def Replied.payloadFor? (session : SessionId) (replied : Replied) : Option (List UInt8) :=
  match replied.outbound with
  | .event own payload => if own = session then some payload else none
  | _ => none

/-- The payload of an Event that was accepted on this connection for this Session. -/
def deliveredPayload? (connection : Nat) (session : SessionId)
    (delivered : Nat × SessionId × List UInt8) : Option (List UInt8) :=
  if delivered.1 = connection ∧ delivered.2.1 = session then some delivered.2.2 else none

namespace Journal

/-- What `deliver_event` has put into the queue of a connection for a Session. -/
def deliveredOn (journal : Journal) (connection : Nat) (session : SessionId) :
    List (List UInt8) :=
  journal.delivered.filterMap (deliveredPayload? connection session)

/-- The Events that `recv` of a Session has yielded from a connection. -/
def yieldedOn (journal : Journal) (connection : Nat) (session : SessionId) : List (List UInt8) :=
  journal.yielded.filterMap (yieldedPayload? connection session)

end Journal

namespace Network

/-- What the Client has and had of the Events for a Session from a connection. -/
def heard (network : Network) (connection : Nat) (session : SessionId) : List (List UInt8) :=
  network.journal.yieldedOn connection session ++
    (network.client.waiting connection session ++ network.client.inHand connection session)

/-- The Events for a Session on the wire and in the queue of a connection. -/
def onWire (network : Network) (connection : Nat) (session : SessionId) : List (List UInt8) :=
  (network.down connection).filterMap (Replied.payloadFor? session) ++
    (network.queues connection).items.filterMap (Replied.payloadFor? session)

end Network

/-! ## One step -/

/-- What the Client makes of an Envelope from the wire. -/
theorem Replied.payloadFor_handle (replied : Replied) :
    replied.inbound.handle.payloadFor session = (replied.payloadFor? session).toList := by
  obtain ⟨ticket, outbound⟩ := replied
  cases outbound with
  | sessionOpenedAck own failure => cases failure <;> rfl
  | event own payload => rfl
  | sessionError own error =>
      simp [Replied.inbound, Inbound.handle, LoopPc.payloadFor, LoopPc.item?,
        SessionItem.payload?, Replied.payloadFor?]

/-- A step of the Client that takes nothing from the wire. -/
theorem heard_of_move {clientEvent : ClientEvent}
    (move : ClientMove config.client before.client after.client clientEvent)
    (silent : ∀ id inbound, clientEvent ≠ .loop id (.receive inbound))
    (journal : after.journal = before.journal.recordClient before.client after.client clientEvent) :
    (after.heard connection session).Sublist (before.heard connection session) := by
  rw [Network.heard, Network.heard, journal, Journal.yieldedOn, Journal.yieldedOn,
    Journal.recordClient, List.filterMap_append, List.append_assoc]
  exact (move.stream silent).append_left _

/-- A queue that has taken one more Envelope, or turned it down. -/
theorem onWire_of_offer {other : Nat} {replied : Replied} (down : after.down = before.down)
    (queues : after.queues = Function.update before.queues other
      ((before.queues other).offer replied)) :
    after.onWire connection session = before.onWire connection session ++
      if connection = other ∧ (before.queues other).accepts = true then
        (replied.payloadFor? session).toList else [] := by
  rw [Network.onWire, Network.onWire, down, queues]
  by_cases same : connection = other
  · subst same
    rw [Function.update_self]
    cases accepts : (before.queues connection).accepts with
    | true =>
        rw [if_pos ⟨rfl, rfl⟩, Channel.offer_of_accepts accepts, filterMap_enter,
          List.append_assoc]
    | false =>
        rw [if_neg (by rintro ⟨-, ⟨⟩⟩), Channel.offer_of_refuses accepts, List.append_nil]
  · rw [Function.update_of_ne same, if_neg (fun both => same both.1), List.append_nil]

/-- What is put into the queue is what the journal notes. -/
theorem deliveredPayload_of_offer (accepts : Bool) (delivery : EventDelivery) :
    (if connection = delivery.connection ∧ accepts = true then
      (Replied.payloadFor? session
        ⟨none, .event delivery.session delivery.payload⟩).toList else []).Sublist
      ((if accepts = true then [(delivery.connection, delivery.session, delivery.payload)]
        else []).filterMap (deliveredPayload? connection session)) := by
  cases accepts with
  | false =>
      rw [if_neg (by rintro ⟨-, ⟨⟩⟩)]
      exact List.nil_sublist _
  | true =>
      rw [if_pos rfl, filterMap_singleton]
      by_cases same : connection = delivery.connection
      · rw [if_pos ⟨same, rfl⟩]
        simp only [Replied.payloadFor?, deliveredPayload?, same, true_and]
        exact .refl _
      · rw [if_neg (fun both => same both.1)]
        exact List.nil_sublist _

/-- Every step passes Events on in their order, or loses some. -/
theorem NetworkMove.conveys (move : NetworkMove config before event after) :
    Conveys (before.heard connection session ++ before.onWire connection session)
      (before.journal.deliveredOn connection session)
      (after.heard connection session ++ after.onWire connection session)
      (after.journal.deliveredOn connection session) := by
  have offered : ∀ {later : Network} {other : Nat} {replied : Replied},
      later.heard connection session = before.heard connection session →
      later.down = before.down →
      later.queues = Function.update before.queues other ((before.queues other).offer replied) →
      (before.journal.deliveredOn connection session ++
        if connection = other ∧ (before.queues other).accepts = true then
          (replied.payloadFor? session).toList else []).Sublist
        (later.journal.deliveredOn connection session) →
      Conveys (before.heard connection session ++ before.onWire connection session)
        (before.journal.deliveredOn connection session)
        (later.heard connection session ++ later.onWire connection session)
        (later.journal.deliveredOn connection session) := by
    intro later other replied heard down queues recorded
    refine ⟨_, ?_, recorded⟩
    rw [heard, onWire_of_offer down queues, List.append_assoc]
  cases move with
  | @client clientEvent client allowed move =>
      refine .of_sublist (List.Sublist.append_right ?_ _) (.refl _)
      refine heard_of_move move ?_ rfl
      rintro id inbound rfl
      cases allowed
  | connect unaccepted move =>
      refine .of_sublist (List.Sublist.append_right ?_ _) (.refl _)
      exact heard_of_move move (by rintro id inbound ⟨⟩) Network.recordClient_call.symm
  | transmit found traffic move =>
      refine .of_sublist (List.Sublist.append_right ?_ _) (.refl _)
      exact heard_of_move move (by rintro id inbound ⟨⟩) Network.recordClient_transmit.symm
  | receive | server | conn | lookUp => exact .of_eq rfl rfl
  | @answer id other authorityValid connEvent server own failure linked stepped here there =>
      refine offered rfl rfl rfl ?_
      split <;> exact (List.append_nil _).symm ▸ .refl _
  | @report other own error =>
      refine offered rfl rfl rfl ?_
      split <;> exact (List.append_nil _).symm ▸ .refl _
  | @deliver index delivery found =>
      have heard : (before.delivered delivery).heard connection session =
          before.heard connection session := by
        unfold Network.delivered
        split <;> rfl
      by_cases linked : before.links delivery.connection = some delivery.server
      · refine @offered { before.delivered delivery with
            deliveries := before.deliveries.eraseIdx index } delivery.connection
          ⟨none, .event delivery.session delivery.payload⟩ heard ?_ ?_ ?_
        · simp only [Network.delivered, linked, if_true]
          rfl
        · simp only [Network.delivered, linked, if_true]
          rfl
        · simp only [Network.delivered, linked, if_true, Journal.deliveredOn,
            List.filterMap_append]
          exact (deliveredPayload_of_offer _ delivery).append_left _
      · have aside := before.delivered_aside delivery
        simp only [Network.delivered, linked, if_false]
        exact .of_eq rfl rfl
  | @relay other replied rest waiting =>
      refine .of_eq (congrArg (before.heard connection session ++ ·) ?_) rfl
      by_cases same : connection = other
      · subst same
        simp only [Network.onWire, Function.update_self, waiting]
        exact filterMap_pass _ _ _ _
      · simp only [Network.onWire, Function.update_of_ne same]
  | @arrive other replied rest client found waiting present here step =>
      have move := step.move
      rw [here] at move
      have channels : client.channels = before.client.channels := by
        cases move with
        | moves pendingOpens oneshots channels => exact channels
        | complete completes => cases completes
      have waits := @ClientInner.waiting_of_items before.client client session connection
        (by rw [channels])
      refine .of_eq ?_ rfl
      by_cases same : connection = other
      · subst same
        have empty := @ClientInner.inHand_of_loop before.client session connection _
          (ClientInner.traffic_eq_some present)
        have taken := @ClientInner.inHand_of_loop client session connection _
          (by rw [step.traffic, Function.update_self])
        simp only [Network.heard, Network.onWire, waits, empty, taken, here, Function.update_self,
          waiting, Replied.payloadFor_handle, LoopPc.payloadFor_receiving, filterMap_first,
          List.append_assoc, List.nil_append]
      · have kept := @ClientInner.inHand_of_traffic before.client client session connection
          (by rw [step.traffic, Function.update_of_ne same])
        simp only [Network.heard, Network.onWire, waits, kept, Function.update_of_ne same]
  | @hangUp other =>
      refine .of_eq (congrArg (before.heard connection session ++ ·) ?_) rfl
      by_cases same : connection = other
      · subst same
        simp only [Network.onWire, Function.update_self, Channel.close]
      · simp only [Network.onWire, Function.update_of_ne same]

/-! ## The run -/

/-- In every run, what a Session yields from a connection are Events that were
accepted on that connection for that Session, each at most once and in the order of
their acceptance. -/
theorem events_arrive_in_order (reach : (exchangeSystem config).Reachable network)
    (connection : Nat) (session : SessionId) :
    (network.journal.yieldedOn connection session).Sublist
      (network.journal.deliveredOn connection session) := by
  have line : (network.heard connection session ++ network.onWire connection session).Sublist
      (network.journal.deliveredOn connection session) := by
    refine invariant_of_step (fun network : Network =>
      (network.heard connection session ++ network.onWire connection session).Sublist
        (network.journal.deliveredOn connection session)) ?_ ?_ reach
    · rintro _ rfl
      exact .refl _
    · intro before event after ordered _ stepped
      exact (Network.step?_moves stepped).conveys.ordered ordered
  refine List.Sublist.trans ?_ line
  rw [Network.heard, List.append_assoc]
  exact List.sublist_append_left _ _

/-- An Event that the Server pushes is yielded. -/
theorem pushed_event_arrives :
    ∃ network, (exchangeSystem market).Reachable network ∧
      network.journal.yieldedOn 1 ⟨7⟩ = [[5]] ∧
      [[5]].Sublist (network.journal.deliveredOn 1 ⟨7⟩) := by
  have reach := @reachable_of_run? _ _ (exchangeSystem market) _ _
    (pushedWhileOpen ++ [.client (.recv ⟨7⟩)]) rfl rfl
  exact ⟨_, reach, rfl, @events_arrive_in_order market _ reach 1 ⟨7⟩⟩

end Coactor.Exchange
