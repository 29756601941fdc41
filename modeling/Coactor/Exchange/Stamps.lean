import Mathlib.Data.List.Forall2
import Coactor.Client.Listening
import Coactor.Exchange.Moves

/-!
# Where the stream of a Session comes from

An Envelope that a Server pushes for a Session crosses the queue of its
connection, the wire, the hand of a receive loop and the channel of the Session.
Beside these a stamped exchange keeps how many `SessionOpen` messages the Client
had sent when the Envelope was pushed and when it arrived.  The stamps are
written from the state before a step, and no step reads them.
-/

namespace Coactor.Exchange

open Coactor.Client
open Coactor.Coordination
open Coactor.Foundation
open Coactor.Foundation.Transition
open Coactor.Runtime

/-! ## Stamps -/

/-- Where an Envelope arrived, with the numbers of `SessionOpen` messages sent
when it was pushed and when it arrived. -/
structure Stamp where
  connection : Nat
  pushed : SessionId → Nat
  arrived : SessionId → Nat

/-- An exchange with the stamps of what is on its way; what the Client puts into
the channel of a Session by itself has none. -/
structure Stamped where
  network : Network
  queued : Nat → List (SessionId → Nat)
  wired : Nat → List (SessionId → Nat)
  held : Nat → Option Stamp
  kept : SessionId → List (Option Stamp)

/-- A new stamp if the stamped list has grown. -/
def grown {Item Mark : Type} (before after : List Item) (mark : Mark) (marks : List Mark) :
    List Mark :=
  if before.length < after.length then marks ++ [mark] else marks

/-- The stamp of what a receive loop with a stamped hand puts into a channel. -/
def handedBy (held : Option Stamp) : LoopPc → Option Stamp
  | .pushing _ _ => held
  | _ => none

namespace Stamped

def fresh (config : ExchangeConfig) : Stamped :=
  ⟨.fresh config, fun _ => [], fun _ => [], fun _ => none, fun _ => []⟩

variable (state : Stamped)

def queuedAfter (after : Network) : ExchangeEvent → Nat → List (SessionId → Nat)
  | .relay connection => Function.update state.queued connection (state.queued connection).tail
  | _ => fun connection => grown (state.network.queues connection).items
      (after.queues connection).items state.network.client.opens (state.queued connection)

def wiredAfter : ExchangeEvent → Nat → List (SessionId → Nat)
  | .relay connection => Function.update state.wired connection
      (state.wired connection ++ (state.queued connection).head?.toList)
  | .arrive connection => Function.update state.wired connection (state.wired connection).tail
  | _ => state.wired

def heldAfter : ExchangeEvent → Nat → Option Stamp
  | .arrive connection => Function.update state.held connection
      ((state.wired connection).head?.map fun pushed =>
        ⟨connection, pushed, state.network.client.opens⟩)
  | _ => state.held

/-- The stamp of what a receive loop hands to a Session. -/
def handed : ExchangeEvent → Option Stamp
  | .client (.loop connection _) =>
      (state.network.client.connections connection).bind fun found =>
        handedBy (state.held connection) found.loop
  | _ => none

def keptAfter (after : Network) (event : ExchangeEvent) : SessionId → List (Option Stamp) :=
  match event with
  | .client (.recv session) => Function.update state.kept session (state.kept session).tail
  | _ => fun session => grown (state.network.client.channels session).items
      (after.client.channels session).items (state.handed event) (state.kept session)

def record (after : Network) (event : ExchangeEvent) : Stamped where
  network := after
  queued := state.queuedAfter after event
  wired := state.wiredAfter event
  held := state.heldAfter event
  kept := state.keptAfter after event

end Stamped

/-- Every interleaving of a Client, its Servers and the transport, stamped. -/
def stampedSystem (config : ExchangeConfig) : System Stamped ExchangeEvent where
  initial := fun state => state = .fresh config
  step? := fun state event =>
    (state.network.step? config event).map fun after => state.record after event

variable {config : ExchangeConfig} {state next : Stamped} {event : ExchangeEvent}
  {client : ClientInner} {session : SessionId} {connection : Nat}

theorem stamped_step (stepped : (stampedSystem config).step? state event = some next) :
    ∃ after, (exchangeSystem config).step? state.network event = some after ∧
      next = state.record after event := by
  obtain ⟨after, moved, rfl⟩ := Option.map_eq_some_iff.mp stepped
  exact ⟨after, moved, rfl⟩

/-- A stamped run is a run of the exchange. -/
theorem network_of_stamped {guard : Stamped → ExchangeEvent → Prop}
    (reach : (stampedSystem config).ReachableWhile guard state) :
    (exchangeSystem config).Reachable state.network := by
  refine invariant_of_step
    (fun state : Stamped => (exchangeSystem config).Reachable state.network) ?_ ?_ reach
  · rintro _ rfl
    exact .start rfl
  · intro before event after earlier _ stepped
    obtain ⟨network, moved, rfl⟩ := stamped_step stepped
    exact .step earlier trivial moved

/-! ## Stamped streams -/

/-- The Session that receives an Envelope as part of its stream. -/
def Replied.toward? (replied : Replied) : Option SessionId :=
  match replied.outbound with
  | .sessionOpenedAck _ _ => none
  | .event session _ | .sessionError session _ => some session

/-- What is on its way on the connection that its Session listens to was pushed
after the last `SessionOpen` was sent. -/
def OnWay (client : ClientInner) (connection : Nat) (replied : Replied)
    (pushed : SessionId → Nat) : Prop :=
  ∀ session sent, replied.toward? = some session → client.Listens session connection sent →
    pushed session = sent

/-- What was pushed and has arrived on the connection that its Session listens
to, after the last `SessionOpen` was sent. -/
def Stamp.IsCurrent (stamp : Stamp) (client : ClientInner) (session : SessionId) : Prop :=
  ∀ connection sent, client.Listens session connection sent →
    stamp.connection = connection ∧ stamp.pushed session = sent ∧ stamp.arrived session = sent

def InHand (client : ClientInner) (connection : Nat) (held : Option Stamp) : LoopPc → Prop
  | .delivering session _ => ∃ stamp, held = some stamp ∧ stamp.connection = connection ∧
      ∀ sent, client.Listens session connection sent → stamp.IsCurrent client session
  | .looking session _ | .pushing session _ => ∃ stamp, held = some stamp ∧
      stamp.connection = connection ∧ stamp.IsCurrent client session
  | _ => True

def InChannel (client : ClientInner) (session : SessionId) (received : Received) :
    Option Stamp → Prop
  | some stamp => received.source = some stamp.connection ∧ stamp.IsCurrent client session
  | none =>
      received.item = .error .remoteUnavailable ∨ received.item = .error .runtimeStopped

/-- The stamps of everything on its way, as this Client listens. -/
structure Marked (client : ClientInner) (state : Stamped) : Prop where
  queued : ∀ connection, List.Forall₂ (OnWay client connection)
    (state.network.queues connection).items (state.queued connection)
  wired : ∀ connection, List.Forall₂ (OnWay client connection) (state.network.down connection)
    (state.wired connection)
  held : ∀ connection traffic, state.network.client.traffic connection = some traffic →
    InHand client connection (state.held connection) traffic.loop
  kept : ∀ session, List.Forall₂ (InChannel client session)
    (state.network.client.channels session).items (state.kept session)

/-- Nothing that a Server has pushed for a Session is on its way on a connection,
and none of it waits for the Session already. -/
structure Unheard (state : Stamped) (session : SessionId) (connection : Nat) : Prop where
  queued : ∀ replied ∈ (state.network.queues connection).items, replied.toward? ≠ some session
  wired : ∀ replied ∈ state.network.down connection, replied.toward? ≠ some session
  delivering : ∀ traffic item, state.network.client.traffic connection = some traffic →
    traffic.loop ≠ .delivering session item
  found : ∀ id traffic item, state.network.client.traffic id = some traffic →
    traffic.loop ≠ .looking session item ∧ traffic.loop ≠ .pushing session item
  kept : ∀ stamp ∈ state.kept session, stamp = none

/-- A `SessionOpen` is sent only while nothing that was pushed for its Session is
on its way on the same connection or waits for the Session. -/
def OpensUnheard (state : Stamped) (event : ExchangeEvent) : Prop :=
  ∀ clientEvent session connection, event = .client clientEvent →
    state.network.client.SendsOpen clientEvent session connection →
    Unheard state session connection

/-! ## How stamps stay right -/

theorem forall₂_grown {Item Mark : Type} {relation : Item → Mark → Prop} {before after : List Item}
    {mark : Mark} {marks : List Mark} (related : List.Forall₂ relation before marks)
    (grows : after = before ∨ ∃ item, after = before ++ [item] ∧ relation item mark) :
    List.Forall₂ relation after (grown before after mark marks) := by
  rcases grows with rfl | ⟨item, rfl, new⟩
  · simpa only [grown, Nat.lt_irrefl, if_false] using related
  · have longer : before.length < (before ++ [item]).length := by simp
    simp only [grown, longer, if_true]
    exact List.rel_append related (.cons new .nil)

theorem forall₂_mem {Item Mark : Type} {relation later : Item → Mark → Prop} {items : List Item}
    {marks : List Mark} (related : List.Forall₂ relation items marks)
    (keeps : ∀ item mark, item ∈ items → mark ∈ marks → relation item mark → later item mark) :
    List.Forall₂ later items marks := by
  induction related with
  | nil => exact .nil
  | cons first rest ih =>
      exact .cons (keeps _ _ List.mem_cons_self List.mem_cons_self first)
        (ih fun item mark member marked => keeps item mark (.tail _ member) (.tail _ marked))

/-- Whoever listens in one state listened in the other, or nothing is on its way. -/
def ListensFrom (state : Stamped) (client later : ClientInner) : Prop :=
  ∀ session connection sent, later.Listens session connection sent →
    client.Listens session connection sent ∨ Unheard state session connection

theorem Marked.mono {later : ClientInner} (marked : Marked client state)
    (from' : ListensFrom state client later) : Marked later state where
  queued connection := by
    refine forall₂_mem (marked.queued connection) fun replied pushed member _ onWay => ?_
    intro session sent toward listens
    rcases from' session connection sent listens with before | unheard
    · exact onWay session sent toward before
    · exact absurd toward (unheard.queued replied member)
  wired connection := by
    refine forall₂_mem (marked.wired connection) fun replied pushed member _ onWay => ?_
    intro session sent toward listens
    rcases from' session connection sent listens with before | unheard
    · exact onWay session sent toward before
    · exact absurd toward (unheard.wired replied member)
  held connection traffic present := by
    have inHand := marked.held connection traffic present
    cases here : traffic.loop with
    | delivering session item =>
        rw [here] at inHand
        obtain ⟨stamp, held, there, current⟩ := inHand
        refine ⟨stamp, held, there, fun sent listens => ?_⟩
        rcases from' session connection sent listens with before | unheard
        · intro other again later
          obtain ⟨rfl, rfl⟩ := listens.unique later
          exact current _ before _ _ before
        · exact absurd here (unheard.delivering traffic item present)
    | looking session item =>
        rw [here] at inHand
        obtain ⟨stamp, held, there, current⟩ := inHand
        refine ⟨stamp, held, there, fun other sent listens => ?_⟩
        rcases from' session other sent listens with before | unheard
        · exact current other sent before
        · exact absurd here (unheard.found connection traffic item present).1
    | pushing session item =>
        rw [here] at inHand
        obtain ⟨stamp, held, there, current⟩ := inHand
        refine ⟨stamp, held, there, fun other sent listens => ?_⟩
        rcases from' session other sent listens with before | unheard
        · exact current other sent before
        · exact absurd here (unheard.found connection traffic item present).2
    | _ => trivial
  kept session := by
    refine forall₂_mem (marked.kept session) fun received stamp _ member inChannel => ?_
    cases stamp with
    | none => exact inChannel
    | some stamp =>
        obtain ⟨source, current⟩ := inChannel
        refine ⟨source, fun connection sent listens => ?_⟩
        rcases from' session connection sent listens with before | unheard
        · exact current connection sent before
        · cases unheard.kept _ member

theorem onWay_opens {replied : Replied} : OnWay client connection replied client.opens :=
  fun _ _ _ listens => listens.opens

theorem offer_grows {channel : Channel Replied} {replied : Replied} {pushed : SessionId → Nat}
    (onWay : OnWay client connection replied pushed) :
    (channel.offer replied).items = channel.items ∨
      ∃ item, (channel.offer replied).items = channel.items ++ [item] ∧
        OnWay client connection item pushed := by
  cases accepts : channel.accepts with
  | true => exact .inr ⟨replied, by rw [Channel.offer_of_accepts accepts], onWay⟩
  | false => exact .inl (by rw [Channel.offer_of_refuses accepts])

namespace NetworkMove

variable {after : Network}

/-- The queues of the connections. -/
theorem queued (move : NetworkMove config state.network event after) (marked : Marked client state)
    (aside : state.network.clientEvent? event = none → client = state.network.client)
    (connection : Nat) :
    List.Forall₂ (OnWay client connection) (after.queues connection).items
      (state.queuedAfter after event connection) := by
  have related := marked.queued connection
  have offered : ∀ {network : Network} {other : Nat} {replied : Replied} {pushed : SessionId → Nat},
      network.queues = Function.update state.network.queues other
        ((state.network.queues other).offer replied) → OnWay client other replied pushed →
      List.Forall₂ (OnWay client connection) (network.queues connection).items
        (grown (state.network.queues connection).items (network.queues connection).items pushed
          (state.queued connection)) := by
    intro network other replied pushed queues onWay
    refine forall₂_grown related ?_
    rw [queues]
    by_cases same : connection = other
    · subst same
      rw [Function.update_self]
      exact offer_grows onWay
    · rw [Function.update_of_ne same]
      exact .inl rfl
  cases move with
  | answer linked stepped here there =>
      exact offered rfl (by rintro session sent ⟨⟩)
  | @deliver index delivery found =>
      obtain rfl := aside rfl
      simp only [Stamped.queuedAfter]
      rcases state.network.delivered_queues delivery with same | queues
      · rw [same]
        exact forall₂_grown related (.inl rfl)
      · exact offered queues onWay_opens
  | report =>
      obtain rfl := aside rfl
      exact offered rfl onWay_opens
  | @relay other replied rest waiting =>
      simp only [Stamped.queuedAfter]
      by_cases same : connection = other
      · subst same
        rw [waiting] at related
        rw [Function.update_self, Function.update_self]
        generalize state.queued connection = stamps at related ⊢
        cases related with
        | cons first rest => exact rest
      · rw [Function.update_of_ne same, Function.update_of_ne same]
        exact related
  | @hangUp other =>
      refine forall₂_grown related (.inl ?_)
      by_cases same : connection = other
      · subst same
        simp only [Function.update_self, Channel.close]
      · simp only [Function.update_of_ne same]
  | _ => exact forall₂_grown related (.inl rfl)

/-- The wire. -/
theorem wired (move : NetworkMove config state.network event after) (marked : Marked client state)
    (connection : Nat) :
    List.Forall₂ (OnWay client connection) (after.down connection)
      (state.wiredAfter event connection) := by
  have related := marked.wired connection
  cases move with
  | @relay other replied rest waiting =>
      simp only [Stamped.wiredAfter]
      by_cases same : connection = other
      · subst same
        have queued := marked.queued connection
        rw [waiting] at queued
        rw [Function.update_self, Function.update_self]
        generalize state.queued connection = stamps at queued ⊢
        cases queued with
        | cons first _ => exact List.rel_append related (.cons first .nil)
      · rw [Function.update_of_ne same, Function.update_of_ne same]
        exact related
  | @arrive other replied rest client found waiting =>
      simp only [Stamped.wiredAfter]
      by_cases same : connection = other
      · subst same
        rw [waiting] at related
        rw [Function.update_self, Function.update_self]
        generalize state.wired connection = stamps at related ⊢
        cases related with
        | cons first rest => exact rest
      · rw [Function.update_of_ne same, Function.update_of_ne same]
        exact related
  | @deliver index delivery found =>
      rw [(state.network.delivered_aside delivery).2.2.2.2.2.2]
      exact related
  | _ => exact related

end NetworkMove

/-- A step of a receive loop that takes no Envelope from the wire. -/
theorem LoopMove.inHand {before after : ClientInner} {loopEvent : LoopEvent} {pc later : LoopPc}
    (move : LoopMove before after connection loopEvent pc later)
    (silent : ∀ inbound, loopEvent ≠ .receive inbound) {held : Option Stamp}
    (inHand : InHand client connection held pc)
    (bound : ∀ session other sent, before.isBound connection session = true →
      client.Listens session other sent → connection = other) :
    InHand client connection held later := by
  cases move with
  | moves pendingOpens oneshots channels receivers move =>
      cases move with
      | receive inbound arrived => exact absurd arrived (silent inbound)
      | @bound session item here =>
          obtain ⟨stamp, held, there, current⟩ := inHand
          refine ⟨stamp, held, there, fun other sent listens => ?_⟩
          obtain rfl := bound session other sent here listens
          exact current sent listens connection sent listens
      | found registered => exact inHand
      | _ => trivial
  | complete completes idle live there => rcases there with rfl | ⟨rest, -, rfl⟩ <;> trivial
  | _ => trivial

/-- What a receive loop does to the channel of a Session. -/
theorem LoopMove.inChannel {before after : ClientInner} {loopEvent : LoopEvent} {pc later : LoopPc}
    (move : LoopMove before after connection loopEvent pc later) {held : Option Stamp}
    (inHand : InHand client connection held pc) :
    (after.channels session).items = (before.channels session).items ∨
      ∃ received, (after.channels session).items = (before.channels session).items ++ [received] ∧
        InChannel client session received (handedBy held pc) := by
  have offered : ∀ {other : SessionId} {received : Received} {stamp : Option Stamp},
      after.channels = Function.update before.channels other
        ((before.channels other).offer received) → InChannel client other received stamp →
      (after.channels session).items = (before.channels session).items ∨
        ∃ received, (after.channels session).items =
          (before.channels session).items ++ [received] ∧ InChannel client session received stamp := by
    intro other received stamp channels inChannel
    rw [channels]
    by_cases same : session = other
    · subst same
      rw [Function.update_self]
      cases accepts : (before.channels session).accepts with
      | true => exact .inr ⟨received, by rw [Channel.offer_of_accepts accepts], inChannel⟩
      | false => exact .inl (by rw [Channel.offer_of_refuses accepts])
    · rw [Function.update_of_ne same]
      exact .inl rfl
  cases move with
  | moves pendingOpens oneshots channels | take pending pendingOpens oneshots channels
  | complete completes idle live there pendingOpens oneshots channels
  | lose pending pendingOpens oneshots channels => exact .inl (by rw [channels])
  | @push other item pendingOpens oneshots channels =>
      obtain ⟨stamp, held, there, current⟩ := inHand
      refine offered channels ?_
      rw [held, handedBy]
      exact ⟨congrArg some there.symm, current⟩
  | @terminate other rest pendingOpens oneshots channels =>
      rcases channels with same | changed
      · exact .inl (by rw [same])
      · exact offered changed (.inl rfl)

namespace NetworkMove

variable {after : Network}

/-- The hands of the receive loops. -/
theorem held (move : NetworkMove config state.network event after)
    (marked : Marked after.client state) (tidy : Tidy state.network.client) {traffic : Traffic}
    (present : after.client.traffic connection = some traffic) :
    InHand after.client connection (state.heldAfter event connection) traffic.loop := by
  have sameLoop : SameLoop state.network.client connection traffic →
      InHand after.client connection (state.held connection) traffic.loop := by
    rintro ((idle | idle) | ⟨old, there, same⟩)
    · rw [idle]
      trivial
    · rw [idle]
      trivial
    · exact same ▸ marked.held connection old there
  cases move with
  | @client clientEvent later allowed move =>
      cases move with
      | @loop id loopEvent found next known step =>
          have here := ClientInner.traffic_eq_some known
          have silent : ∀ inbound, loopEvent ≠ .receive inbound := by
            rintro inbound rfl
            cases allowed
          rw [step.traffic] at present
          by_cases same : connection = id
          · subst same
            rw [Function.update_self, Option.some.injEq] at present
            subst present
            refine LoopMove.inHand step.move silent (marked.held connection _ here) ?_
            intro session other sent bound listens
            have listened : state.network.client.Listens session other sent := by
              obtain ⟨call, known, listening, sends⟩ := listens
              exact ⟨call, step.calls ▸ known, listening, sends⟩
            exact tidy.bound_listens listened bound
          · rw [Function.update_of_ne same] at present
            exact marked.held connection traffic present
      | begin unknown running calls receivers begun same =>
          exact sameLoop (sameLoop_of_same same.traffic present)
      | call known step => exact sameLoop (step.sameLoop present)
      | transmit known traffic | act opened here known traffic =>
          exact sameLoop (sameLoop_update traffic (.inr ⟨_, known, rfl⟩) present)
      | hangUp traffic | send traffic | sending traffic | recv found channels traffic =>
          exact sameLoop (sameLoop_of_same traffic present)
      | shutdown step => exact sameLoop (sameLoop_of_same step.traffic present)
  | connect unaccepted move => exact sameLoop (move.sameLoop (by rintro id loopEvent ⟨⟩) present)
  | transmit found traffic move =>
      exact sameLoop (move.sameLoop (by rintro id loopEvent ⟨⟩) present)
  | @arrive id replied rest later found waiting known here step =>
      simp only [Stamped.heldAfter]
      rw [step.traffic] at present
      by_cases same : connection = id
      · subst same
        rw [Function.update_self, Option.some.injEq] at present
        rw [Function.update_self, ← present]
        have wired := marked.wired connection
        rw [waiting] at wired
        generalize state.wired connection = stamps at wired ⊢
        cases wired with
        | @cons _ pushed _ _ onWay _ =>
            have arrived : ∀ {session : SessionId} {sent : Nat},
                replied.toward? = some session → later.Listens session connection sent →
                Stamp.IsCurrent ⟨connection, pushed, state.network.client.opens⟩ later session := by
              intro session sent toward listens other again later
              obtain ⟨rfl, rfl⟩ := listens.unique later
              refine ⟨rfl, onWay session _ toward listens, ?_⟩
              obtain ⟨call, known, listening, rfl⟩ := later
              rw [step.calls] at known
              simp only [ClientInner.opens, known, Option.elim_some]
            obtain ⟨ticket, outbound⟩ := replied
            cases outbound with
            | sessionOpenedAck session failure => cases failure <;> trivial
            | event session payload => exact ⟨_, rfl, rfl, fun sent => arrived rfl⟩
            | sessionError session error => exact ⟨_, rfl, rfl, fun sent => arrived rfl⟩
      · rw [Function.update_of_ne same] at present ⊢
        exact marked.held connection traffic present
  | @deliver index delivery found =>
      rw [(state.network.delivered_aside delivery).1] at present marked ⊢
      exact marked.held connection traffic present
  | _ => exact marked.held connection traffic present

/-- The channels of the Sessions. -/
theorem kept (move : NetworkMove config state.network event after)
    (marked : Marked after.client state) (session : SessionId) :
    List.Forall₂ (InChannel after.client session) (after.client.channels session).items
      (state.keptAfter after event session) := by
  have related := marked.kept session
  have kept : ∀ {later : ClientInner} {stamp : Option Stamp},
      (later.channels session).items = (state.network.client.channels session).items →
      List.Forall₂ (InChannel after.client session) (later.channels session).items
        (grown (state.network.client.channels session).items (later.channels session).items stamp
          (state.kept session)) := fun same => forall₂_grown related (.inl same)
  cases move with
  | @client clientEvent later allowed move =>
      cases move with
      | @loop id loopEvent found next known step =>
          refine forall₂_grown related ?_
          simp only [Stamped.handed, known, Option.bind_some]
          exact LoopMove.inChannel step.move
            (marked.held id _ (ClientInner.traffic_eq_some known))
      | @recv own received rest waiting channels =>
          simp only [Stamped.keptAfter]
          rw [channels]
          by_cases same : session = own
          · subst same
            rw [waiting] at related
            rw [Function.update_self, Function.update_self]
            generalize state.kept session = stamps at related ⊢
            cases related with
            | cons first rest => exact rest
          · rw [Function.update_of_ne same, Function.update_of_ne same]
            exact related
      | shutdown step =>
          rcases step.channels with same | ⟨other, changed⟩
          · exact kept (by rw [same])
          · refine forall₂_grown related ?_
            rw [changed]
            by_cases same : session = other
            · subst same
              rw [Function.update_self]
              cases accepts : (state.network.client.channels session).accepts with
              | true =>
                  exact .inr ⟨⟨none, .error .runtimeStopped⟩,
                    by rw [Channel.offer_of_accepts accepts], .inr rfl⟩
              | false => exact .inl (by rw [Channel.offer_of_refuses accepts])
            · rw [Function.update_of_ne same]
              exact .inl rfl
      | call known step => exact kept (step.aside.items session)
      | begin unknown running calls receivers begun same channels => exact kept (by rw [channels])
      | transmit known traffic same channels | hangUp traffic same channels
      | send traffic same channels | sending traffic silent same channels
      | act opened here known traffic sent same channels => exact kept (by rw [channels])
  | connect unaccepted move =>
      cases move with
      | call known step => exact kept (step.aside.items session)
  | transmit found traffic move =>
      cases move with
      | transmit known traffic same channels => exact kept (by rw [channels])
  | @arrive id replied rest later found waiting known here step =>
      have move := step.move
      rw [here] at move
      refine forall₂_grown related (.inl ?_)
      cases move with
      | moves pendingOpens oneshots channels => rw [channels]
      | complete completes => cases completes
  | @deliver index delivery found =>
      simp only [Stamped.keptAfter, (state.network.delivered_aside delivery).1] at marked ⊢
      exact forall₂_grown (marked.kept session) (.inl rfl)
  | _ => exact forall₂_grown related (.inl rfl)

end NetworkMove

namespace Marked

theorem fresh : Marked (Network.fresh config).client (.fresh config) where
  queued _ := .nil
  wired _ := .nil
  held := by rintro connection traffic ⟨⟩
  kept _ := .nil

theorem step {after : Network} (marked : Marked state.network.client state)
    (tidy : Tidy state.network.client) (met : OpensUnheard state event)
    (stepped : (exchangeSystem config).step? state.network event = some after) :
    Marked after.client (state.record after event) := by
  have listens : ListensFrom state state.network.client after.client := by
    intro session connection sent listens
    rcases Network.step?_client stepped with ⟨clientEvent, here, moved⟩ | ⟨-, same⟩
    · refine ((ClientInner.step?_effect moved).listens (ClientInner.step?_moves moved)
        listens).imp_right fun sends => ?_
      obtain ⟨openEvent, call, target, ticket, endpoint, rfl, known, sending, noted⟩ := sends
      refine met (.call session openEvent) session connection ?_
        ⟨openEvent, call, target, ticket, endpoint, rfl, known, sending, noted⟩
      cases event with
      | client => exact congrArg _ (Option.some.inj here)
      | connect other server =>
          obtain ⟨rfl, rfl⟩ := (ClientEvent.call.injEq _ _ _ _).mp (Option.some.inj here)
          rw [sending] at noted
          cases noted
      | arrive other =>
          obtain ⟨replied, -, ⟨⟩⟩ := Option.map_eq_some_iff.mp here
      | _ => cases here
    · exact .inl (same ▸ listens)
  have move := Network.step?_moves stepped
  have marked := marked.mono listens
  refine ⟨fun connection => move.queued marked (fun silent => ?_) connection, move.wired marked,
    fun connection traffic present => move.held marked tidy present, move.kept marked⟩
  rcases Network.step?_client stepped with ⟨clientEvent, here, -⟩ | ⟨-, same⟩
  · cases silent.symm.trans here
  · exact same

theorem reachable (reach : (stampedSystem config).ReachableWhile OpensUnheard state) :
    Marked state.network.client state := by
  refine invariant_of_reachable_step (fun state => Marked state.network.client state) ?_ ?_ reach
  · rintro _ rfl
    exact fresh
  · intro before event after earlier marked met stepped
    obtain ⟨network, moved, rfl⟩ := stamped_step stepped
    exact marked.step
      (Tidy.reachable (Network.client_reachable (network_of_stamped earlier))) met moved

end Marked

/-! ## What a Session receives -/

/-- What a Session yields is its own connection loss or shutdown, or was pushed
and has arrived on its connection after its last `SessionOpen` was sent. -/
def FromLastAttempt (call : OpenCall) (session : SessionId) (connection : Nat)
    (received : Received) : Option Stamp → Prop
  | none => received.item = .error .remoteUnavailable ∨ received.item = .error .runtimeStopped
  | some stamp => received.source = some connection ∧ stamp.connection = connection ∧
      stamp.pushed session = call.attempts ∧ stamp.arrived session = call.attempts

/-- Where every `SessionOpen` is sent while nothing pushed for its Session is on
its way, a returned Session yields what its last attempt has brought. -/
theorem session_hears_last_attempt {call : OpenCall} {received : Received}
    (reach : (stampedSystem config).ReachableWhile OpensUnheard state)
    (known : state.network.client.calls session = some call)
    (opened : call.pc = .opened connection)
    (yields : yieldedBy state.network.client (.recv session) = some (session, received)) :
    ∃ stamp, (state.kept session).head? = some stamp ∧
      FromLastAttempt call session connection received stamp := by
  have kept := (Marked.reachable reach).kept session
  obtain ⟨⟨first, channel⟩, taken, same⟩ := Option.map_eq_some_iff.mp yields
  obtain rfl : first = received := congrArg Prod.snd same
  obtain ⟨rest, waiting, -⟩ := receive?_eq_some taken
  rw [waiting] at kept
  generalize state.kept session = stamps at kept ⊢
  cases kept with
  | @cons _ stamp _ _ inChannel _ =>
      refine ⟨stamp, rfl, ?_⟩
      cases stamp with
      | none => exact inChannel
      | some stamp =>
          obtain ⟨source, current⟩ := inChannel
          obtain ⟨rfl, pushed, arrived⟩ := current connection call.attempts
            ⟨call, known, by rw [opened]; rfl, rfl⟩
          exact ⟨source, rfl, pushed, arrived⟩

/-! ## Two attempts -/

/-- No Envelope at all is on its way where a `SessionOpen` is sent. -/
def opensUnheard? (state : Stamped) : ExchangeEvent → Bool
  | .client (.call session _) =>
      match state.network.client.calls session with
      | some { pc := .sending _ connection _, .. } =>
          (state.network.queues connection).items.isEmpty &&
            (state.network.down connection).isEmpty && (state.kept session).isEmpty &&
            (List.range state.network.client.nextConnection).all fun id =>
              (state.network.client.connections id).all fun found => found.loop.item?.isNone
      | _ => true
  | _ => true

theorem opensUnheard_of_check (reach : (stampedSystem config).Reachable state)
    (checked : opensUnheard? state event = true) : OpensUnheard state event := by
  rintro clientEvent session connection rfl
    ⟨openEvent, call, target, ticket, endpoint, rfl, known, here, noted⟩
  obtain ⟨address, pc, attempts, excluded, failedLiveOwner, expired⟩ := call
  obtain rfl : pc = .sending target connection ticket := here
  simp only [opensUnheard?, known, Bool.and_eq_true, List.isEmpty_iff, List.all_eq_true,
    List.mem_range] at checked
  obtain ⟨⟨⟨queued, wired⟩, kept⟩, idle⟩ := checked
  obtain ⟨owner, leads⟩ := PoolsOk.reachable (Network.client_reachable (network_of_stamped reach))
  have empty : ∀ {id : Nat} {traffic : Traffic} {item : SessionItem},
      state.network.client.traffic id = some traffic → traffic.loop.item? ≠ some (session, item) := by
    rintro id _ item present handed
    obtain ⟨found, connected, rfl⟩ := Option.map_eq_some_iff.mp present
    by_cases below : id < state.network.client.nextConnection
    · have none := idle id below
      rw [connected, Option.all_some] at none
      rw [TransportConnection.traffic] at handed
      simp [handed] at none
    · have unknown := leads.known id (Nat.le_of_not_lt below)
      rw [ClientInner.bindings, connected] at unknown
      cases unknown
  refine ⟨?_, ?_, ?_, ?_, ?_⟩
  · rw [queued]
    rintro replied ⟨⟩
  · rw [wired]
    rintro replied ⟨⟩
  · intro traffic item present loop
    exact @empty _ _ item present (by rw [loop]; rfl)
  · intro id traffic item present
    refine ⟨fun loop => ?_, fun loop => ?_⟩ <;> exact @empty _ _ item present (by rw [loop]; rfl)
  · rw [kept]
    rintro stamp ⟨⟩

/-- A Client with `storefront`, and Servers that are all alike. -/
def market : ExchangeConfig := ⟨storefront, fun _ => cartRuntime, (· == ⟨7⟩), 4⟩

def onClient (events : List ClientEvent) : List ExchangeEvent := events.map .client

/-- A placement attempt on a Server, up to its `SessionOpen`. -/
def attemptOn (server : Nat) (before : List ClientEvent) (nodes : List NodeRecord)
    (ordered : List String) : List ExchangeEvent :=
  onClient (before ++ placed nodes ordered) ++ [.connect ⟨7⟩ server] ++
    onClient (.replicate 6 (.call ⟨7⟩ .advance))

/-- The Server registers the Session and activates its actor. -/
def servedOn (server connection : Nat) : List ExchangeEvent :=
  [.transmit connection, .server server true (.conn connection .accept), .receive connection] ++
    ([.advance false, .reply (.owner (.ok none)), .reply (.permit true), .reply (.issued 0),
      .reply (.outcome (.ok (.applied ⟨""⟩))), .advance false, .advance false, .advance false,
      .advance false].map fun event => .server server true (.conn connection event))

/-- The actor returns from `on_session_opened`, and `open` returns the Session. -/
def returnedOn (server connection : Nat) : List ExchangeEvent :=
  ([.advance, .activation .activated, .advance, .returned true].map fun event =>
    .server server true (.task 1 event)) ++
    .replicate 2 (.server server true (.conn connection (.advance false))) ++
    [.relay connection, .arrive connection] ++
    onClient (.replicate 2 (.loop connection .advance) ++ [.call ⟨7⟩ .advance])

/-- The Server pushes an Event, which reaches the channel of the Session. -/
def pushedOn (server connection : Nat) : List ExchangeEvent :=
  [.lookUp server cartAddress ⟨7⟩ [5], .deliver 0, .relay connection, .arrive connection] ++
    onClient (.replicate 3 (.loop connection .advance))

def pushedWhileOpen : List ExchangeEvent :=
  attemptOn 0 [.begin ⟨7⟩ cartAddress] [shop "node-a" "host-a"] ["host-a"] ++ servedOn 0 1 ++
    returnedOn 0 1 ++ pushedOn 0 1

theorem meets_opensUnheard {labels : List ExchangeEvent}
    (checked : (stampedSystem config).meets? (fun state event => opensUnheard? state event = true)
      (.fresh config) labels = true) :
    (stampedSystem config).Meets OpensUnheard (.fresh config) labels :=
  meets_of_check (stampedSystem config).Reachable
    (fun _ _ _ _ reach stepped => .step reach trivial stepped)
    (fun _ _ reach checked => opensUnheard_of_check reach checked) (.start rfl) checked

theorem pushed_event_is_of_last_attempt :
    ∃ state call stamp, (stampedSystem market).ReachableWhile OpensUnheard state ∧
      state.network.client.calls ⟨7⟩ = some call ∧ call.pc = .opened 1 ∧
      (state.kept ⟨7⟩).head? = some stamp ∧
      FromLastAttempt call ⟨7⟩ 1 ⟨some 1, .ok [5]⟩ stamp := by
  have reach := @reachableWhile_of_run? _ _ (stampedSystem market) _ _ _ pushedWhileOpen (.start rfl)
    (meets_opensUnheard rfl) rfl
  obtain ⟨stamp, first, current⟩ :=
    @session_hears_last_attempt market _ ⟨7⟩ 1 _ ⟨some 1, .ok [5]⟩ reach rfl rfl rfl
  exact ⟨_, _, stamp, reach, rfl, rfl, first, current⟩

/-- The first Server pushes an Event and is lost before it answers; the second
one answers. -/
def pushedBeforeLoss : List ExchangeEvent :=
  attemptOn 0 [.begin ⟨7⟩ cartAddress] [shop "node-a" "host-a", shop "node-b" "host-b"]
    ["host-a", "host-b"] ++ servedOn 0 1 ++ pushedOn 0 1 ++
    onClient (.loop 1 .lost :: .replicate 8 (.loop 1 .advance) ++
      .replicate 4 (.call ⟨7⟩ .advance)) ++
    attemptOn 1 [] [shop "node-a" "host-a", shop "node-b" "host-b"] ["host-a", "host-b"] ++
    servedOn 1 2 ++ returnedOn 1 2

/-- The Session of the second attempt yields the Event of the first. -/
theorem event_of_earlier_attempt_is_yielded :
    ∃ state call, (stampedSystem market).Reachable state ∧
      state.network.client.calls ⟨7⟩ = some call ∧ call.pc = .opened 2 ∧
      yieldedBy state.network.client (.recv ⟨7⟩) = some (⟨7⟩, ⟨some 1, .ok [5]⟩) ∧
      ∀ stamp, (state.kept ⟨7⟩).head? = some stamp →
        ¬ FromLastAttempt call ⟨7⟩ 2 ⟨some 1, .ok [5]⟩ stamp := by
  have ran : (((stampedSystem market).run? (.fresh market) pushedBeforeLoss).map fun state =>
      (state.network.client.sessionOf ⟨7⟩, yieldedBy state.network.client (.recv ⟨7⟩))) =
      some (some (cartAddress, 2), some (⟨7⟩, ⟨some 1, .ok [5]⟩)) := by
    decide +kernel
  obtain ⟨state, run, facts⟩ := Option.map_eq_some_iff.mp ran
  obtain ⟨opened, yields⟩ := Prod.mk.inj facts
  obtain ⟨call, known, here, -⟩ := ClientInner.sessionOf_eq_some opened
  refine ⟨state, call, reachable_of_run? rfl run, known, here, yields, ?_⟩
  intro stamp first current
  cases stamp with
  | none =>
      rcases current with lost | stopped
      · cases lost
      · cases stopped
  | some stamp => cases current.1

end Coactor.Exchange
