import Coactor.Client.OpenMoves

/-!
# What one step of a Client does

Every step of a receive loop is a move between two of its program points with
one effect on `pending_opens`, on a oneshot channel or on the channel of a
Session.  With the steps of `open` and those of `send`, `recv` and `shutdown`
these are all steps of a Client.
-/

namespace Coactor.Client

open Coactor.Foundation
open Coactor.Runtime
open Coactor.Transport

/-! ## Moves of a receive loop -/

/-- The loop still handles Envelopes; once it does not, it never does again. -/
def LoopPc.isLive : LoopPc → Bool
  | .unspawned | .receiving | .delivering _ _ | .looking _ _ | .pushing _ _
  | .acknowledging _ _ _ | .completing _ _ _ => true
  | _ => false

/-- The oneshot channel into which a loop is about to send a result. -/
def LoopPc.completion? : LoopPc → Option (Nat × Option SendError)
  | .completing _ ticket result => some (ticket, result)
  | .failing ticket _ => some (ticket, some .remoteUnavailable)
  | _ => none

/-- The item that a loop is about to hand to a Session. -/
def LoopPc.item? : LoopPc → Option (SessionId × SessionItem)
  | .delivering session item | .looking session item | .pushing session item =>
      some (session, item)
  | _ => none

/-- The Session that a loop is about to terminate. -/
def LoopPc.terminates? : LoopPc → Option SessionId
  | .terminating session _ => some session
  | _ => none

/-- The moves of a loop that touch nothing but its own connection. -/
inductive LoopMoveOn (client : ClientInner) (id : Nat) (event : LoopEvent) :
    LoopPc → LoopPc → Prop where
  | receive (inbound : Inbound) (arrived : event = .receive inbound) :
      LoopMoveOn client id event .receiving inbound.handle
  | bound {session item} (bound : client.isBound id session = true) :
      LoopMoveOn client id event (.delivering session item) (.looking session item)
  | found {session item} (registered : session ∈ client.receivers) :
      LoopMoveOn client id event (.looking session item) (.pushing session item)
  | unbound {session item} : LoopMoveOn client id event (.delivering session item) .receiving
  | unfound {session item} : LoopMoveOn client id event (.looking session item) .receiving
  | unmatched {answered session result} (unmatched : client.pendingOn session id = none) :
      LoopMoveOn client id event (.acknowledging answered session result) .receiving
  | lost : LoopMoveOn client id event .receiving .closing
  | closed : LoopMoveOn client id event .closing .unpooling
  | unpooled {pool} : LoopMoveOn client id event .unpooling (.poolLock pool)
  | poolless : LoopMoveOn client id event .unpooling .draining
  | removed {pool} : LoopMoveOn client id event (.poolLock pool) .draining
  | drained {sessions} (bound : ∀ session ∈ sessions, client.isBound id session = true) :
      LoopMoveOn client id event .draining (.zeroing sessions)
  | zeroed {sessions} : LoopMoveOn client id event (.zeroing sessions) (.ending sessions)
  | unopened {session rest} (unmatched : client.pendingOn session id = none) :
      LoopMoveOn client id event (.ending (session :: rest)) (.terminating session rest)
  | ended {pc} (waiting : pc = .ending [] ∨ pc = .receiving ∨ ∃ pool, pc = .poolLock pool) :
      LoopMoveOn client id event pc .ended

/-- What one step of a receive loop does. -/
inductive LoopMove (before after : ClientInner) (id : Nat) (event : LoopEvent) :
    LoopPc → LoopPc → Prop where
  | moves {pc next} (pendingOpens : after.pendingOpens = before.pendingOpens)
      (oneshots : after.oneshots = before.oneshots) (channels : after.channels = before.channels)
      (receivers : after.receivers = before.receivers)
      (move : LoopMoveOn before id event pc next) : LoopMove before after id event pc next
  | push {session item} (pendingOpens : after.pendingOpens = before.pendingOpens)
      (oneshots : after.oneshots = before.oneshots)
      (channels : after.channels = Function.update before.channels session
        ((before.channels session).offer ⟨some id, item⟩))
      (receivers : after.receivers = before.receivers) :
      LoopMove before after id event (.pushing session item) .receiving
  | take {answered session result ticket}
      (pending : before.pendingOpens session = some ⟨id, ticket⟩)
      (pendingOpens : after.pendingOpens = Function.update before.pendingOpens session none)
      (oneshots : after.oneshots = before.oneshots) (channels : after.channels = before.channels)
      (receivers : after.receivers = before.receivers) :
      LoopMove before after id event (.acknowledging answered session result)
        (.completing answered ticket result)
  | complete {pc next ticket result} (completes : pc.completion? = some (ticket, result))
      (idle : next.completion? = none) (live : next.isLive = pc.isLive)
      (there : next = .receiving ∨ ∃ rest, pc = .failing ticket rest ∧ next = .ending rest)
      (pendingOpens : after.pendingOpens = before.pendingOpens)
      (oneshots : after.oneshots = Function.update before.oneshots ticket (.sent result))
      (channels : after.channels = before.channels)
      (receivers : after.receivers = before.receivers) : LoopMove before after id event pc next
  | lose {session rest ticket}
      (pending : before.pendingOpens session = some ⟨id, ticket⟩)
      (pendingOpens : after.pendingOpens = Function.update before.pendingOpens session none)
      (oneshots : after.oneshots = before.oneshots) (channels : after.channels = before.channels)
      (receivers : after.receivers = before.receivers) :
      LoopMove before after id event (.ending (session :: rest)) (.failing ticket rest)
  | terminate {session rest} (pendingOpens : after.pendingOpens = before.pendingOpens)
      (oneshots : after.oneshots = before.oneshots)
      (channels : after.channels = before.channels ∨ after.channels =
        Function.update before.channels session ((before.channels session).offer
          ⟨some id, .error .remoteUnavailable⟩))
      (receivers : after.receivers = before.receivers.filter (· != session)) :
      LoopMove before after id event (.terminating session rest) (.ending rest)

/-- A step of a receive loop moves its loop and leaves every queue alone. -/
structure LoopStep (before after : ClientInner) (id : Nat) (event : LoopEvent)
    (connection : TransportConnection) (next : LoopPc) : Prop where
  traffic : after.traffic =
    Function.update before.traffic id (some ⟨connection.sender.items, next⟩)
  calls : after.calls = before.calls
  sends : after.sends = before.sends
  begun : after.begun = before.begun
  status : after.status = before.status
  shutdown : after.shutdown = before.shutdown
  nextTicket : after.nextTicket = before.nextTicket
  nextConnection : after.nextConnection = before.nextConnection
  move : LoopMove before after id event connection.loop next

namespace ClientInner

variable {client after : ClientInner} {id : Nat} {session : SessionId}
  {connection : TransportConnection} {next : LoopPc} {event : LoopEvent}

theorem pendingOn_eq_some {pending : PendingOpen}
    (found : client.pendingOn session id = some pending) :
    client.pendingOpens session = some ⟨id, pending.ticket⟩ := by
  obtain ⟨present, same⟩ := Option.filter_eq_some_iff.mp found
  rw [present, ← beq_iff_eq.mp same]

/-- A step that moves a loop and changes no queue. -/
theorem loop_step (found : client.connections id = some connection)
    {change : TransportConnection → TransportConnection}
    (sender : (change connection).sender = connection.sender)
    (loop : (change connection).loop = next)
    (connections : after.connections = (client.modify id change).connections)
    (calls : after.calls = client.calls) (sends : after.sends = client.sends)
    (begun : after.begun = client.begun) (status : after.status = client.status)
    (shutdown : after.shutdown = client.shutdown)
    (nextTicket : after.nextTicket = client.nextTicket)
    (nextConnection : after.nextConnection = client.nextConnection)
    (move : LoopMove client after id event connection.loop next) :
    LoopStep client after id event connection next where
  traffic := by
    have same : after.traffic = (client.modify id change).traffic := by
      unfold ClientInner.traffic
      rw [connections]
    rw [same, traffic_modify, found, Option.map_some, TransportConnection.traffic, sender, loop]
  calls := calls
  sends := sends
  begun := begun
  status := status
  shutdown := shutdown
  nextTicket := nextTicket
  nextConnection := nextConnection
  move := move

/-- A step that only moves a loop on. -/
theorem moveOn_step (found : client.connections id = some connection)
    {change : TransportConnection → TransportConnection}
    (sender : (change connection).sender = connection.sender)
    (loop : (change connection).loop = next)
    (move : LoopMoveOn client id event connection.loop next) :
    ∃ next, LoopStep client (client.modify id change) id event connection next :=
  ⟨next, loop_step found sender loop rfl rfl rfl rfl rfl rfl rfl rfl
    (.moves rfl rfl rfl rfl move)⟩

theorem terminate_step {rest : List SessionId} (found : client.connections id = some connection)
    (here : connection.loop = .terminating session rest) :
    LoopStep client ((client.terminate session
      ⟨some id, .error .remoteUnavailable⟩).gotoLoop id (.ending rest)) id event connection
        (.ending rest) := by
  by_cases registered : session ∈ client.receivers
  · rw [ClientInner.terminate, if_pos registered]
    exact loop_step found rfl rfl rfl rfl rfl rfl rfl rfl rfl rfl
      (here ▸ .terminate rfl rfl (.inr rfl) rfl)
  · rw [ClientInner.terminate, if_neg registered]
    refine loop_step found rfl rfl rfl rfl rfl rfl rfl rfl rfl rfl
      (here ▸ .terminate rfl rfl (.inl rfl) ?_)
    refine (List.filter_eq_self.mpr ?_).symm
    rintro other present
    simp only [bne_iff_ne, ne_eq]
    rintro rfl
    exact registered present

/-- Every step of a receive loop is one of the moves. -/
theorem loopStep?_moves {pc : LoopPc}
    (found : client.connections id = some connection) (here : connection.loop = pc)
    (stepped : client.loopStep? id connection pc event = some after) :
    ∃ next, LoopStep client after id event connection next := by
  cases loopStep?_cases stepped with
  | @received inbound => exact moveOn_step found rfl rfl (here ▸ .receive inbound rfl)
  | lost => exact moveOn_step found rfl rfl (here ▸ .lost)
  | known bound =>
      refine moveOn_step found rfl rfl (here ▸ .bound ?_)
      rw [isBound, found, Option.any_some]
      exact decide_eq_true bound
  | unknown => exact moveOn_step found rfl rfl (here ▸ .unbound)
  | found registered => exact moveOn_step found rfl rfl (here ▸ .found registered)
  | missing => exact moveOn_step found rfl rfl (here ▸ .unfound)
  | pushed =>
      exact ⟨_, loop_step found rfl rfl rfl rfl rfl rfl rfl rfl rfl rfl
        (here ▸ .push rfl rfl rfl rfl)⟩
  | taken waits =>
      exact ⟨_, loop_step found rfl rfl rfl rfl rfl rfl rfl rfl rfl rfl
        (here ▸ .take (pendingOn_eq_some waits) rfl rfl rfl rfl)⟩
  | stale settled => exact moveOn_step found rfl rfl (here ▸ .unmatched settled)
  | completed =>
      exact ⟨_, loop_step found rfl rfl rfl rfl rfl rfl rfl rfl rfl rfl
        (here ▸ .complete rfl rfl rfl (.inl rfl) rfl rfl rfl rfl)⟩
  | closed => exact moveOn_step found rfl rfl (here ▸ .closed)
  | pooled => exact moveOn_step found rfl rfl (here ▸ .unpooled)
  | unpooled => exact moveOn_step found rfl rfl (here ▸ .poolless)
  | removed =>
      exact ⟨_, loop_step found rfl rfl rfl rfl rfl rfl rfl rfl rfl rfl
        (.moves rfl rfl rfl rfl (here ▸ .removed))⟩
  | drained =>
      refine moveOn_step found rfl rfl (here ▸ .drained fun session member => ?_)
      rw [isBound, found, Option.any_some]
      exact decide_eq_true member
  | zeroed => exact moveOn_step found rfl rfl (here ▸ .zeroed)
  | ended => exact moveOn_step found rfl rfl (.ended (.inl here))
  | fails waits =>
      exact ⟨_, loop_step found rfl rfl rfl rfl rfl rfl rfl rfl rfl rfl
        (here ▸ .lose (pendingOn_eq_some waits) rfl rfl rfl rfl)⟩
  | terminates settled => exact moveOn_step found rfl rfl (here ▸ .unopened settled)
  | @failed ticket rest =>
      exact ⟨_, loop_step found rfl rfl rfl rfl rfl rfl rfl rfl rfl rfl
        (here ▸ .complete rfl rfl rfl (.inr ⟨rest, rfl, rfl⟩) rfl rfl rfl rfl)⟩
  | terminated => exact ⟨_, terminate_step found here⟩
  | aborted => exact moveOn_step found rfl rfl (.ended (.inr (.inl here)))
  | @abortedLock pool => exact moveOn_step found rfl rfl (.ended (.inr (.inr ⟨pool, here⟩)))

end ClientInner

/-! ## Moves of a Client -/

theorem receive?_eq_some {Item : Type} {channel after : Channel Item} {item : Item}
    (received : channel.receive? = some (item, after)) :
    ∃ rest, channel.items = item :: rest ∧ after = { channel with items := rest } := by
  unfold Channel.receive? at received
  split at received
  · cases received
  · rename_i first rest waiting
    cases received
    exact ⟨rest, waiting, rfl⟩

/-- A step outside `open`, the receive loops and `shutdown`. -/
structure SameOpens (before after : ClientInner) : Prop where
  calls : after.calls = before.calls
  begun : after.begun = before.begun
  status : after.status = before.status
  shutdown : after.shutdown = before.shutdown
  receivers : after.receivers = before.receivers
  pendingOpens : after.pendingOpens = before.pendingOpens
  oneshots : after.oneshots = before.oneshots
  nextTicket : after.nextTicket = before.nextTicket
  nextConnection : after.nextConnection = before.nextConnection

/-- What one step of `shutdown` does. -/
structure ShutdownStep (before after : ClientInner) : Prop where
  calls : after.calls = before.calls
  begun : after.begun = before.begun
  sends : after.sends = before.sends
  traffic : after.traffic = before.traffic
  oneshots : after.oneshots = before.oneshots
  nextTicket : after.nextTicket = before.nextTicket
  nextConnection : after.nextConnection = before.nextConnection
  pendingOpens : after.pendingOpens = before.pendingOpens ∨
    (before.shutdown ≠ .idle ∧ after.pendingOpens = fun _ => none)
  channels : after.channels = before.channels ∨ ∃ session, after.channels =
    Function.update before.channels session ((before.channels session).offer
      ⟨none, .error .runtimeStopped⟩)
  receivers : after.receivers = before.receivers ∨
    (before.shutdown ≠ .idle ∧ after.receivers = [])
  begins : before.shutdown = .idle → ∀ session ∈ before.begun, ∀ call,
    before.calls session = some call → call.pc.hasReturned = true
  stops : after.shutdown ≠ .idle ∧ (before.status = .stopped ∨ before.shutdown = .idle →
    after.status = .stopped)

/-- What one step of a Client does. -/
inductive ClientMove (config : ClientConfig) (before after : ClientInner) : ClientEvent → Prop where
  | begin {session : SessionId} {address : ActorAddress}
      (unknown : before.calls session = none) (running : before.status = .running)
      (calls : after.calls = Function.update before.calls session
        (some ⟨address, .resolving resolveOwner, 0, [], none, false⟩))
      (receivers : after.receivers = before.receivers ++ [session])
      (begun : after.begun = before.begun ++ [session]) (same : SameAttempts before after)
      (channels : after.channels = before.channels) (sends : after.sends = before.sends)
      (status : after.status = before.status) (shutdown : after.shutdown = before.shutdown) :
      ClientMove config before after (.begin session address)
  | call {session : SessionId} {event : OpenEvent} {call next : OpenCall}
      (found : before.calls session = some call)
      (step : OpenStep config before after session call next) :
      ClientMove config before after (.call session event)
  | loop {id : Nat} {event : LoopEvent} {connection : TransportConnection} {next : LoopPc}
      (found : before.connections id = some connection)
      (step : LoopStep before after id event connection next) :
      ClientMove config before after (.loop id event)
  | transmit {id : Nat} {sent : Sent} {rest : List Sent} {loop : LoopPc}
      (found : before.traffic id = some ⟨sent :: rest, loop⟩)
      (traffic : after.traffic = Function.update before.traffic id (some ⟨rest, loop⟩))
      (same : SameOpens before after) (channels : after.channels = before.channels)
      (sends : after.sends = before.sends) :
      ClientMove config before after (.transmit id)
  | hangUp {id : Nat} (traffic : after.traffic = before.traffic)
      (same : SameOpens before after) (channels : after.channels = before.channels)
      (sends : after.sends = before.sends) :
      ClientMove config before after (.hangUp id)
  | send {session : SessionId} {payload : List UInt8} (traffic : after.traffic = before.traffic)
      (same : SameOpens before after) (channels : after.channels = before.channels) :
      ClientMove config before after (.send session payload)
  | sending {index : Nat} (traffic : after.traffic = before.traffic)
      (silent : sentBy before (.sending index) = none)
      (same : SameOpens before after) (channels : after.channels = before.channels) :
      ClientMove config before after (.sending index)
  | act {index : Nat} {session : SessionId} {payload : List UInt8} {call : OpenCall}
      {connection : Nat} {queue : List Sent} {loop : LoopPc}
      (opened : before.calls session = some call) (here : call.pc = .opened connection)
      (found : before.traffic connection = some ⟨queue, loop⟩)
      (traffic : after.traffic = Function.update before.traffic connection
        (some ⟨queue ++ [⟨none, envelopeAction call.address session payload⟩], loop⟩))
      (sent : sentBy before (.sending index) = some (session, payload))
      (same : SameOpens before after) (channels : after.channels = before.channels) :
      ClientMove config before after (.sending index)
  | recv {session : SessionId} {received : Received} {rest : List Received}
      (found : (before.channels session).items = received :: rest)
      (channels : after.channels = Function.update before.channels session
        { before.channels session with items := rest })
      (traffic : after.traffic = before.traffic) (same : SameOpens before after)
      (sends : after.sends = before.sends) :
      ClientMove config before after (.recv session)
  | shutdown (step : ShutdownStep before after) : ClientMove config before after .shutdown

namespace ClientInner

variable {config : ClientConfig} {client after : ClientInner}

theorem begin?_move {session : SessionId} {address : ActorAddress}
    (stepped : client.begin? session address = some after) :
    ClientMove config client after (.begin session address) := by
  unfold begin? at stepped
  split at stepped
  · rename_i unknown running
    cases stepped
    exact .begin unknown running rfl rfl rfl ⟨rfl, rfl, rfl, rfl, rfl⟩ rfl rfl rfl rfl
  · cases stepped

theorem send?_move {session : SessionId} {payload : List UInt8}
    (stepped : client.send? session payload = some after) :
    ClientMove config client after (.send session payload) := by
  unfold send? at stepped
  split at stepped
  · cases stepped
    exact .send rfl ⟨rfl, rfl, rfl, rfl, rfl, rfl, rfl, rfl, rfl⟩ rfl
  · cases stepped

theorem sessionOf_eq_some {session : SessionId} {address : ActorAddress} {connection : Nat}
    (found : client.sessionOf session = some (address, connection)) :
    ∃ call, client.calls session = some call ∧ call.pc = .opened connection ∧
      call.address = address := by
  unfold sessionOf at found
  split at found
  · rename_i present
    cases found
    exact ⟨_, present, rfl, rfl⟩
  · cases found

theorem sendStep?_move {index connection : Nat} {send : SendCall} {address : ActorAddress}
    (present : client.sends[index]? = some send)
    (opened : client.sessionOf send.session = some (address, connection))
    (stepped : client.sendStep? index send address connection = some after) :
    ClientMove config client after (.sending index) := by
  obtain ⟨session, payload, pc⟩ := send
  cases pc with
  | checking =>
      cases stepped
      exact .sending rfl (by simp [sentBy, present]) ⟨rfl, rfl, rfl, rfl, rfl, rfl, rfl, rfl, rfl⟩
        rfl
  | returned => cases stepped
  | sending =>
      cases stepped
      obtain ⟨call, known, here, rfl⟩ := sessionOf_eq_some opened
      have traffic := @traffic_offerTo client connection
        ⟨none, envelopeAction call.address session payload⟩
      have refused : (client.traffic connection = none ∨ ∃ found,
          client.connections connection = some found ∧ found.sender.accepts = false) →
          ClientMove config client ((client.offerTo connection
            ⟨none, envelopeAction call.address session payload⟩).setSend index
              ⟨session, payload, .returned⟩) (.sending index) := by
        rintro (absent | ⟨found, known', refuses⟩)
        · have none : client.connections connection = none := Option.map_eq_none_iff.mp absent
          refine .sending (traffic.trans ?_) (by simp [sentBy, present, opened, none])
            ⟨rfl, rfl, rfl, rfl, rfl, rfl, rfl, rfl, rfl⟩ rfl
          rw [none, Option.map_none, ← absent, Function.update_eq_self]
        · refine .sending (traffic.trans ?_)
            (by simp [sentBy, present, opened, known', refuses])
            ⟨rfl, rfl, rfl, rfl, rfl, rfl, rfl, rfl, rfl⟩ rfl
          refine (congrArg _ ?_).trans (Function.update_eq_self connection client.traffic)
          simp [ClientInner.traffic, known', refuses, TransportConnection.traffic]
      cases found : client.connections connection with
      | none => exact refused (.inl (by simp [ClientInner.traffic, found]))
      | some connected =>
          cases accepts : connected.sender.accepts with
          | false => exact refused (.inr ⟨connected, found, accepts⟩)
          | true =>
              have sent : sentBy client (.sending index) = some (session, payload) := by
                simp [sentBy, present, opened, found, accepts]
              refine .act known here (traffic_eq_some found) (traffic.trans ?_) sent
                ⟨rfl, rfl, rfl, rfl, rfl, rfl, rfl, rfl, rfl⟩ rfl
              simp [found, accepts]

theorem shutdown_move {pc : ClientShutdownPc} (here : client.shutdown = pc)
    (stepped : client.shutdownStep? pc = some after) : ShutdownStep client after := by
  have begins : pc ≠ .idle → client.shutdown = .idle → ∀ session ∈ client.begun, ∀ call,
      client.calls session = some call → call.pc.hasReturned = true := by
    rintro later idle
    exact absurd (here.symm.trans idle) later
  have stops : ∀ next : ClientInner, pc ≠ .idle → next.status = client.status →
      client.status = .stopped ∨ client.shutdown = .idle → next.status = .stopped := by
    rintro next later same (stopped | idle)
    · exact same.trans stopped
    · exact absurd (here.symm.trans idle) later
  cases pc with
  | idle =>
      simp only [shutdownStep?] at stepped
      split at stepped
      · rename_i allOver
        cases stepped
        refine ⟨rfl, rfl, rfl, rfl, rfl, rfl, rfl, .inl rfl, .inl rfl, .inl rfl, ?_,
          ⟨by simp, fun _ => rfl⟩⟩
        intro _ session begun call found
        have returned := List.all_eq_true.mp allOver session begun
        rwa [found, Option.all_some] at returned
      · cases stepped
  | collecting =>
      cases stepped
      exact ⟨rfl, rfl, rfl, rfl, rfl, rfl, rfl, .inl rfl, .inl rfl, .inl rfl, begins (by simp),
        ⟨by simp, stops _ (by simp) rfl⟩⟩
  | pools rest =>
      cases rest with
      | nil =>
          cases stepped
          exact ⟨rfl, rfl, rfl, rfl, rfl, rfl, rfl, .inl rfl, .inl rfl, .inl rfl,
            begins (by simp), ⟨by simp, stops _ (by simp) rfl⟩⟩
      | cons pool rest =>
          simp only [shutdownStep?] at stepped
          split at stepped
          · cases stepped
          · cases stepped
            exact ⟨rfl, rfl, rfl, rfl, rfl, rfl, rfl, .inl rfl, .inl rfl, .inl rfl,
              begins (by simp), ⟨by simp, stops _ (by simp) rfl⟩⟩
  | closing connections rest =>
      cases connections with
      | nil =>
          cases stepped
          exact ⟨rfl, rfl, rfl, rfl, rfl, rfl, rfl, .inl rfl, .inl rfl, .inl rfl,
            begins (by simp), ⟨by simp, stops _ (by simp) rfl⟩⟩
      | cons connection others =>
          cases stepped
          refine ⟨rfl, rfl, rfl, traffic_modify_same ?_, rfl, rfl, rfl, .inl rfl, .inl rfl,
            .inl rfl, begins (by simp), ⟨by simp, stops _ (by simp) rfl⟩⟩
          intro connection
          split <;> rfl
  | aborting =>
      cases stepped
      refine ⟨rfl, rfl, rfl, ?_, rfl, rfl, rfl, .inl rfl, .inl rfl, .inl rfl, begins (by simp),
        ⟨by simp, stops _ (by simp) rfl⟩⟩
      funext id
      simp only [ClientInner.traffic, Option.map_map]
      refine congrArg (Option.map · (client.connections id)) (funext fun connection => ?_)
      simp only [Function.comp_apply]
      split <;> rfl
  | clearing =>
      cases stepped
      exact ⟨rfl, rfl, rfl, rfl, rfl, rfl, rfl, .inr ⟨by simp [here], rfl⟩, .inl rfl, .inl rfl,
        begins (by simp), ⟨by simp, stops _ (by simp) rfl⟩⟩
  | snapshotting =>
      cases stepped
      exact ⟨rfl, rfl, rfl, rfl, rfl, rfl, rfl, .inl rfl, .inl rfl, .inl rfl, begins (by simp),
        ⟨by simp, stops _ (by simp) rfl⟩⟩
  | unregistering sessions =>
      cases stepped
      exact ⟨rfl, rfl, rfl, rfl, rfl, rfl, rfl, .inl rfl, .inl rfl, .inr ⟨by simp [here], rfl⟩,
        begins (by simp), ⟨by simp, stops _ (by simp) rfl⟩⟩
  | terminating sessions =>
      cases sessions with
      | nil =>
          cases stepped
          exact ⟨rfl, rfl, rfl, rfl, rfl, rfl, rfl, .inl rfl, .inl rfl, .inl rfl,
            begins (by simp), ⟨by simp, stops _ (by simp) rfl⟩⟩
      | cons session rest =>
          cases stepped
          exact ⟨rfl, rfl, rfl, rfl, rfl, rfl, rfl, .inl rfl, .inr ⟨session, rfl⟩, .inl rfl,
            begins (by simp), ⟨by simp, stops _ (by simp) rfl⟩⟩
  | returned => cases stepped

/-- Every step of a Client is one of the moves. -/
theorem step?_moves {event : ClientEvent} (stepped : client.step? config event = some after) :
    ClientMove config client after event := by
  cases event with
  | begin session address => exact begin?_move stepped
  | call session event =>
      obtain ⟨call, found, moved⟩ := Option.bind_eq_some_iff.mp stepped
      obtain ⟨next, step⟩ := openStep?_moves rfl moved
      exact .call found step
  | loop id event =>
      obtain ⟨connection, found, moved⟩ := Option.bind_eq_some_iff.mp stepped
      obtain ⟨next, step⟩ := loopStep?_moves found rfl moved
      exact .loop found step
  | transmit id =>
      obtain ⟨connection, found, moved⟩ := Option.bind_eq_some_iff.mp stepped
      obtain ⟨⟨sent, channel⟩, received, rfl⟩ := Option.map_eq_some_iff.mp moved
      obtain ⟨rest, waiting, rfl⟩ := receive?_eq_some received
      refine .transmit ((traffic_eq_some found).trans (by rw [waiting])) ?_
        ⟨rfl, rfl, rfl, rfl, rfl, rfl, rfl, rfl, rfl⟩ rfl rfl
      refine (traffic_modify _).trans ?_
      simp [found, TransportConnection.traffic]
  | hangUp id =>
      cases stepped
      exact .hangUp (traffic_modify_same fun _ => rfl)
        ⟨rfl, rfl, rfl, rfl, rfl, rfl, rfl, rfl, rfl⟩ rfl rfl
  | send session payload => exact send?_move stepped
  | sending index =>
      obtain ⟨send, present, moved⟩ := Option.bind_eq_some_iff.mp stepped
      obtain ⟨⟨address, connection⟩, opened, moved⟩ := Option.bind_eq_some_iff.mp moved
      exact sendStep?_move present opened moved
  | recv session =>
      obtain ⟨⟨received, channel⟩, taken, rfl⟩ := Option.map_eq_some_iff.mp stepped
      obtain ⟨rest, waiting, rfl⟩ := receive?_eq_some taken
      exact .recv waiting rfl rfl ⟨rfl, rfl, rfl, rfl, rfl, rfl, rfl, rfl, rfl⟩ rfl
  | shutdown => exact .shutdown (shutdown_move rfl stepped)

end ClientInner

end Coactor.Client
