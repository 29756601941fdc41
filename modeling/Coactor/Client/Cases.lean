import Coactor.Client.System

/-!
# The cases of a step

Every way in which a call of `open` and a receive loop can take one step, with the
guard of its branch, what it leaves of the Client, and how the call or the loop
goes on.  What a step does to one part of a Client is read off these cases.
-/

namespace Coactor.Client

open Coactor.Coordination
open Coactor.Foundation
open Coactor.Runtime
open Coactor.Transport

/-- Where a call goes on after an `unbind`. -/
def AfterUnbind.onward (target : Target) : AfterUnbind → OpenPc
  | .exhausted => .failing .attemptsExhausted
  | .retract error => .retracting target error

/-- One step of a call of `open`: the Client without the call, and the call. -/
inductive OpenCase (config : ClientConfig) (client : ClientInner) (session : SessionId)
    (call : OpenCall) : OpenPc → OpenEvent → ClientInner → OpenCall → Prop where
  | answered {program onward : OwnerProgram} {reply : RouterReply}
      (timely : isElapsed reply = true → call.expired = true)
      (resumed : program.resume? reply = some onward) :
      OpenCase config client session call (.resolving program) (.reply reply) client
        (call.resolved onward)
  | listed (nodes : List NodeRecord) (ordered : List String) :
      OpenCase config client session call .listing (.nodes nodes ordered)
        { client with placementCache := some (placementCandidates nodes) }
        (call.selected
          (selectPlacementCandidate (placementCandidates nodes) call.excluded ordered))
  | cached {candidates : List PlacementCandidate} {ordered : List String}
      (kept : client.placementCache = some candidates) :
      OpenCase config client session call .listing (.cached ordered) client
        (call.selected (selectPlacementCandidate candidates call.excluded ordered))
  | unlisted :
      OpenCase config client session call .listing .unlisted client
        (call.goto (.failing .directoryUnavailable))
  | listingElapsed (late : call.expired = true) :
      OpenCase config client session call .listing .elapsed client
        (call.goto (.failing .directoryUnavailable))
  | pooled {target : Target} :
      OpenCase config client session call (.pooling target) .advance
        (client.pool target.endpoint).2
        (call.goto (.poolLock target (client.pool target.endpoint).1))
  | locked {target : Target} {pool : Nat} (free : client.poolHolders pool = false) :
      OpenCase config client session call (.poolLock target pool) .advance
        (client.setPoolHolder pool true)
        (call.goto (.retaining target pool [] (client.poolConnections pool)))
  | lockElapsed {target : Target} {pool : Nat} (late : call.expired = true) :
      OpenCase config client session call (.poolLock target pool) .elapsed client
        (call.unacquired target)
  | sieved {target : Target} {pool : Nat} {kept : List Nat} {connection : Nat} {rest : List Nat} :
      OpenCase config client session call (.retaining target pool kept (connection :: rest)) .advance
        client (call.goto (.retaining target pool
          (if client.isClosed connection then kept else kept ++ [connection]) rest))
  | few {target : Target} {pool : Nat} {kept : List Nat}
      (room : kept.length < config.maxConnectionsPerEndpoint) :
      OpenCase config client session call (.retaining target pool kept []) .advance
        (client.setPoolConnections pool kept) (call.goto (.connecting target pool))
  | full {target : Target} {pool : Nat} {kept : List Nat}
      (crowded : config.maxConnectionsPerEndpoint ≤ kept.length) :
      OpenCase config client session call (.retaining target pool kept []) .advance
        (client.setPoolConnections pool kept) (call.goto (.choosing target pool none kept))
  | connected {target : Target} {pool : Nat} :
      OpenCase config client session call (.connecting target pool) .connected
        (client.connect target.endpoint pool)
        (call.goto (.binding target pool client.nextConnection))
  | refused {target : Target} {pool : Nat} :
      OpenCase config client session call (.connecting target pool) .refused
        (client.setPoolHolder pool false) (call.unacquired target)
  | connectElapsed {target : Target} {pool : Nat} (late : call.expired = true) :
      OpenCase config client session call (.connecting target pool) .elapsed
        (client.setPoolHolder pool false) (call.unacquired target)
  | weighed {target : Target} {pool : Nat} {best : Option (Nat × UInt64)} {connection : Nat}
      {rest : List Nat} :
      OpenCase config client session call (.choosing target pool best (connection :: rest)) .advance
        client (call.goto (.choosing target pool
          (better best connection (client.boundSessions connection)) rest))
  | chosen {target : Target} {pool connection : Nat} {bound : UInt64} :
      OpenCase config client session call (.choosing target pool (some (connection, bound)) [])
        .advance client (call.goto (.binding target pool connection))
  | choiceless {target : Target} {pool : Nat} :
      OpenCase config client session call (.choosing target pool none []) .advance
        (client.setPoolHolder pool false) (call.unacquired target)
  | rebound {target : Target} {pool connection : Nat}
      (bound : client.isBound connection session = true) :
      OpenCase config client session call (.binding target pool connection) .advance client
        (call.goto (.spawning target pool connection))
  | bound {target : Target} {pool connection : Nat}
      (unbound : client.isBound connection session = false) :
      OpenCase config client session call (.binding target pool connection) .advance
        (client.addSession connection session) (call.goto (.counting target pool connection))
  | counted {target : Target} {pool connection : Nat} :
      OpenCase config client session call (.counting target pool connection) .advance
        (client.countUp connection) (call.goto (.spawning target pool connection))
  | spawned {target : Target} {pool connection : Nat} :
      OpenCase config client session call (.spawning target pool connection) .advance
        ((client.spawnReceiveLoop connection).setPoolHolder pool false)
        (call.goto (.acquired target connection))
  | exhausted {target : Target} {connection : Nat}
      (spent : config.maxOpenAttempts ≤ call.attempts) :
      OpenCase config client session call (.acquired target connection) .advance client
        (call.goto (.unbinding target connection .exhausted))
  | attempted {target : Target} {connection : Nat} (left : call.attempts < config.maxOpenAttempts) :
      OpenCase config client session call (.acquired target connection) .advance
        { client.setPending session (some ⟨connection, client.nextTicket⟩) with
          nextTicket := client.nextTicket + 1 }
        (call.goto (.checking target connection client.nextTicket))
  | checkedLost {target : Target} {connection ticket : Nat}
      (closed : client.isClosed connection = true) :
      OpenCase config client session call (.checking target connection ticket) .advance client
        (call.goto (.closeChecking target connection .remoteUnavailable))
  | checked {target : Target} {connection ticket : Nat}
      (live : client.isClosed connection = false) :
      OpenCase config client session call (.checking target connection ticket) .advance client
        (call.goto (.sending target connection ticket))
  | sent {target : Target} {connection ticket : Nat} {found : TransportConnection}
      {sender : Channel Sent} (present : client.connections connection = some found)
      (accepted : found.sender.trySend ⟨some ticket, envelopeSessionOpen call.address session⟩ =
        .ok sender) :
      OpenCase config client session call (.sending target connection ticket) .advance
        (client.modify connection fun connection => { connection with sender := sender })
        { call with
          pc := .awaiting target connection ticket
          attempts := call.attempts + 1 }
  | unsent {target : Target} {connection ticket : Nat} {found : TransportConnection}
      {error : TrySendError} (present : client.connections connection = some found)
      (refused : found.sender.trySend ⟨some ticket, envelopeSessionOpen call.address session⟩ =
        .error error) :
      OpenCase config client session call (.sending target connection ticket) .advance client
        (call.goto (.closeChecking target connection .remoteUnavailable))
  | opened {target : Target} {connection ticket : Nat}
      (acknowledged : client.oneshots ticket = .sent none) :
      OpenCase config client session call (.awaiting target connection ticket) .advance client
        (call.goto (.opened connection))
  | failed {target : Target} {connection ticket : Nat} {error : SendError}
      (acknowledged : client.oneshots ticket = .sent (some error)) :
      OpenCase config client session call (.awaiting target connection ticket) .advance client
        (call.goto (.closeChecking target connection error))
  | unanswered {target : Target} {connection ticket : Nat}
      (dropped : client.oneshots ticket = .dropped) :
      OpenCase config client session call (.awaiting target connection ticket) .advance client
        (call.goto (.closeChecking target connection .remoteUnavailable))
  | awaitElapsed {target : Target} {connection ticket : Nat} (late : call.expired = true) :
      OpenCase config client session call (.awaiting target connection ticket) .elapsed client
        (call.goto (.closeChecking target connection .remoteUnavailable))
  | closeSkipped {target : Target} {connection : Nat} {error : SendError}
      (closed : client.isClosed connection = true) :
      OpenCase config client session call (.closeChecking target connection error) .advance client
        (call.goto (.unbinding target connection (.retract error)))
  | closeChecked {target : Target} {connection : Nat} {error : SendError}
      (live : client.isClosed connection = false) :
      OpenCase config client session call (.closeChecking target connection error) .advance client
        (call.goto (.closeSending target connection error))
  | closeSent {target : Target} {connection : Nat} {error : SendError} :
      OpenCase config client session call (.closeSending target connection error) .advance
        (client.offerTo connection ⟨none, envelopeSessionClose call.address session⟩)
        (call.goto (.unbinding target connection (.retract error)))
  | unbound {target : Target} {connection : Nat} {next : AfterUnbind}
      (bound : client.isBound connection session = true) :
      OpenCase config client session call (.unbinding target connection next) .advance
        (client.removeSession connection session)
        (call.goto (.uncounting target connection next))
  | unheld {target : Target} {connection : Nat} {next : AfterUnbind}
      (unbound : client.isBound connection session = false) :
      OpenCase config client session call (.unbinding target connection next) .advance client
        (call.goto (next.onward target))
  | uncounted {target : Target} {connection : Nat} {next : AfterUnbind} :
      OpenCase config client session call (.uncounting target connection next) .advance
        (client.countDown connection) (call.goto (next.onward target))
  | retracted {target : Target} {error : SendError} :
      OpenCase config client session call (.retracting target error) .advance
        (client.setPending session none) (call.retracted config.maxOpenAttempts target error)
  | cleared {error : OpenError} :
      OpenCase config client session call (.failing error) .advance
        (client.setPending session none) (call.goto (.unregistering error))
  | unregistered {error : OpenError} :
      OpenCase config client session call (.unregistering error) .advance
        ((client.unregisterLocal session).dropReceiver session) (call.goto (.failed error))
  | drops {connection : Nat} (unused : client.sends.all fun send =>
        send.session != session || send.pc == .returned) :
      OpenCase config client session call (.opened connection) .drop client
        (call.goto (.dropUnregistering connection))
  | dropUnregistered {connection : Nat} :
      OpenCase config client session call (.dropUnregistering connection) .advance
        (client.unregisterLocal session) (call.goto (.dropUnbinding connection))
  | dropUnbound {connection : Nat} (bound : client.isBound connection session = true) :
      OpenCase config client session call (.dropUnbinding connection) .advance
        (client.removeSession connection session) (call.goto (.dropUncounting connection))
  | dropUnheld {connection : Nat} (unbound : client.isBound connection session = false) :
      OpenCase config client session call (.dropUnbinding connection) .advance client
        (call.goto (.dropChecking connection))
  | dropUncounted {connection : Nat} :
      OpenCase config client session call (.dropUncounting connection) .advance
        (client.countDown connection) (call.goto (.dropChecking connection))
  | dropSkipped {connection : Nat} (closed : client.isClosed connection = true) :
      OpenCase config client session call (.dropChecking connection) .advance
        (client.dropReceiver session) (call.goto (.dropped connection))
  | dropChecked {connection : Nat} (live : client.isClosed connection = false) :
      OpenCase config client session call (.dropChecking connection) .advance client
        (call.goto (.dropSending connection))
  | dropSent {connection : Nat} :
      OpenCase config client session call (.dropSending connection) .advance
        ((client.offerTo connection
          ⟨none, envelopeSessionClose call.address session⟩).dropReceiver session)
        (call.goto (.dropped connection))
  | expires {pc : OpenPc} (working : pc.hasReturned = false) :
      OpenCase config client session call pc .expire client { call with expired := true }
  | abandoned {pc : OpenPc} (awaiting : pc.isAwaiting = true) (unlocked : pc.heldPool? = none) :
      OpenCase config client session call pc .abandon (client.dropReceiver session)
        (call.goto .abandoned)
  | abandonedConnect {target : Target} {pool : Nat} :
      OpenCase config client session call (.connecting target pool) .abandon
        ((client.setPoolHolder pool false).dropReceiver session) (call.goto .abandoned)

/-- One step of the receive loop of a connection. -/
inductive LoopCase (client : ClientInner) (id : Nat) (connection : TransportConnection) :
    LoopPc → LoopEvent → ClientInner → Prop where
  | received {inbound : Inbound} :
      LoopCase client id connection .receiving (.receive inbound)
        (client.gotoLoop id inbound.handle)
  | lost : LoopCase client id connection .receiving .lost (client.gotoLoop id .closing)
  | known {session : SessionId} {item : SessionItem} (bound : session ∈ connection.sessions) :
      LoopCase client id connection (.delivering session item) .advance
        (client.gotoLoop id (.looking session item))
  | unknown {session : SessionId} {item : SessionItem} (unbound : session ∉ connection.sessions) :
      LoopCase client id connection (.delivering session item) .advance
        (client.gotoLoop id .receiving)
  | found {session : SessionId} {item : SessionItem} (registered : session ∈ client.receivers) :
      LoopCase client id connection (.looking session item) .advance
        (client.gotoLoop id (.pushing session item))
  | missing {session : SessionId} {item : SessionItem} (gone : session ∉ client.receivers) :
      LoopCase client id connection (.looking session item) .advance
        (client.gotoLoop id .receiving)
  | pushed {session : SessionId} {item : SessionItem} :
      LoopCase client id connection (.pushing session item) .advance
        ((client.offer session ⟨some id, item⟩).gotoLoop id .receiving)
  | taken {answered : Option Nat} {session : SessionId} {result : Option SendError}
      {pending : PendingOpen} (waits : client.pendingOn session id = some pending) :
      LoopCase client id connection (.acknowledging answered session result) .advance
        ((client.takePending session).gotoLoop id (.completing answered pending.ticket result))
  | stale {answered : Option Nat} {session : SessionId} {result : Option SendError}
      (settled : client.pendingOn session id = none) :
      LoopCase client id connection (.acknowledging answered session result) .advance
        (client.gotoLoop id .receiving)
  | completed {answered : Option Nat} {ticket : Nat} {result : Option SendError} :
      LoopCase client id connection (.completing answered ticket result) .advance
        ((client.complete ticket result).gotoLoop id .receiving)
  | closed :
      LoopCase client id connection .closing .advance
        (client.modify id fun connection => { connection with closed := true, loop := .unpooling })
  | pooled {pool : Nat} (listed : client.pools.lookup connection.endpoint = some pool) :
      LoopCase client id connection .unpooling .advance (client.gotoLoop id (.poolLock pool))
  | unpooled (unlisted : client.pools.lookup connection.endpoint = none) :
      LoopCase client id connection .unpooling .advance (client.gotoLoop id .draining)
  | removed {pool : Nat} (free : client.poolHolders pool = false) :
      LoopCase client id connection (.poolLock pool) .advance
        ((client.setPoolConnections pool
          ((client.poolConnections pool).filter (· != id))).gotoLoop id .draining)
  | drained :
      LoopCase client id connection .draining .advance
        (client.modify id fun connection =>
          { connection with sessions := [], loop := .zeroing connection.sessions })
  | zeroed {sessions : List SessionId} :
      LoopCase client id connection (.zeroing sessions) .advance
        (client.modify id fun connection =>
          { connection with boundSessions := 0, loop := .ending sessions })
  | ended : LoopCase client id connection (.ending []) .advance (client.gotoLoop id .ended)
  | fails {session : SessionId} {rest : List SessionId} {pending : PendingOpen}
      (waits : client.pendingOn session id = some pending) :
      LoopCase client id connection (.ending (session :: rest)) .advance
        ((client.takePending session).gotoLoop id (.failing pending.ticket rest))
  | terminates {session : SessionId} {rest : List SessionId}
      (settled : client.pendingOn session id = none) :
      LoopCase client id connection (.ending (session :: rest)) .advance
        (client.gotoLoop id (.terminating session rest))
  | failed {ticket : Nat} {rest : List SessionId} :
      LoopCase client id connection (.failing ticket rest) .advance
        ((client.complete ticket (some .remoteUnavailable)).gotoLoop id (.ending rest))
  | terminated {session : SessionId} {rest : List SessionId} :
      LoopCase client id connection (.terminating session rest) .advance
        ((client.terminate session ⟨some id, .error .remoteUnavailable⟩).gotoLoop id (.ending rest))
  | aborted (asked : connection.abortRequested = true) :
      LoopCase client id connection .receiving .abort (client.gotoLoop id .ended)
  | abortedLock {pool : Nat} (asked : connection.abortRequested = true) :
      LoopCase client id connection (.poolLock pool) .abort (client.gotoLoop id .ended)

namespace ClientInner

variable {config : ClientConfig} {client after : ClientInner} {session : SessionId}
  {call : OpenCall} {pc : OpenPc} {event : OpenEvent} {id : Nat}

theorem unbound_eq (target : Target) (next : AfterUnbind) :
    client.unbound session call target next =
      client.setCall session (call.goto (next.onward target)) := by
  cases next <;> rfl

/-- Every step of a call of `open` is one of its cases. -/
theorem openStep?_cases (stepped : client.openStep? config session call pc event = some after) :
    ∃ middle next, OpenCase config client session call pc event middle next ∧
      after = middle.setCall session next := by
  unfold openStep? at stepped
  split at stepped
  case h_1 program reply =>
    split at stepped
    · cases stepped
    · rename_i timely
      obtain ⟨onward, resumed, rfl⟩ := Option.map_eq_some_iff.mp stepped
      exact ⟨_, _, .answered (by simpa using timely) resumed, rfl⟩
  case h_3 =>
    obtain ⟨candidates, kept, rfl⟩ := Option.map_eq_some_iff.mp stepped
    exact ⟨_, _, .cached kept, rfl⟩
  case h_5 =>
    split at stepped <;> cases stepped
    exact ⟨_, _, .listingElapsed ‹_›, rfl⟩
  case h_7 =>
    split at stepped <;> cases stepped
    exact ⟨_, _, .locked (Bool.eq_false_iff.mpr ‹_›), rfl⟩
  case h_8 =>
    split at stepped <;> cases stepped
    exact ⟨_, _, .lockElapsed ‹_›, rfl⟩
  case h_10 =>
    cases stepped
    split
    · exact ⟨_, _, .few ‹_›, rfl⟩
    · exact ⟨_, _, .full (Nat.le_of_not_lt ‹_›), rfl⟩
  case h_13 =>
    split at stepped <;> cases stepped
    exact ⟨_, _, .connectElapsed ‹_›, rfl⟩
  case h_15 =>
    split at stepped <;> cases stepped
    · exact ⟨_, _, .chosen, rfl⟩
    · exact ⟨_, _, .choiceless, rfl⟩
  case h_16 =>
    split at stepped <;> cases stepped
    · exact ⟨_, _, .rebound ‹_›, rfl⟩
    · exact ⟨_, _, .bound (Bool.eq_false_iff.mpr ‹_›), rfl⟩
  case h_19 =>
    split at stepped <;> cases stepped
    · exact ⟨_, _, .exhausted ‹_›, rfl⟩
    · exact ⟨_, _, .attempted (Nat.lt_of_not_le ‹_›), rfl⟩
  case h_20 =>
    cases stepped
    split
    · exact ⟨_, _, .checkedLost ‹_›, rfl⟩
    · exact ⟨_, _, .checked (Bool.eq_false_iff.mpr ‹_›), rfl⟩
  case h_21 =>
    obtain ⟨found, present, rfl⟩ := Option.map_eq_some_iff.mp stepped
    split
    · exact ⟨_, _, .sent present ‹_›, rfl⟩
    · exact ⟨_, _, .unsent present ‹_›, rfl⟩
  case h_22 =>
    split at stepped <;> cases stepped
    · exact ⟨_, _, .opened ‹_›, rfl⟩
    · exact ⟨_, _, .failed ‹_›, rfl⟩
    · exact ⟨_, _, .unanswered ‹_›, rfl⟩
  case h_23 =>
    split at stepped <;> cases stepped
    exact ⟨_, _, .awaitElapsed ‹_›, rfl⟩
  case h_24 =>
    cases stepped
    split
    · exact ⟨_, _, .closeSkipped ‹_›, rfl⟩
    · exact ⟨_, _, .closeChecked (Bool.eq_false_iff.mpr ‹_›), rfl⟩
  case h_26 =>
    split at stepped <;> cases stepped
    · exact ⟨_, _, .unbound ‹_›, rfl⟩
    · exact ⟨_, _, .unheld (Bool.eq_false_iff.mpr ‹_›), unbound_eq _ _⟩
  case h_27 =>
    cases stepped
    exact ⟨_, _, .uncounted, unbound_eq _ _⟩
  case h_31 =>
    split at stepped <;> cases stepped
    exact ⟨_, _, .drops ‹_›, rfl⟩
  case h_33 =>
    split at stepped <;> cases stepped
    · exact ⟨_, _, .dropUnbound ‹_›, rfl⟩
    · exact ⟨_, _, .dropUnheld (Bool.eq_false_iff.mpr ‹_›), rfl⟩
  case h_35 =>
    split at stepped <;> cases stepped
    · exact ⟨_, _, .dropSkipped ‹_›, rfl⟩
    · exact ⟨_, _, .dropChecked (Bool.eq_false_iff.mpr ‹_›), rfl⟩
  case h_37 =>
    split at stepped <;> cases stepped
    exact ⟨_, _, .expires (Bool.eq_false_iff.mpr ‹_›), rfl⟩
  case h_38 =>
    split at stepped
    · rename_i awaiting
      cases stepped
      cases pc with
      | connecting target pool => exact ⟨_, _, .abandonedConnect, rfl⟩
      | resolving | listing | poolLock | awaiting =>
          exact ⟨_, _, .abandoned awaiting rfl, rfl⟩
      | _ => cases awaiting
    · cases stepped
  case h_39 => cases stepped
  all_goals
    cases stepped
    exact ⟨_, _, by constructor, rfl⟩

/-- Every step of a receive loop is one of its cases. -/
theorem loopStep?_cases {connection : TransportConnection} {pc : LoopPc} {event : LoopEvent}
    (stepped : client.loopStep? id connection pc event = some after) :
    LoopCase client id connection pc event after := by
  unfold loopStep? at stepped
  split at stepped
  case h_3 =>
    split at stepped <;> cases stepped
    · exact .known ‹_›
    · exact .unknown ‹_›
  case h_4 =>
    split at stepped <;> cases stepped
    · exact .found ‹_›
    · exact .missing ‹_›
  case h_6 =>
    split at stepped <;> cases stepped
    · exact .taken ‹_›
    · exact .stale ‹_›
  case h_9 =>
    split at stepped <;> cases stepped
    · exact .pooled ‹_›
    · exact .unpooled ‹_›
  case h_10 =>
    split at stepped <;> cases stepped
    exact .removed (Bool.eq_false_iff.mpr ‹_›)
  case h_14 =>
    split at stepped <;> cases stepped
    · exact .fails ‹_›
    · exact .terminates ‹_›
  case h_17 =>
    split at stepped <;> cases stepped
    exact .aborted ‹_›
  case h_18 =>
    split at stepped <;> cases stepped
    exact .abortedLock ‹_›
  case h_19 => cases stepped
  all_goals
    cases stepped
    constructor

end ClientInner

end Coactor.Client
