import Coactor.Client.State

/-!
# `Client::open`

One call of `open`: the retry loop over ownership resolution, Placement,
`acquire_connection` and `send_session_open`, the clean-up of a failed attempt
and of a failed call, and the drop of the Session it returned.  The reads of the
store, the Placement Strategy and the transport give any answers.  What waits
under `timeout_at` is asked first, so an answer that is there counts even after
the deadline has passed.
-/

namespace Coactor.Client

open Coactor.Coordination
open Coactor.Foundation
open Coactor.Runtime

/-! ## Envelopes -/

/-- `envelope_session_open`. -/
def envelopeSessionOpen (address : ActorAddress) (session : SessionId) : Envelope :=
  ⟨transportProtocolVersion, some address, some session, some .sessionOpen⟩

/-- `envelope_action`. -/
def envelopeAction (address : ActorAddress) (session : SessionId) (payload : List UInt8) :
    Envelope :=
  ⟨transportProtocolVersion, some address, some session, some (.action payload)⟩

/-- `envelope_session_close`. -/
def envelopeSessionClose (address : ActorAddress) (session : SessionId) : Envelope :=
  ⟨transportProtocolVersion, some address, some session, some .sessionClose⟩

/-! ## Placement -/

/-- The hard filter of `placement_candidates`. -/
def placementCandidates (nodes : List NodeRecord) : List PlacementCandidate :=
  (nodes.filter fun node =>
    node.protocolVersion == transportProtocolVersion && !isBlank node.advertisedEndpoint &&
      !node.pressured && !node.draining &&
      decide (node.activeActorCount < node.maxActorCount)).map fun node =>
    ⟨node.advertisedEndpoint, node.activeActorCount, node.maxActorCount⟩

/-- The rest of `select_placement_candidate`; `ordered` is the answer of the
Placement Strategy. -/
def selectPlacementCandidate (candidates : List PlacementCandidate) (excluded ordered : List String) :
    Except SendError String :=
  let candidates := candidates.filter fun candidate => candidate.endpoint ∉ excluded
  if candidates = [] then .error .runtimeAtCapacity
  else
    match ordered.find? fun endpoint => candidates.any fun candidate =>
        candidate.endpoint == endpoint with
    | some endpoint => .ok endpoint
    | none => .error .runtimeAtCapacity

/-! ## The steps of a call -/

/-- How a call of `open` goes on. -/
inductive OpenEvent where
  | advance
  | reply (reply : RouterReply)
  | nodes (nodes : List NodeRecord) (ordered : List String)
  | cached (ordered : List String)
  | unlisted
  | connected
  | refused
  | expire
  | elapsed
  | abandon
  | drop
  deriving DecidableEq

/-- A read that timed out. -/
def isElapsed : RouterReply → Bool
  | .owner .elapsed | .node .elapsed => true
  | _ => false

namespace OpenCall

variable (call : OpenCall)

def goto (pc : OpenPc) : OpenCall := { call with pc := pc }

/-- Start the next iteration. -/
def retry : OpenCall := call.goto (.resolving resolveOwner)

/-- What `open` does about an owner resolution. -/
def resolved : OwnerProgram → OpenCall
  | .ret (.ok (.live endpoint nodeId sessionId)) =>
      if call.failedLiveOwner = some (nodeId, sessionId) then
        call.goto (.failing .remoteUnavailable)
      else call.goto (.pooling ⟨endpoint, some (nodeId, sessionId)⟩)
  | .ret (.ok .unowned) => call.goto .listing
  | .ret (.error error) => call.goto (.failing (.ofSendError error))
  | program => call.goto (.resolving program)

/-- What `open` does about a selected candidate. -/
def selected : Except SendError String → OpenCall
  | .ok endpoint => call.goto (.pooling ⟨endpoint, none⟩)
  | .error error => call.goto (.failing (.ofSendError error))

/-- `open` could not acquire a connection. -/
def unacquired (target : Target) : OpenCall :=
  if target.isPlacement then
    { call with excluded := target.endpoint :: call.excluded }.retry
  else { call with failedLiveOwner := target.liveOwner }.retry

/-- What `open` does after it has cleaned up a failed attempt. -/
def retracted (maxOpenAttempts : Nat) (target : Target) (error : SendError) : OpenCall :=
  let exhausted := decide (maxOpenAttempts ≤ call.attempts)
  match error with
  | .notOwner =>
      if exhausted then call.goto (.failing .attemptsExhausted) else call.retry
  | .runtimeAtCapacity =>
      if target.isPlacement then
        if exhausted then call.goto (.failing .attemptsExhausted)
        else { call with excluded := target.endpoint :: call.excluded }.retry
      else call.goto (.failing (.ofSendError .runtimeAtCapacity))
  | .remoteUnavailable =>
      if exhausted then call.goto (.failing .attemptsExhausted)
      else call.unacquired target
  | terminal => call.goto (.failing (.ofSendError terminal))

end OpenCall

/-- One candidate of `min_by_key`; the first of equal ones stays. -/
def better (best : Option (Nat × UInt64)) (connection : Nat) (bound : UInt64) :
    Option (Nat × UInt64) :=
  match best with
  | some (_, least) => if bound < least then some (connection, bound) else best
  | none => some (connection, bound)

/-- The await points of `open` at which its future can be dropped. -/
def OpenPc.isAwaiting : OpenPc → Bool
  | .resolving _ | .listing | .poolLock _ _ | .connecting _ _ | .awaiting _ _ _ => true
  | _ => false

/-- The pool whose lock a call holds at an await point. -/
def OpenPc.heldPool? : OpenPc → Option Nat
  | .connecting _ pool => some pool
  | _ => none

namespace ClientInner

variable (config : ClientConfig)

/-- `bound_sessions` of a connection. -/
def boundSessions (client : ClientInner) (connection : Nat) : UInt64 :=
  (client.connections connection).elim 0 TransportConnection.boundSessions

/-- Whether a Session is in the bound set of a connection. -/
def isBound (client : ClientInner) (connection : Nat) (session : SessionId) : Bool :=
  (client.connections connection).any fun connection => decide (session ∈ connection.sessions)

def addSession (client : ClientInner) (id : Nat) (session : SessionId) : ClientInner :=
  client.modify id fun connection =>
    { connection with sessions := connection.sessions ++ [session] }

def removeSession (client : ClientInner) (id : Nat) (session : SessionId) : ClientInner :=
  client.modify id fun connection =>
    { connection with sessions := connection.sessions.filter (· != session) }

/-- `fetch_add(1)` and `fetch_sub(1)` on `bound_sessions`. -/
def countUp (client : ClientInner) (id : Nat) : ClientInner :=
  client.modify id fun connection =>
    { connection with boundSessions := connection.boundSessions + 1 }

def countDown (client : ClientInner) (id : Nat) : ClientInner :=
  client.modify id fun connection =>
    { connection with boundSessions := connection.boundSessions - 1 }

/-- Send on a connection and ignore the answer. -/
def offerTo (client : ClientInner) (id : Nat) (sent : Sent) : ClientInner :=
  client.modify id fun connection => { connection with sender := connection.sender.offer sent }

/-- The pool of an endpoint, with a new one if there is none. -/
def pool (client : ClientInner) (endpoint : String) : Nat × ClientInner :=
  match client.pools.lookup endpoint with
  | some pool => (pool, client)
  | none => (client.nextPool, { client with
      pools := client.pools ++ [(endpoint, client.nextPool)]
      nextPool := client.nextPool + 1 })

/-- A connection just established, pushed into its pool. -/
def connect (client : ClientInner) (endpoint : String) (pool : Nat) : ClientInner :=
  { client with
    connections := Function.update client.connections client.nextConnection
      (some ⟨endpoint, ⟨transportChannelCapacity, [], false⟩, [], 0, false, .unspawned, false,
        false⟩)
    nextConnection := client.nextConnection + 1 }.setPoolConnections pool
      (client.poolConnections pool ++ [client.nextConnection])

/-- Spawn and register the receive loop of a new connection. -/
def spawnReceiveLoop (client : ClientInner) (id : Nat) : ClientInner :=
  client.modify id fun connection =>
    if connection.loop = .unspawned then
      { connection with loop := .receiving, registered := true }
    else connection

/-- The end of an `unbind`. -/
def unbound (client : ClientInner) (session : SessionId) (call : OpenCall) (target : Target) :
    AfterUnbind → ClientInner
  | .exhausted => client.setCall session (call.goto (.failing .attemptsExhausted))
  | .retract error => client.setCall session (call.goto (.retracting target error))

/-- One step of a call of `open`. -/
def openStep? (client : ClientInner) (session : SessionId) (call : OpenCall) :
    OpenPc → OpenEvent → Option ClientInner
  | .resolving program, .reply reply =>
      if isElapsed reply && !call.expired then none
      else (program.resume? reply).map fun next => client.setCall session (call.resolved next)
  | .listing, .nodes nodes ordered =>
      let candidates := placementCandidates nodes
      some ({ client with placementCache := some candidates }.setCall session
        (call.selected (selectPlacementCandidate candidates call.excluded ordered)))
  | .listing, .cached ordered =>
      client.placementCache.map fun candidates => client.setCall session
        (call.selected (selectPlacementCandidate candidates call.excluded ordered))
  | .listing, .unlisted => some (client.setCall session (call.goto (.failing .directoryUnavailable)))
  | .listing, .elapsed =>
      if call.expired then some (client.setCall session (call.goto (.failing .directoryUnavailable)))
      else none
  | .pooling target, .advance =>
      let (pool, client) := client.pool target.endpoint
      some (client.setCall session (call.goto (.poolLock target pool)))
  | .poolLock target pool, .advance =>
      if client.poolHolders pool then none
      else some ((client.setPoolHolder pool true).setCall session
        (call.goto (.retaining target pool [] (client.poolConnections pool))))
  | .poolLock target _, .elapsed =>
      if call.expired then some (client.setCall session (call.unacquired target)) else none
  | .retaining target pool kept (connection :: rest), .advance =>
      some (client.setCall session (call.goto (.retaining target pool
        (if client.isClosed connection then kept else kept ++ [connection]) rest)))
  | .retaining target pool kept [], .advance =>
      some ((client.setPoolConnections pool kept).setCall session (call.goto
        (if kept.length < config.maxConnectionsPerEndpoint then .connecting target pool
          else .choosing target pool none kept)))
  | .connecting target pool, .connected =>
      some ((client.connect target.endpoint pool).setCall session
        (call.goto (.binding target pool client.nextConnection)))
  | .connecting target pool, .refused =>
      some ((client.setPoolHolder pool false).setCall session (call.unacquired target))
  | .connecting target pool, .elapsed =>
      if call.expired then
        some ((client.setPoolHolder pool false).setCall session (call.unacquired target))
      else none
  | .choosing target pool best (connection :: rest), .advance =>
      some (client.setCall session (call.goto (.choosing target pool
        (better best connection (client.boundSessions connection)) rest)))
  | .choosing target pool best [], .advance =>
      match best with
      | some (connection, _) =>
          some (client.setCall session (call.goto (.binding target pool connection)))
      | none => some ((client.setPoolHolder pool false).setCall session (call.unacquired target))
  | .binding target pool connection, .advance =>
      if client.isBound connection session then
        some (client.setCall session (call.goto (.spawning target pool connection)))
      else some ((client.addSession connection session).setCall session
        (call.goto (.counting target pool connection)))
  | .counting target pool connection, .advance =>
      some ((client.countUp connection).setCall session
        (call.goto (.spawning target pool connection)))
  | .spawning target pool connection, .advance =>
      some (((client.spawnReceiveLoop connection).setPoolHolder pool false).setCall session
        (call.goto (.acquired target connection)))
  | .acquired target connection, .advance =>
      if config.maxOpenAttempts ≤ call.attempts then
        some (client.setCall session (call.goto (.unbinding target connection .exhausted)))
      else
        some ({ client.setPending session (some ⟨connection, client.nextTicket⟩) with
          nextTicket := client.nextTicket + 1 }.setCall session
            (call.goto (.checking target connection client.nextTicket)))
  | .checking target connection ticket, .advance =>
      some (client.setCall session (call.goto (if client.isClosed connection then
        .closeChecking target connection .remoteUnavailable
        else .sending target connection ticket)))
  | .sending target connection ticket, .advance =>
      (client.connections connection).map fun found =>
        match found.sender.trySend ⟨some ticket, envelopeSessionOpen call.address session⟩ with
        | .ok sender =>
            (client.modify connection fun connection =>
              { connection with sender := sender }).setCall session
              { call with
                pc := .awaiting target connection ticket
                attempts := call.attempts + 1 }
        | .error _ => client.setCall session
            (call.goto (.closeChecking target connection .remoteUnavailable))
  | .awaiting target connection ticket, .advance =>
      match client.oneshots ticket with
      | .waiting => none
      | .sent none => some (client.setCall session (call.goto (.opened connection)))
      | .sent (some error) =>
          some (client.setCall session (call.goto (.closeChecking target connection error)))
      | .dropped => some (client.setCall session
          (call.goto (.closeChecking target connection .remoteUnavailable)))
  | .awaiting target connection _, .elapsed =>
      if call.expired then
        some (client.setCall session
          (call.goto (.closeChecking target connection .remoteUnavailable)))
      else none
  | .closeChecking target connection error, .advance =>
      some (client.setCall session (call.goto (if client.isClosed connection then
        .unbinding target connection (.retract error)
        else .closeSending target connection error)))
  | .closeSending target connection error, .advance =>
      some ((client.offerTo connection ⟨none, envelopeSessionClose call.address session⟩).setCall
        session (call.goto (.unbinding target connection (.retract error))))
  | .unbinding target connection next, .advance =>
      if client.isBound connection session then
        some ((client.removeSession connection session).setCall session
          (call.goto (.uncounting target connection next)))
      else some (client.unbound session call target next)
  | .uncounting target connection next, .advance =>
      some ((client.countDown connection).unbound session call target next)
  | .retracting target error, .advance =>
      some ((client.setPending session none).setCall session
        (call.retracted config.maxOpenAttempts target error))
  | .failing error, .advance =>
      some ((client.setPending session none).setCall session (call.goto (.unregistering error)))
  | .unregistering error, .advance =>
      some (((client.unregisterLocal session).dropReceiver session).setCall session
        (call.goto (.failed error)))
  | .opened connection, .drop =>
      if client.sends.all fun send => send.session != session || send.pc == .returned then
        some (client.setCall session (call.goto (.dropUnregistering connection)))
      else none
  | .dropUnregistering connection, .advance =>
      some ((client.unregisterLocal session).setCall session
        (call.goto (.dropUnbinding connection)))
  | .dropUnbinding connection, .advance =>
      if client.isBound connection session then
        some ((client.removeSession connection session).setCall session
          (call.goto (.dropUncounting connection)))
      else some (client.setCall session (call.goto (.dropChecking connection)))
  | .dropUncounting connection, .advance =>
      some ((client.countDown connection).setCall session (call.goto (.dropChecking connection)))
  | .dropChecking connection, .advance =>
      if client.isClosed connection then
        some ((client.dropReceiver session).setCall session (call.goto (.dropped connection)))
      else some (client.setCall session (call.goto (.dropSending connection)))
  | .dropSending connection, .advance =>
      some (((client.offerTo connection
        ⟨none, envelopeSessionClose call.address session⟩).dropReceiver session).setCall session
          (call.goto (.dropped connection)))
  | pc, .expire =>
      if pc.hasReturned then none else some (client.setCall session { call with expired := true })
  | pc, .abandon =>
      if pc.isAwaiting then
        some (((match pc.heldPool? with
          | some pool => client.setPoolHolder pool false
          | none => client).dropReceiver session).setCall session (call.goto .abandoned))
      else none
  | _, _ => none

end ClientInner

end Coactor.Client
