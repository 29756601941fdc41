import Coactor.Client.Journal
import Coactor.Client.Moves

/-!
# What one step of `open` does to its call and to the Client

A call is seen here as the phase of its current iteration and the data that its
retries depend on, and a Client as its pools, the bound sets of its connections
and the registered receivers.  Every step of a call is a move between two
phases with one effect on these.
-/

namespace Coactor.Client

open Coactor.Coordination
open Coactor.Foundation
open Coactor.Runtime
open Coactor.Transport

/-! ## Phases -/

/-- Where an iteration of `open` stands. -/
inductive Phase where
  | resolving
  | listing
  | acquiring (target : Target)
  | trying (target : Target)
  | awaiting (target : Target)
  | cleaning (target : Target) (error : SendError)
  | exhausted (target : Target)
  | failing
  | failed
  | abandoned
  | opened
  deriving DecidableEq

def AfterUnbind.phase (target : Target) : AfterUnbind → Phase
  | .exhausted => .exhausted target
  | .retract error => .cleaning target error

def OpenPc.phase : OpenPc → Phase
  | .resolving _ => .resolving
  | .listing => .listing
  | .pooling target | .poolLock target _ | .retaining target _ _ _ | .connecting target _
  | .choosing target _ _ _ | .binding target _ _ | .counting target _ _ | .spawning target _ _
  | .acquired target _ => .acquiring target
  | .checking target _ _ | .sending target _ _ => .trying target
  | .awaiting target _ _ => .awaiting target
  | .closeChecking target _ error | .closeSending target _ error | .retracting target error =>
      .cleaning target error
  | .unbinding target _ next | .uncounting target _ next => next.phase target
  | .failing _ | .unregistering _ => .failing
  | .failed _ => .failed
  | .abandoned => .abandoned
  | .opened _ | .dropUnregistering _ | .dropUnbinding _ | .dropUncounting _ | .dropChecking _
  | .dropSending _ | .dropped _ => .opened

/-- The moves between phases that leave the data of the retries alone, with what
they add to the record. -/
inductive PhaseMove (config : ClientConfig) (client : ClientInner) (call : OpenCall)
    (event : OpenEvent) : Phase → Phase → List OpenEntry → Prop where
  | stays {phase} : PhaseMove config client call event phase phase []
  | closed {target error} (connection : Nat) :
      PhaseMove config client call event (.cleaning target error) (.cleaning target error)
        [.closeHanded connection]
  | live {endpoint nodeId sessionId}
      (unfailed : call.failedLiveOwner ≠ some (nodeId, sessionId)) :
      PhaseMove config client call event .resolving
        (.acquiring ⟨endpoint, some (nodeId, sessionId)⟩)
        [.resolved (.ok (.live endpoint nodeId sessionId))]
  | failedAgain {endpoint nodeId sessionId}
      (failed : call.failedLiveOwner = some (nodeId, sessionId)) :
      PhaseMove config client call event .resolving .failing
        [.resolved (.ok (.live endpoint nodeId sessionId))]
  | unresolved {error} :
      PhaseMove config client call event .resolving .failing [.resolved (.error error)]
  | unowned : PhaseMove config client call event .resolving .listing [.resolved (.ok .unowned)]
  | selected {candidates endpoint}
      (listed : endpoint ∈ candidates.map PlacementCandidate.endpoint)
      (untried : endpoint ∉ call.excluded)
      (source : (∃ nodes ordered, event = .nodes nodes ordered ∧
        candidates = placementCandidates nodes) ∨ client.placementCache = some candidates) :
      PhaseMove config client call event .listing (.acquiring ⟨endpoint, none⟩)
        [.listed candidates (.ok endpoint)]
  | unselected {candidates error} :
      PhaseMove config client call event .listing .failing [.listed candidates (.error error)]
  | unlisted : PhaseMove config client call event .listing .failing []
  | exhausts {target} (spent : config.maxOpenAttempts ≤ call.attempts) :
      PhaseMove config client call event (.acquiring target) (.exhausted target) []
  | attempts {target} (left : call.attempts < config.maxOpenAttempts) :
      PhaseMove config client call event (.acquiring target) (.trying target) []
  | unsent {target} :
      PhaseMove config client call event (.trying target) (.cleaning target .remoteUnavailable) []
  | opened {target} : PhaseMove config client call event (.awaiting target) .opened []
  | answered {target error} :
      PhaseMove config client call event (.awaiting target) (.cleaning target error) []
  | gaveUp {target} :
      PhaseMove config client call event (.exhausted target) .failing target.rollback
  | lost {target error} :
      PhaseMove config client call event (.cleaning target error) .failing
        (target.rollback ++ [.ended target error])
  | repeats {target} (left : call.attempts < config.maxOpenAttempts) :
      PhaseMove config client call event (.cleaning target .notOwner) .resolving
        (target.rollback ++ [.ended target .notOwner])
  | failed : PhaseMove config client call event .failing .failed []
  | abandoned {phase} (working : phase ≠ .opened ∧ phase ≠ .failed) :
      PhaseMove config client call event phase .abandoned []

/-- The data of the retries stay as they are. -/
structure SameData (call next : OpenCall) : Prop where
  attempts : next.attempts = call.attempts
  excluded : next.excluded = call.excluded
  failedLiveOwner : next.failedLiveOwner = call.failedLiveOwner

/-- How a step takes its call on, with what it adds to the record. -/
inductive CallMove (config : ClientConfig) (client : ClientInner) (call next : OpenCall)
    (event : OpenEvent) (entries : List OpenEntry) : Prop where
  | kept (same : SameData call next)
      (move : PhaseMove config client call event call.pc.phase next.pc.phase entries)
  | sent (target : Target) (connection ticket : Nat) (found : TransportConnection)
      (here : call.pc = .sending target connection ticket)
      (there : next.pc = .awaiting target connection ticket)
      (present : client.connections connection = some found)
      (attempts : next.attempts = call.attempts + 1) (excluded : next.excluded = call.excluded)
      (failedLiveOwner : next.failedLiveOwner = call.failedLiveOwner)
      (noted : entries = [.sent connection found.endpoint])
  | unacquired (target : Target) (here : call.pc.phase = .acquiring target)
      (onward : next = call.unacquired target)
      (noted : entries = target.rollback ++ [.unconnected target])
  | retried (target : Target) (error : SendError) (here : call.pc.phase = .cleaning target error)
      (retries : error = .remoteUnavailable ∨
        (error = .runtimeAtCapacity ∧ target.isPlacement = true))
      (left : call.attempts < config.maxOpenAttempts) (onward : next = call.unacquired target)
      (noted : entries = target.rollback ++ [.ended target error])

/-! ## Pools, bound sets and receivers -/

/-- What is seen of a connection besides its traffic. -/
structure Binding where
  endpoint : String
  sessions : List SessionId
  closed : Bool
  deriving DecidableEq

def TransportConnection.binding (connection : TransportConnection) : Binding :=
  ⟨connection.endpoint, connection.sessions, connection.closed⟩

def ClientInner.bindings (client : ClientInner) (id : Nat) : Option Binding :=
  (client.connections id).map TransportConnection.binding

/-- A step that touches no pool, no bound set and no receiver. -/
structure SameResources (before after : ClientInner) : Prop where
  bindings : after.bindings = before.bindings
  receivers : after.receivers = before.receivers
  pools : after.pools = before.pools
  poolConnections : after.poolConnections = before.poolConnections
  nextPool : after.nextPool = before.nextPool
  nextConnection : after.nextConnection = before.nextConnection

/-- The connection in whose bound set the Session of a call may be. -/
def OpenPc.bound? : OpenPc → Option Nat
  | .counting _ _ connection | .spawning _ _ connection | .acquired _ connection
  | .checking _ connection _ | .sending _ connection _ | .awaiting _ connection _
  | .closeChecking _ connection _ | .closeSending _ connection _ | .unbinding _ connection _
  | .opened connection | .dropUnregistering connection | .dropUnbinding connection =>
      some connection
  | _ => none

/-- The pool a call works on. -/
def OpenPc.pool? : OpenPc → Option Nat
  | .poolLock _ pool | .retaining _ pool _ _ | .connecting _ pool | .choosing _ pool _ _ =>
      some pool
  | _ => none

/-- The connections that a call has taken from the pool of its endpoint. -/
def OpenPc.taken : OpenPc → List Nat
  | .retaining _ _ kept rest => kept ++ rest
  | .choosing _ _ best rest => (best.map Prod.fst).toList ++ rest
  | .binding _ _ connection | .counting _ _ connection | .spawning _ _ connection
  | .acquired _ connection | .checking _ connection _ | .sending _ connection _
  | .awaiting _ connection _ => [connection]
  | _ => []

/-- The endpoint that a call connects to. -/
def OpenPc.endpoint : OpenPc → String
  | .pooling target | .poolLock target _ | .retaining target _ _ _ | .connecting target _
  | .choosing target _ _ _ | .binding target _ _ | .counting target _ _ | .spawning target _ _
  | .acquired target _ | .checking target _ _ | .sending target _ _ | .awaiting target _ _ =>
      target.endpoint
  | _ => ""

/-- `open` has returned an error. -/
def OpenPc.hasFailed : OpenPc → Bool
  | .failed _ => true
  | _ => false

/-- A move that uses no connection and no pool it has not used before, and does
not return an error. -/
structure KeepsTo (pc next : OpenPc) : Prop where
  bound : next.bound? = pc.bound?
  uses : (next.taken = [] ∧ next.pool? = none) ∨
    (next.endpoint = pc.endpoint ∧ (∀ connection ∈ next.taken, connection ∈ pc.taken) ∧
      (next.pool? = none ∨ next.pool? = pc.pool?))
  unfailed : next.hasFailed = false

/-- What one step of a call does to pools, bound sets and receivers. -/
inductive ResourceMove (before after : ClientInner) (session : SessionId) :
    OpenPc → OpenPc → Prop where
  | keeps {pc next} (same : SameResources before after) (keeps : KeepsTo pc next) :
      ResourceMove before after session pc next
  | pooled {target}
      (bindings : after.bindings = before.bindings) (receivers : after.receivers = before.receivers)
      (pools : after.pools = (before.pool target.endpoint).2.pools)
      (poolConnections : after.poolConnections = before.poolConnections)
      (nextPool : after.nextPool = (before.pool target.endpoint).2.nextPool)
      (nextConnection : after.nextConnection = before.nextConnection) :
      ResourceMove before after session (.pooling target)
        (.poolLock target (before.pool target.endpoint).1)
  | locked {target pool} (same : SameResources before after) :
      ResourceMove before after session (.poolLock target pool)
        (.retaining target pool [] (before.poolConnections pool))
  | retained {target pool kept next}
      (bindings : after.bindings = before.bindings) (receivers : after.receivers = before.receivers)
      (pools : after.pools = before.pools)
      (poolConnections : after.poolConnections =
        Function.update before.poolConnections pool kept)
      (nextPool : after.nextPool = before.nextPool)
      (nextConnection : after.nextConnection = before.nextConnection)
      (keeps : KeepsTo (.retaining target pool kept []) next) :
      ResourceMove before after session (.retaining target pool kept []) next
  | connected {target pool}
      (bindings : after.bindings = Function.update before.bindings before.nextConnection
        (some ⟨target.endpoint, [], false⟩))
      (receivers : after.receivers = before.receivers) (pools : after.pools = before.pools)
      (poolConnections : after.poolConnections = Function.update before.poolConnections pool
        (before.poolConnections pool ++ [before.nextConnection]))
      (nextPool : after.nextPool = before.nextPool)
      (nextConnection : after.nextConnection = before.nextConnection + 1) :
      ResourceMove before after session (.connecting target pool)
        (.binding target pool before.nextConnection)
  | rebound {target pool connection} (same : SameResources before after) :
      ResourceMove before after session (.binding target pool connection)
        (.spawning target pool connection)
  | bound {target pool connection}
      (bindings : after.bindings = Function.update before.bindings connection
        ((before.bindings connection).map fun binding =>
          { binding with sessions := binding.sessions ++ [session] }))
      (receivers : after.receivers = before.receivers) (pools : after.pools = before.pools)
      (poolConnections : after.poolConnections = before.poolConnections)
      (nextPool : after.nextPool = before.nextPool)
      (nextConnection : after.nextConnection = before.nextConnection) :
      ResourceMove before after session (.binding target pool connection)
        (.counting target pool connection)
  | unbinds {pc next connection} (bound : pc.bound? = some connection)
      (bindings : after.bindings = Function.update before.bindings connection
        ((before.bindings connection).map fun binding =>
          { binding with sessions := binding.sessions.filter (· != session) }))
      (receivers : after.receivers = before.receivers) (pools : after.pools = before.pools)
      (poolConnections : after.poolConnections = before.poolConnections)
      (nextPool : after.nextPool = before.nextPool)
      (nextConnection : after.nextConnection = before.nextConnection)
      (free : next.bound? = none) (idle : next.taken = [] ∧ next.pool? = none)
      (unfailed : next.hasFailed = false) : ResourceMove before after session pc next
  | unbound {pc next connection} (same : SameResources before after)
      (bound : pc.bound? = some connection) (unheld : before.isBound connection session = false)
      (free : next.bound? = none) (idle : next.taken = [] ∧ next.pool? = none)
      (unfailed : next.hasFailed = false) : ResourceMove before after session pc next
  | unregisters {pc next} (bindings : after.bindings = before.bindings)
      (receivers : after.receivers = before.receivers.filter (· != session))
      (pools : after.pools = before.pools)
      (poolConnections : after.poolConnections = before.poolConnections)
      (nextPool : after.nextPool = before.nextPool)
      (nextConnection : after.nextConnection = before.nextConnection)
      (leaving : (∃ error, pc = .unregistering error) ∨ ∃ connection, pc = .dropUnregistering connection)
      (bound : next.bound? = pc.bound?) (idle : next.taken = [] ∧ next.pool? = none)
      (returned : next.hasReturned = true) : ResourceMove before after session pc next
  | abandons {pc} (same : SameResources before after) (awaiting : pc.isAwaiting = true) :
      ResourceMove before after session pc .abandoned

/-! ## Sent opens -/

/-- The connection on which a call may have a `SessionOpen` without a
`SessionClose`. -/
def OpenPc.sentOn? : OpenPc → Option Nat
  | .awaiting _ connection _ | .closeChecking _ connection _ | .closeSending _ connection _
  | .opened connection | .dropUnregistering connection | .dropUnbinding connection
  | .dropUncounting connection | .dropChecking connection | .dropSending connection
  | .dropped connection => some connection
  | _ => none

/-- A call hands a `SessionClose` to a connection before it leaves it, unless the
connection is closed. -/
def Hands (before : ClientInner) (pc next : OpenPc) (entries : List OpenEntry) : Prop :=
  next = .abandoned ∨ ∀ connection, pc.sentOn? = some connection →
    next.sentOn? = some connection ∨ .closeHanded connection ∈ entries ∨
      before.isClosed connection = true

/-- What one step of a call does. -/
structure OpenEffect (config : ClientConfig) (before after : ClientInner) (session : SessionId)
    (call next : OpenCall) (event : OpenEvent) : Prop where
  calls : after.calls = Function.update before.calls session (some next)
  cache : after.placementCache = before.placementCache ∨ ∃ nodes ordered,
    event = .nodes nodes ordered ∧ after.placementCache = some (placementCandidates nodes)
  move : CallMove config before call next event (before.noted session call call.pc event)
  resources : ResourceMove before after session call.pc next.pc
  hands : Hands before call.pc next.pc (before.noted session call call.pc event)

variable {client middle after : ClientInner} {config : ClientConfig} {id : Nat}
  {session : SessionId} {call next : OpenCall} {event : OpenEvent} {pc : OpenPc}

theorem SameResources.refl (client : ClientInner) : SameResources client client :=
  ⟨rfl, rfl, rfl, rfl, rfl, rfl⟩

theorem hands_of_none (none' : pc.sentOn? = none) {onward : OpenPc} {entries : List OpenEntry} :
    Hands client pc onward entries := by
  refine .inr fun connection sent => ?_
  rw [none'] at sent
  cases sent

theorem hands_of_same {onward : OpenPc} {entries : List OpenEntry}
    (same : onward.sentOn? = pc.sentOn?) : Hands client pc onward entries :=
  .inr fun _ sent => .inl (same.trans sent)

theorem keepsTo_idle {onward : OpenPc} (bound : onward.bound? = pc.bound?)
    (taken : onward.taken = []) (pool : onward.pool? = none)
    (unfailed : onward.hasFailed = false) : KeepsTo pc onward :=
  ⟨bound, .inl ⟨taken, pool⟩, unfailed⟩

theorem unfailed_of_working (working : ¬ pc.hasReturned = true) : pc.hasFailed = false := by
  cases pc with
  | failed error => exact absurd rfl working
  | _ => rfl

namespace ClientInner

/-- A step that takes its call to another program point and leaves the resources
alone. -/
theorem moved_effect {onward : OpenPc} (same : SameResources client middle)
    (calls : middle.calls = client.calls)
    (cache : middle.placementCache = client.placementCache)
    (phase : PhaseMove config client call event call.pc.phase onward.phase
      (client.noted session call call.pc event))
    (keeps : KeepsTo call.pc onward)
    (hands : Hands client call.pc onward (client.noted session call call.pc event)) :
    OpenEffect config client (middle.setCall session (call.goto onward)) session call
      (call.goto onward) event where
  calls := by rw [setCall, calls]
  cache := .inl cache
  move := .kept ⟨rfl, rfl, rfl⟩ phase
  resources := .keeps ⟨same.bindings, same.receivers, same.pools, same.poolConnections,
    same.nextPool, same.nextConnection⟩ keeps
  hands := hands

theorem goto_effect {onward : OpenPc}
    (phase : PhaseMove config client call event call.pc.phase onward.phase
      (client.noted session call call.pc event))
    (keeps : KeepsTo call.pc onward)
    (hands : Hands client call.pc onward (client.noted session call call.pc event)) :
    OpenEffect config client (client.setCall session (call.goto onward)) session call
      (call.goto onward) event :=
  moved_effect (.refl client) rfl rfl phase keeps hands

theorem unacquired_effect {target : Target} (here : call.pc.phase = .acquiring target)
    (same : SameResources client middle) (calls : middle.calls = client.calls)
    (cache : middle.placementCache = client.placementCache)
    (noted : client.noted session call call.pc event = target.rollback ++ [.unconnected target])
    (free : call.pc.bound? = none) (unsent : call.pc.sentOn? = none) :
    OpenEffect config client (middle.setCall session (call.unacquired target)) session call
      (call.unacquired target) event where
  calls := by rw [setCall, calls]
  cache := .inl cache
  move := .unacquired target here rfl noted
  resources := by
    have retries : ∃ data : OpenCall, call.unacquired target = data.retry := by
      unfold OpenCall.unacquired
      split
      · exact ⟨_, rfl⟩
      · exact ⟨_, rfl⟩
    obtain ⟨data, retries⟩ := retries
    rw [retries]
    exact .keeps ⟨same.bindings, same.receivers, same.pools, same.poolConnections,
      same.nextPool, same.nextConnection⟩ (keepsTo_idle free.symm rfl rfl rfl)
  hands := hands_of_none unsent

theorem bindings_modify (change : TransportConnection → TransportConnection) :
    (client.modify id change).bindings = Function.update client.bindings id
      ((client.connections id).map fun connection => (change connection).binding) := by
  funext other
  by_cases same : other = id
  · subst same
    simp [bindings, modify, Function.comp_def]
  · simp [bindings, modify, Function.update_of_ne same]

theorem same_bindings {change : TransportConnection → TransportConnection}
    (same : ∀ connection, (change connection).binding = connection.binding) :
    SameResources client (client.modify id change) := by
  refine ⟨?_, rfl, rfl, rfl, rfl, rfl⟩
  rw [bindings_modify]
  refine (congrArg _ ?_).trans (Function.update_eq_self id client.bindings)
  exact congrArg (Option.map · (client.connections id)) (funext same)

theorem bindings_addSession :
    (client.addSession id session).bindings = Function.update client.bindings id
      ((client.bindings id).map fun binding =>
        { binding with sessions := binding.sessions ++ [session] }) := by
  rw [addSession, bindings_modify, bindings, Option.map_map]
  rfl

theorem bindings_removeSession :
    (client.removeSession id session).bindings = Function.update client.bindings id
      ((client.bindings id).map fun binding =>
        { binding with sessions := binding.sessions.filter (· != session) }) := by
  rw [removeSession, bindings_modify, bindings, Option.map_map]
  rfl

theorem bindings_connect (endpoint : String) (pool : Nat) :
    (client.connect endpoint pool).bindings =
      Function.update client.bindings client.nextConnection (some ⟨endpoint, [], false⟩) := by
  funext other
  by_cases same : other = client.nextConnection
  · subst same
    simp [bindings, connect, setPoolConnections, TransportConnection.binding]
  · simp [bindings, connect, setPoolConnections, Function.update_of_ne same]

theorem pool_keeps (endpoint : String) :
    (client.pool endpoint).2.bindings = client.bindings ∧
      (client.pool endpoint).2.receivers = client.receivers ∧
      (client.pool endpoint).2.poolConnections = client.poolConnections ∧
      (client.pool endpoint).2.nextConnection = client.nextConnection ∧
      (client.pool endpoint).2.calls = client.calls ∧
      (client.pool endpoint).2.placementCache = client.placementCache := by
  unfold pool
  split <;> exact ⟨rfl, rfl, rfl, rfl, rfl, rfl⟩

/-- A call looks up the pool of its endpoint. -/
theorem pooled_effect {target : Target} {data : OpenCall} :
    let here := data.goto (.pooling target)
    let there := here.goto (.poolLock target (client.pool target.endpoint).1)
    OpenEffect config client ((client.pool target.endpoint).2.setCall session there) session here
      there .advance := by
  obtain ⟨bindings, receivers, connections, nextConnection, calls, cache⟩ :=
    @pool_keeps client target.endpoint
  refine ⟨by rw [setCall, calls], .inl cache, .kept ⟨rfl, rfl, rfl⟩ .stays, ?_, hands_of_none rfl⟩
  exact .pooled bindings receivers rfl connections rfl nextConnection

theorem selected_of_ok {candidates : List PlacementCandidate} {excluded ordered : List String}
    {endpoint : String}
    (selected : selectPlacementCandidate candidates excluded ordered = .ok endpoint) :
    endpoint ∈ candidates.map PlacementCandidate.endpoint ∧ endpoint ∉ excluded := by
  unfold selectPlacementCandidate at selected
  simp only at selected
  split at selected
  · cases selected
  · split at selected
    · rename_i chosen found
      cases selected
      have valid := List.find?_some found
      obtain ⟨candidate, member, same⟩ := List.any_eq_true.mp valid
      obtain ⟨listed, untried⟩ := List.mem_filter.mp member
      rw [← eq_of_beq same]
      exact ⟨List.mem_map_of_mem listed, of_decide_eq_true untried⟩
    · cases selected

theorem better_cases (best : Option (Nat × UInt64)) (connection : Nat) (bound : UInt64) :
    better best connection bound = best ∨ ∃ least, better best connection bound =
      some (connection, least) := by
  unfold better
  split
  · split
    · exact .inr ⟨_, rfl⟩
    · exact .inl rfl
  · exact .inr ⟨_, rfl⟩

/-- A call goes on with the answer of `select_placement_candidate`. -/
theorem selected_effect {candidates : List PlacementCandidate} {ordered : List String}
    (here : call.pc = .listing) (same : SameResources client middle)
    (calls : middle.calls = client.calls)
    (cache : middle.placementCache = client.placementCache ∨ ∃ nodes ordered,
      event = .nodes nodes ordered ∧ middle.placementCache = some (placementCandidates nodes))
    (noted : client.noted session call call.pc event =
      [.listed candidates (selectPlacementCandidate candidates call.excluded ordered)])
    (source : (∃ nodes ordered, event = .nodes nodes ordered ∧
      candidates = placementCandidates nodes) ∨ client.placementCache = some candidates) :
    ∃ next, OpenEffect config client (middle.setCall session
      (call.selected (selectPlacementCandidate candidates call.excluded ordered))) session call
        next event := by
  cases answer : selectPlacementCandidate candidates call.excluded ordered with
  | ok endpoint =>
      rw [answer] at noted
      obtain ⟨listed, untried⟩ := selected_of_ok answer
      refine ⟨call.goto (.pooling ⟨endpoint, none⟩), by rw [setCall, calls]; rfl, cache,
        .kept ⟨rfl, rfl, rfl⟩ ?_, ?_, hands_of_none (by rw [here]; rfl)⟩
      · rw [noted, here]
        exact .selected listed untried source
      · exact .keeps ⟨same.bindings, same.receivers, same.pools, same.poolConnections,
          same.nextPool, same.nextConnection⟩ (keepsTo_idle (by rw [here]; rfl) rfl rfl rfl)
  | error error =>
      rw [answer] at noted
      refine ⟨call.goto (.failing (.ofSendError error)), by rw [setCall, calls]; rfl, cache,
        .kept ⟨rfl, rfl, rfl⟩ ?_, ?_, hands_of_none (by rw [here]; rfl)⟩
      · rw [noted, here]
        exact .unselected
      · exact .keeps ⟨same.bindings, same.receivers, same.pools, same.poolConnections,
          same.nextPool, same.nextConnection⟩ (keepsTo_idle (by rw [here]; rfl) rfl rfl rfl)

/-- A call goes on after its `resolve_owner`. -/
theorem resolved_effect {program resumed : OwnerProgram} (here : call.pc = .resolving program)
    (noted : client.noted session call call.pc event = notedResolution (some resumed)) :
    ∃ next, OpenEffect config client (client.setCall session (call.resolved resumed)) session call
      next event := by
  have goto : ∀ onward : OpenPc, onward.bound? = none → onward.taken = [] →
      onward.pool? = none → onward.hasFailed = false →
      PhaseMove config client call event .resolving onward.phase
        (client.noted session call call.pc event) →
      ∃ next, OpenEffect config client (client.setCall session (call.goto onward)) session call
        next event := by
    intro onward bound taken pool unfailed phase
    refine ⟨_, goto_effect ?_ (keepsTo_idle ?_ taken pool unfailed)
      (hands_of_none (by rw [here]; rfl))⟩
    · rw [here] at phase ⊢
      exact phase
    · rw [bound, here]
      rfl
  rcases resumed with (error | ⟨endpoint, nodeId, sessionId⟩ | _) | ⟨request, resume⟩
  · exact goto _ rfl rfl rfl rfl (by rw [noted]; exact .unresolved)
  · simp only [OpenCall.resolved]
    split
    · rename_i failed
      exact goto _ rfl rfl rfl rfl (by rw [noted]; exact .failedAgain failed)
    · rename_i unfailed
      exact goto _ rfl rfl rfl rfl (by rw [noted]; exact .live unfailed)
  · exact goto _ rfl rfl rfl rfl (by rw [noted]; exact .unowned)
  · exact goto _ rfl rfl rfl rfl (by rw [noted]; exact .stays)

theorem unacquired_pc (target : Target) :
    (call.unacquired target).pc = .resolving resolveOwner := by
  unfold OpenCall.unacquired
  split <;> rfl

/-- A call goes on after it has cleaned up a failed attempt. -/
theorem retracted_effect {target : Target} {error : SendError}
    (here : call.pc = .retracting target error)
    (noted : client.noted session call call.pc event =
      target.rollback ++ [.ended target error]) :
    ∃ next, OpenEffect config client ((client.setPending session none).setCall session
      (call.retracted config.maxOpenAttempts target error)) session call next event := by
  have phase : call.pc.phase = .cleaning target error := by
    rw [here]
    rfl
  have fails : ∀ failure, ∃ next, OpenEffect config client
      ((client.setPending session none).setCall session (call.goto (.failing failure))) session
        call next event := by
    intro failure
    refine ⟨_, moved_effect ⟨rfl, rfl, rfl, rfl, rfl, rfl⟩ rfl rfl ?_
      (keepsTo_idle (by rw [here]; rfl) rfl rfl rfl) (hands_of_none (by rw [here]; rfl))⟩
    rw [phase, noted]
    exact .lost
  have retries : error = .remoteUnavailable ∨
      (error = .runtimeAtCapacity ∧ target.isPlacement = true) →
      call.attempts < config.maxOpenAttempts →
      ∃ next, OpenEffect config client ((client.setPending session none).setCall session
        (call.unacquired target)) session call next event := by
    intro retries left
    refine ⟨_, rfl, .inl rfl, .retried target error phase retries left rfl noted, ?_,
      hands_of_none (by rw [here]; rfl)⟩
    rw [unacquired_pc]
    exact .keeps ⟨rfl, rfl, rfl, rfl, rfl, rfl⟩ (keepsTo_idle (by rw [here]; rfl) rfl rfl rfl)
  unfold OpenCall.retracted
  simp only [decide_eq_true_eq]
  split
  · split
    · exact fails _
    · rename_i left
      refine ⟨_, moved_effect ⟨rfl, rfl, rfl, rfl, rfl, rfl⟩ rfl rfl ?_
        (keepsTo_idle (by rw [here]; rfl) rfl rfl rfl) (hands_of_none (by rw [here]; rfl))⟩
      rw [phase, noted]
      exact .repeats (Nat.lt_of_not_le left)
  · split
    · rename_i placement
      split
      · exact fails _
      · rename_i left
        have again := retries (.inr ⟨rfl, placement⟩) (Nat.lt_of_not_le left)
        rwa [OpenCall.unacquired, if_pos placement] at again
    · exact fails _
  · split
    · exact fails _
    · rename_i left
      exact retries (.inl rfl) (Nat.lt_of_not_le left)
  · exact fails _

theorem isAwaiting_phase (awaiting : pc.isAwaiting = true) :
    pc.phase ≠ .opened ∧ pc.phase ≠ .failed := by
  cases pc <;> first
    | exact absurd awaiting Bool.false_ne_true
    | constructor <;> intro same <;> cases same

/-- The deadline and the drop of the future are not recorded. -/
theorem noted_quiet (quiet : event = .expire ∨ event = .abandon) :
    client.noted session call pc event = [] := by
  rcases quiet with rfl | rfl <;> cases pc with
  | choosing target pool best rest => cases best <;> cases rest <;> rfl
  | unbinding target connection next => cases next <;> rfl
  | uncounting target connection next => cases next <;> rfl
  | _ => rfl

/-- Every step of a call has one of the effects. -/
theorem openStep?_effects (here : call.pc = pc)
    (stepped : client.openStep? config session call pc event = some after) :
    ∃ next, OpenEffect config client after session call next event := by
  obtain ⟨address, current, attempts, excluded, failedLiveOwner, expired⟩ := call
  obtain rfl : current = pc := here
  obtain ⟨middle, next, step, rfl⟩ := openStep?_cases stepped
  cases step with
  | answered timely resumed => exact resolved_effect rfl (by simp only [noted, resumed])
  | listed nodes ordered =>
      exact selected_effect rfl ⟨rfl, rfl, rfl, rfl, rfl, rfl⟩ rfl
        (.inr ⟨nodes, ordered, rfl, rfl⟩) rfl (.inl ⟨nodes, ordered, rfl, rfl⟩)
  | cached kept =>
      exact selected_effect rfl (.refl client) rfl (.inl rfl) (by simp only [noted, kept]) (.inr kept)
  | unlisted | listingElapsed =>
      exact ⟨_, goto_effect .unlisted (keepsTo_idle rfl rfl rfl rfl) (hands_of_none rfl)⟩
  | @pooled target =>
      exact ⟨_, @pooled_effect client config session target
        ⟨address, .pooling target, attempts, excluded, failedLiveOwner, expired⟩⟩
  | locked =>
      exact ⟨_, rfl, .inl rfl, .kept ⟨rfl, rfl, rfl⟩ .stays,
        .locked ⟨rfl, rfl, rfl, rfl, rfl, rfl⟩, hands_of_none rfl⟩
  | lockElapsed => exact ⟨_, unacquired_effect rfl (.refl client) rfl rfl rfl rfl rfl⟩
  | sieved =>
      refine ⟨_, goto_effect .stays ⟨rfl, .inr ⟨rfl, ?_, .inr rfl⟩, rfl⟩ (hands_of_none rfl)⟩
      intro other member
      simp only [OpenPc.taken, List.mem_append, List.mem_cons] at member ⊢
      rcases member with early | late
      · split at early
        · exact .inl early
        · rcases List.mem_append.mp early with old | new
          · exact .inl old
          · exact .inr (.inl (List.mem_singleton.mp new))
      · exact .inr (.inr late)
  | few =>
      exact ⟨_, rfl, .inl rfl, .kept ⟨rfl, rfl, rfl⟩ .stays, .retained rfl rfl rfl rfl rfl rfl
        ⟨rfl, .inr ⟨rfl, (by rintro other ⟨⟩), .inr rfl⟩, rfl⟩, hands_of_none rfl⟩
  | full =>
      refine ⟨_, rfl, .inl rfl, .kept ⟨rfl, rfl, rfl⟩ .stays, .retained rfl rfl rfl rfl rfl rfl
        ⟨rfl, .inr ⟨rfl, fun other member => ?_, .inr rfl⟩, rfl⟩, hands_of_none rfl⟩
      simpa [OpenCall.goto, OpenPc.taken] using member
  | @connected target pool =>
      exact ⟨_, rfl, .inl rfl, .kept ⟨rfl, rfl, rfl⟩ .stays,
        .connected (bindings_connect target.endpoint pool) rfl rfl rfl rfl rfl, hands_of_none rfl⟩
  | refused | connectElapsed | choiceless =>
      exact ⟨_, unacquired_effect rfl ⟨rfl, rfl, rfl, rfl, rfl, rfl⟩ rfl rfl rfl rfl rfl⟩
  | @weighed target pool best connection rest =>
      refine ⟨_, goto_effect ?_ ⟨rfl, .inr ⟨rfl, ?_, .inr rfl⟩, rfl⟩ (hands_of_none rfl)⟩
      · cases best <;> exact .stays
      intro other member
      simp only [OpenPc.taken, List.mem_append, List.mem_cons] at member ⊢
      rcases member with least | left
      · rcases better_cases best connection (client.boundSessions connection) with
          same | ⟨bound, same⟩
        · rw [same] at least
          exact .inl least
        · rw [same] at least
          exact .inr (.inl (by simpa using least))
      · exact .inr (.inr left)
  | chosen =>
      refine ⟨_, goto_effect .stays ⟨rfl, .inr ⟨rfl, ?_, .inl rfl⟩, rfl⟩ (hands_of_none rfl)⟩
      exact fun other member => member
  | rebound =>
      exact ⟨_, rfl, .inl rfl, .kept ⟨rfl, rfl, rfl⟩ .stays,
        .rebound ⟨rfl, rfl, rfl, rfl, rfl, rfl⟩, hands_of_none rfl⟩
  | bound =>
      exact ⟨_, rfl, .inl rfl, .kept ⟨rfl, rfl, rfl⟩ .stays,
        .bound bindings_addSession rfl rfl rfl rfl rfl, hands_of_none rfl⟩
  | counted =>
      exact ⟨_, moved_effect (same_bindings fun _ => rfl) rfl rfl .stays
        ⟨rfl, .inr ⟨rfl, fun _ => id, .inl rfl⟩, rfl⟩ (hands_of_none rfl)⟩
  | @spawned target pool connection =>
      refine ⟨_, moved_effect ?_ rfl rfl .stays ⟨rfl, .inr ⟨rfl, fun _ => id, .inl rfl⟩, rfl⟩
        (hands_of_none rfl)⟩
      have same := @same_bindings client connection
        (fun connection => if connection.loop = .unspawned then
          { connection with loop := .receiving, registered := true } else connection)
        fun found => by split <;> rfl
      exact ⟨same.bindings, rfl, rfl, rfl, rfl, rfl⟩
  | exhausted spent =>
      exact ⟨_, goto_effect (.exhausts spent) (keepsTo_idle rfl rfl rfl rfl) (hands_of_none rfl)⟩
  | attempted left =>
      exact ⟨_, rfl, .inl rfl, .kept ⟨rfl, rfl, rfl⟩ (.attempts left),
        .keeps ⟨rfl, rfl, rfl, rfl, rfl, rfl⟩ ⟨rfl, .inr ⟨rfl, fun _ => id, .inl rfl⟩, rfl⟩,
        hands_of_none rfl⟩
  | checkedLost =>
      exact ⟨_, goto_effect .unsent (keepsTo_idle rfl rfl rfl rfl) (hands_of_none rfl)⟩
  | checked =>
      exact ⟨_, goto_effect .stays ⟨rfl, .inr ⟨rfl, fun _ => id, .inl rfl⟩, rfl⟩ (hands_of_none rfl)⟩
  | @sent target connection ticket found sender present accepted =>
      have same := @same_bindings client connection
        (fun connection => { connection with sender := sender }) fun _ => rfl
      refine ⟨_, rfl, .inl rfl, .sent target connection ticket found rfl rfl present rfl rfl rfl
        (by simp only [noted, present, accepted]), ?_, hands_of_none rfl⟩
      exact .keeps ⟨same.bindings, rfl, rfl, rfl, rfl, rfl⟩
        ⟨rfl, .inr ⟨rfl, fun _ => id, .inl rfl⟩, rfl⟩
  | unsent present refused =>
      refine ⟨_, goto_effect ?_ (keepsTo_idle rfl rfl rfl rfl) (hands_of_none rfl)⟩
      simp only [noted, present, refused]
      exact .unsent
  | opened => exact ⟨_, goto_effect .opened (keepsTo_idle rfl rfl rfl rfl) (hands_of_same rfl)⟩
  | failed | unanswered | awaitElapsed =>
      exact ⟨_, goto_effect .answered (keepsTo_idle rfl rfl rfl rfl) (hands_of_same rfl)⟩
  | closeSkipped closed =>
      refine ⟨_, goto_effect .stays (keepsTo_idle rfl rfl rfl rfl) (.inr ?_)⟩
      rintro other ⟨⟩
      exact .inr (.inr closed)
  | closeChecked =>
      exact ⟨_, goto_effect .stays (keepsTo_idle rfl rfl rfl rfl) (hands_of_same rfl)⟩
  | @closeSent target connection error =>
      have same := @same_bindings client connection (fun found => { found with
        sender := found.sender.offer ⟨none, envelopeSessionClose address session⟩ }) fun _ => rfl
      refine ⟨_, moved_effect same rfl rfl (.closed connection) (keepsTo_idle rfl rfl rfl rfl)
        (.inr ?_)⟩
      rintro other ⟨⟩
      exact .inr (.inl List.mem_cons_self)
  | @unbound target connection next held =>
      refine ⟨_, rfl, .inl rfl, .kept ⟨rfl, rfl, rfl⟩ ?_, .unbinds rfl bindings_removeSession rfl
        rfl rfl rfl rfl rfl ⟨rfl, rfl⟩ rfl, hands_of_none rfl⟩
      cases next with
      | exhausted =>
          simp only [noted, held, if_true]
          exact .stays
      | retract error => exact .stays
  | @unheld target connection next free =>
      cases next with
      | exhausted =>
          refine ⟨_, rfl, .inl rfl, .kept ⟨rfl, rfl, rfl⟩ ?_,
            .unbound ⟨rfl, rfl, rfl, rfl, rfl, rfl⟩ rfl free rfl ⟨rfl, rfl⟩ rfl, hands_of_none rfl⟩
          simp only [noted, free]
          exact .gaveUp
      | retract error =>
          exact ⟨_, rfl, .inl rfl, .kept ⟨rfl, rfl, rfl⟩ .stays,
            .unbound ⟨rfl, rfl, rfl, rfl, rfl, rfl⟩ rfl free rfl ⟨rfl, rfl⟩ rfl, hands_of_none rfl⟩
  | @uncounted target connection next =>
      have same := @same_bindings client connection
        (fun found => { found with boundSessions := found.boundSessions - 1 }) fun _ => rfl
      cases next with
      | exhausted =>
          exact ⟨_, moved_effect same rfl rfl .gaveUp (keepsTo_idle rfl rfl rfl rfl)
            (hands_of_none rfl)⟩
      | retract error =>
          exact ⟨_, moved_effect same rfl rfl .stays (keepsTo_idle rfl rfl rfl rfl)
            (hands_of_none rfl)⟩
  | retracted => exact retracted_effect rfl rfl
  | cleared =>
      exact ⟨_, moved_effect ⟨rfl, rfl, rfl, rfl, rfl, rfl⟩ rfl rfl .stays
        (keepsTo_idle rfl rfl rfl rfl) (hands_of_none rfl)⟩
  | @unregistered error =>
      exact ⟨_, rfl, .inl rfl, .kept ⟨rfl, rfl, rfl⟩ .failed, .unregisters rfl rfl rfl rfl rfl rfl
        (.inl ⟨error, rfl⟩) rfl ⟨rfl, rfl⟩ rfl, hands_of_none rfl⟩
  | drops | dropChecked =>
      exact ⟨_, goto_effect .stays (keepsTo_idle rfl rfl rfl rfl) (hands_of_same rfl)⟩
  | @dropUnregistered connection =>
      exact ⟨_, rfl, .inl rfl, .kept ⟨rfl, rfl, rfl⟩ .stays, .unregisters rfl rfl rfl rfl rfl rfl
        (.inr ⟨connection, rfl⟩) rfl ⟨rfl, rfl⟩ rfl, hands_of_same rfl⟩
  | dropUnbound =>
      exact ⟨_, rfl, .inl rfl, .kept ⟨rfl, rfl, rfl⟩ .stays, .unbinds rfl bindings_removeSession rfl
        rfl rfl rfl rfl rfl ⟨rfl, rfl⟩ rfl, hands_of_same rfl⟩
  | dropUnheld unheld =>
      exact ⟨_, rfl, .inl rfl, .kept ⟨rfl, rfl, rfl⟩ .stays,
        .unbound ⟨rfl, rfl, rfl, rfl, rfl, rfl⟩ rfl unheld rfl ⟨rfl, rfl⟩ rfl, hands_of_same rfl⟩
  | @dropUncounted connection =>
      have same := @same_bindings client connection
        (fun found => { found with boundSessions := found.boundSessions - 1 }) fun _ => rfl
      exact ⟨_, moved_effect same rfl rfl .stays (keepsTo_idle rfl rfl rfl rfl) (hands_of_same rfl)⟩
  | dropSkipped =>
      exact ⟨_, moved_effect ⟨rfl, rfl, rfl, rfl, rfl, rfl⟩ rfl rfl .stays
        (keepsTo_idle rfl rfl rfl rfl) (hands_of_same rfl)⟩
  | @dropSent connection =>
      have same := @same_bindings client connection (fun found => { found with
        sender := found.sender.offer ⟨none, envelopeSessionClose address session⟩ }) fun _ => rfl
      exact ⟨_, moved_effect ⟨same.bindings, rfl, rfl, rfl, rfl, rfl⟩ rfl rfl .stays
        (keepsTo_idle rfl rfl rfl rfl) (hands_of_same rfl)⟩
  | expires working =>
      refine ⟨_, rfl, .inl rfl, .kept ⟨rfl, rfl, rfl⟩ ?_,
        .keeps ⟨rfl, rfl, rfl, rfl, rfl, rfl⟩
          ⟨rfl, .inr ⟨rfl, fun _ => id, .inr rfl⟩, unfailed_of_working (by simp [working])⟩,
        hands_of_same rfl⟩
      rw [noted_quiet (.inl rfl)]
      exact .stays
  | abandoned awaiting =>
      refine ⟨_, rfl, .inl rfl, .kept ⟨rfl, rfl, rfl⟩ ?_,
        .abandons ⟨rfl, rfl, rfl, rfl, rfl, rfl⟩ awaiting, .inl rfl⟩
      rw [noted_quiet (.inr rfl)]
      exact .abandoned (isAwaiting_phase awaiting)
  | abandonedConnect =>
      refine ⟨_, rfl, .inl rfl, .kept ⟨rfl, rfl, rfl⟩ ?_,
        .abandons ⟨rfl, rfl, rfl, rfl, rfl, rfl⟩ rfl, .inl rfl⟩
      exact .abandoned (isAwaiting_phase rfl)

end ClientInner

end Coactor.Client
