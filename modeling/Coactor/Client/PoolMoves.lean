import Coactor.Client.Cases

/-!
# Steps on the connection pools

The pools of a Client with their locks, the bound sets of their connections and
the counters beside them, and where the calls of `open` stand.  Every step of a
call is one of a few steps on these, and so is every step of a receive loop.
-/

namespace Coactor.Client

open Coactor.Coordination
open Coactor.Foundation
open Coactor.Runtime

/-! ## What the pools see -/

/-- The receive loop has marked its connection closed and still has to clean up. -/
def LoopPc.hasDeparted : LoopPc → Bool
  | .unpooling | .poolLock _ | .draining | .zeroing _ | .ending _ | .failing _ _
  | .terminating _ _ => true
  | _ => false

/-- A connection without its traffic. -/
structure Account where
  endpoint : String
  sessions : List SessionId
  boundSessions : UInt64
  closed : Bool
  departed : Bool

def TransportConnection.account (connection : TransportConnection) : Account :=
  ⟨connection.endpoint, connection.sessions, connection.boundSessions, connection.closed,
    connection.loop.hasDeparted⟩

/-- The pools of a Client, their connections, and the calls that use them. -/
structure PoolView where
  accounts : Nat → Option Account
  pools : List (String × Nat)
  holders : Nat → Bool
  members : Nat → List Nat
  nextPool : Nat
  nextConnection : Nat
  pcs : SessionId → Option OpenPc

def ClientInner.poolView (client : ClientInner) : PoolView where
  accounts id := (client.connections id).map TransportConnection.account
  pools := client.pools
  holders := client.poolHolders
  members := client.poolConnections
  nextPool := client.nextPool
  nextConnection := client.nextConnection
  pcs session := (client.calls session).map OpenCall.pc

namespace PoolView

variable (view : PoolView)

def isClosed (id : Nat) : Bool := (view.accounts id).all Account.closed

def isBound (id : Nat) (session : SessionId) : Bool :=
  (view.accounts id).any fun account => decide (session ∈ account.sessions)

def boundSessions (id : Nat) : UInt64 := (view.accounts id).elim 0 Account.boundSessions

def adjust (id : Nat) (change : Account → Account) : PoolView :=
  { view with accounts := Function.update view.accounts id ((view.accounts id).map change) }

def setHolder (pool : Nat) (held : Bool) : PoolView :=
  { view with holders := Function.update view.holders pool held }

def setMembers (pool : Nat) (members : List Nat) : PoolView :=
  { view with members := Function.update view.members pool members }

def setPc (session : SessionId) (pc : OpenPc) : PoolView :=
  { view with pcs := Function.update view.pcs session (some pc) }

/-- The pool of an endpoint, with a new one if there is none. -/
def pool (endpoint : String) : Nat × PoolView :=
  match view.pools.lookup endpoint with
  | some pool => (pool, view)
  | none => (view.nextPool, { view with
      pools := view.pools ++ [(endpoint, view.nextPool)]
      nextPool := view.nextPool + 1 })

/-- A connection just established, pushed into its pool. -/
def connect (endpoint : String) (pool : Nat) : PoolView :=
  { view with
    accounts := Function.update view.accounts view.nextConnection
      (some ⟨endpoint, [], 0, false, false⟩)
    nextConnection := view.nextConnection + 1 }.setMembers pool
      (view.members pool ++ [view.nextConnection])

/-- The pool that a connection belongs into. -/
def home (id : Nat) : Option Nat :=
  (view.accounts id).bind fun account => view.pools.lookup account.endpoint

end PoolView

/-! ## Where a call stands -/

namespace OpenPc

/-- The pool whose lock a call holds. -/
def holds? : OpenPc → Option Nat
  | .retaining _ pool _ _ | .connecting _ pool | .choosing _ pool _ _ | .binding _ pool _
  | .counting _ pool _ | .spawning _ pool _ => some pool
  | _ => none

/-- The endpoint of a call in `acquire_connection`, with the pool it has looked up. -/
def lookedUp? : OpenPc → Option (String × Nat)
  | .poolLock target pool | .retaining target pool _ _ | .connecting target pool
  | .choosing target pool _ _ | .binding target pool _ | .counting target pool _
  | .spawning target pool _ => some (target.endpoint, pool)
  | _ => none

/-- The connection that a call is about to return from `acquire_connection`. -/
def returns? : OpenPc → Option Nat
  | .binding _ _ connection | .counting _ _ connection | .spawning _ _ connection =>
      some connection
  | _ => none

/-- The connection whose counter a call still has to raise. -/
def raises? : OpenPc → Option Nat
  | .counting _ _ connection => some connection
  | _ => none

/-- The connection whose counter a call still has to lower. -/
def lowers? : OpenPc → Option Nat
  | .uncounting _ connection _ | .dropUncounting connection => some connection
  | _ => none

/-- The connection from whose bound set a call is about to take its Session. -/
def unbinds? : OpenPc → Option Nat
  | .unbinding _ connection _ | .dropUnbinding connection => some connection
  | _ => none

/-- A call neither in `acquire_connection` nor between the two steps of `unbind`. -/
def isApart (pc : OpenPc) : Bool := pc.lookedUp?.isNone && pc.lowers?.isNone

/-- `acquire_connection` may have returned a connection to a call that has not
left it again. -/
def hasAcquired : OpenPc → Bool
  | .acquired _ _ | .checking _ _ _ | .sending _ _ _ | .awaiting _ _ _ | .closeChecking _ _ _
  | .closeSending _ _ _ | .unbinding _ _ _ | .abandoned | .opened _ | .dropUnregistering _
  | .dropUnbinding _ => true
  | _ => false

theorem holds?_eq_none {pc : OpenPc} (apart : pc.lookedUp? = none) : pc.holds? = none := by
  cases pc with
  | retaining | connecting | choosing | binding | counting | spawning => cases apart
  | _ => rfl

theorem raises?_eq_none {pc : OpenPc} (apart : pc.lookedUp? = none) : pc.raises? = none := by
  cases pc with
  | counting => cases apart
  | _ => rfl

theorem isApart_iff {pc : OpenPc} :
    pc.isApart = true ↔ pc.lookedUp? = none ∧ pc.lowers? = none := by
  rw [isApart, Bool.and_eq_true, Option.isNone_iff_eq_none, Option.isNone_iff_eq_none]

theorem lookedUp?_eq_none {pc : OpenPc} {connection : Nat} (lowers : pc.lowers? = some connection) :
    pc.lookedUp? = none := by
  cases pc with
  | uncounting | dropUncounting => rfl
  | _ => cases lowers

theorem isApart_of_unbinds {pc : OpenPc} {connection : Nat}
    (unbinds : pc.unbinds? = some connection) : pc.isApart = true := by
  cases pc with
  | unbinding | dropUnbinding => rfl
  | _ => cases unbinds

end OpenPc

/-! ## Steps -/

/-- What one step of a call does to the pools. -/
inductive PoolStep (config : ClientConfig) (view : PoolView) (session : SessionId)
    (event : OpenEvent) : OpenPc → OpenPc → PoolView → Prop where
  | stays {pc : OpenPc} : PoolStep config view session event pc pc view
  | apart {pc next : OpenPc} (unheld : pc.holds? = none) (level : pc.lowers? = none)
      (there : next.isApart = true)
      (keeps : pc.hasAcquired = true → (event = .advance → pc.unbinds? = none) →
        next.hasAcquired = true) :
      PoolStep config view session event pc next view
  | enters {target : Target} : PoolStep config view session event (.pooling target)
      (.poolLock target (view.pool target.endpoint).1) (view.pool target.endpoint).2
  | locks {target : Target} {pool : Nat} (free : view.holders pool = false) :
      PoolStep config view session event (.poolLock target pool)
        (.retaining target pool [] (view.members pool)) (view.setHolder pool true)
  | sieves {target : Target} {pool connection : Nat} {kept rest : List Nat} :
      PoolStep config view session event (.retaining target pool kept (connection :: rest))
        (.retaining target pool (if view.isClosed connection then kept else kept ++ [connection])
          rest) view
  | few {target : Target} {pool : Nat} {kept : List Nat}
      (few : kept.length < config.maxConnectionsPerEndpoint) :
      PoolStep config view session event (.retaining target pool kept []) (.connecting target pool)
        (view.setMembers pool kept)
  | full {target : Target} {pool : Nat} {kept : List Nat}
      (full : config.maxConnectionsPerEndpoint ≤ kept.length) :
      PoolStep config view session event (.retaining target pool kept [])
        (.choosing target pool none kept) (view.setMembers pool kept)
  | connects {target : Target} {pool : Nat} :
      PoolStep config view session event (.connecting target pool)
        (.binding target pool view.nextConnection) (view.connect target.endpoint pool)
  | releases {pc next : OpenPc} {pool : Nat} (held : pc.holds? = some pool)
      (there : next.isApart = true) (unbound : pc.returns? = none) :
      PoolStep config view session event pc next (view.setHolder pool false)
  | weighs {target : Target} {pool connection : Nat} {best : Option (Nat × UInt64)}
      {rest : List Nat} :
      PoolStep config view session event (.choosing target pool best (connection :: rest))
        (.choosing target pool (better best connection (view.boundSessions connection)) rest) view
  | chooses {target : Target} {pool connection : Nat} {least : UInt64} :
      PoolStep config view session event (.choosing target pool (some (connection, least)) [])
        (.binding target pool connection) view
  | finds {target : Target} {pool connection : Nat}
      (bound : view.isBound connection session = true) :
      PoolStep config view session event (.binding target pool connection)
        (.spawning target pool connection) view
  | binds {target : Target} {pool connection : Nat}
      (unbound : view.isBound connection session = false) :
      PoolStep config view session event (.binding target pool connection)
        (.counting target pool connection) (view.adjust connection fun account =>
          { account with sessions := account.sessions ++ [session] })
  | counts {target : Target} {pool connection : Nat} :
      PoolStep config view session event (.counting target pool connection)
        (.spawning target pool connection) (view.adjust connection fun account =>
          { account with boundSessions := account.boundSessions + 1 })
  | returns {target : Target} {pool connection : Nat} :
      PoolStep config view session event (.spawning target pool connection)
        (.acquired target connection) (view.setHolder pool false)
  | unbinds {pc next : OpenPc} {connection : Nat} (here : pc.unbinds? = some connection)
      (there : next.lowers? = some connection) (bound : view.isBound connection session = true)
      (advance : event = .advance) :
      PoolStep config view session event pc next (view.adjust connection fun account =>
        { account with sessions := account.sessions.filter (· != session) })
  | lowers {pc next : OpenPc} {connection : Nat} (here : pc.lowers? = some connection)
      (there : next.isApart = true) :
      PoolStep config view session event pc next (view.adjust connection fun account =>
        { account with boundSessions := account.boundSessions - 1 })

/-- The receive loop of a connection is about to mark it closed. -/
def ClientInner.isLosing (client : ClientInner) (id : Nat) : Bool :=
  (client.connections id).any fun connection => decide (connection.loop = .closing)

/-- What one step of a Client does to the pools. -/
inductive PoolMove (config : ClientConfig) (client : ClientInner) : ClientEvent → PoolView → Prop where
  | quiet {event : ClientEvent}
      (outside : ∀ session openEvent, event ≠ .call session openEvent) :
      PoolMove config client event client.poolView
  | begins {session : SessionId} {address : ActorAddress}
      (unknown : client.poolView.pcs session = none) :
      PoolMove config client (.begin session address)
        (client.poolView.setPc session (.resolving resolveOwner))
  | call {session : SessionId} {event : OpenEvent} {pc next : OpenPc} {after : PoolView}
      (here : client.poolView.pcs session = some pc)
      (step : PoolStep config client.poolView session event pc next after) :
      PoolMove config client (.call session event) (after.setPc session next)
  | closes {id : Nat} {event : LoopEvent} (losing : client.isLosing id = true) :
      PoolMove config client (.loop id event) (client.poolView.adjust id fun account =>
        { account with closed := true, departed := true })
  | departs {id : Nat} {event : LoopEvent} {account : Account}
      (found : client.poolView.accounts id = some account) (departed : account.departed = true)
      {change : Account → Account} (endpoint : (change account).endpoint = account.endpoint)
      (closed : (change account).closed = account.closed) :
      PoolMove config client (.loop id event) (client.poolView.adjust id change)
  | removes {id pool : Nat} {event : LoopEvent} {account : Account}
      (found : client.poolView.accounts id = some account) (departed : account.departed = true)
      (free : client.poolHolders pool = false) :
      PoolMove config client (.loop id event) (client.poolView.setMembers pool
        ((client.poolView.members pool).filter (· != id)))

namespace ClientInner

variable {client middle after : ClientInner} {config : ClientConfig} {id : Nat}
  {session : SessionId} {call : OpenCall} {event : OpenEvent} {pc onward : OpenPc}

/-! ## A Client and its pools -/

theorem poolView_modify {change : TransportConnection → TransportConnection}
    {adjusts : Account → Account}
    (same : ∀ connection, (change connection).account = adjusts connection.account) :
    (client.modify id change).poolView = client.poolView.adjust id adjusts := by
  have accounts : (client.modify id change).poolView.accounts =
      (client.poolView.adjust id adjusts).accounts := by
    funext other
    by_cases own : other = id
    · subst own
      simp [poolView, modify, PoolView.adjust, Function.comp_def, same]
    · simp [poolView, modify, PoolView.adjust, Function.update_of_ne own]
  exact congrArg (fun accounts => { client.poolView with accounts := accounts }) accounts

theorem poolView_same {change : TransportConnection → TransportConnection}
    (same : ∀ connection, (change connection).account = connection.account) :
    (client.modify id change).poolView = client.poolView := by
  rw [@poolView_modify _ _ _ (fun account => account) same, PoolView.adjust, Option.map_id',
    Function.update_eq_self]

theorem poolView_setCall :
    (client.setCall session call).poolView = client.poolView.setPc session call.pc := by
  have pcs : (client.setCall session call).poolView.pcs =
      (client.poolView.setPc session call.pc).pcs := by
    funext other
    by_cases own : other = session
    · subst own
      simp [poolView, setCall, PoolView.setPc]
    · simp [poolView, setCall, PoolView.setPc, Function.update_of_ne own]
  exact congrArg (fun pcs => { client.poolView with pcs := pcs }) pcs

theorem poolView_pool (endpoint : String) :
    (client.pool endpoint).1 = (client.poolView.pool endpoint).1 ∧
      (client.pool endpoint).2.poolView = (client.poolView.pool endpoint).2 := by
  unfold pool PoolView.pool
  have pools : client.poolView.pools = client.pools := rfl
  rw [pools]
  cases client.pools.lookup endpoint with
  | none => exact ⟨rfl, rfl⟩
  | some pool => exact ⟨rfl, rfl⟩

theorem poolView_connect (endpoint : String) (pool : Nat) :
    (client.connect endpoint pool).poolView = client.poolView.connect endpoint pool := by
  have accounts : (client.connect endpoint pool).poolView.accounts =
      (client.poolView.connect endpoint pool).accounts := by
    funext other
    by_cases own : other = client.nextConnection
    · subst own
      simp [poolView, connect, PoolView.connect, PoolView.setMembers, setPoolConnections,
        TransportConnection.account, LoopPc.hasDeparted]
    · simp [poolView, connect, PoolView.connect, PoolView.setMembers, setPoolConnections,
        Function.update_of_ne own]
  exact congrArg (fun accounts =>
    { client.poolView.connect endpoint pool with accounts := accounts }) accounts

theorem poolView_isClosed : client.poolView.isClosed id = client.isClosed id := by
  simp only [PoolView.isClosed, isClosed, poolView]
  cases client.connections id <;> rfl

theorem poolView_isBound : client.poolView.isBound id session = client.isBound id session := by
  simp only [PoolView.isBound, isBound, poolView]
  cases client.connections id <;> rfl

theorem poolView_boundSessions :
    client.poolView.boundSessions id = client.boundSessions id := by
  simp only [PoolView.boundSessions, boundSessions, poolView]
  cases client.connections id <;> rfl

/-! ## Steps of a call -/

/-- A step that takes its call to another program point. -/
theorem goto_pools {view : PoolView} (same : middle.poolView = view)
    (step : PoolStep config client.poolView session event pc call.pc view) :
    ∃ next result, PoolStep config client.poolView session event pc next result ∧
      (middle.setCall session call).poolView = result.setPc session next := by
  refine ⟨_, _, step, ?_⟩
  rw [poolView_setCall, same]

theorem resolved_isApart (program : OwnerProgram) : (call.resolved program).pc.isApart = true := by
  unfold OpenCall.resolved
  split
  · split <;> rfl
  all_goals rfl

theorem selected_isApart (answer : Except SendError String) :
    (call.selected answer).pc.isApart = true := by
  cases answer <;> rfl

theorem unacquired_isApart (target : Target) : (call.unacquired target).pc.isApart = true := by
  unfold OpenCall.unacquired
  split <;> rfl

theorem retracted_isApart (attempts : Nat) (target : Target) (error : SendError) :
    (call.retracted attempts target error).pc.isApart = true := by
  unfold OpenCall.retracted
  simp only
  split
  · split <;> rfl
  · split
    · split <;> rfl
    · rfl
  · split
    · rfl
    · exact unacquired_isApart target
  · rfl

theorem onward_isApart (target : Target) (next : AfterUnbind) :
    (next.onward target).isApart = true := by
  cases next <;> rfl

/-- Every step of a call is one of the steps on the pools. -/
theorem openStep?_pools (here : call.pc = pc)
    (stepped : client.openStep? config session call pc event = some after) :
    ∃ next result, PoolStep config client.poolView session event pc next result ∧
      after.poolView = result.setPc session next := by
  have moves : ∀ {middle : ClientInner} {next : OpenCall}, middle.poolView = client.poolView →
      pc.holds? = none → pc.lowers? = none → next.pc.isApart = true →
      (pc.hasAcquired = true → (event = .advance → pc.unbinds? = none) →
        next.pc.hasAcquired = true) →
      ∃ onward result, PoolStep config client.poolView session event pc onward result ∧
        (middle.setCall session next).poolView = result.setPc session onward := by
    intro middle next same unheld level there keeps
    exact goto_pools same (.apart unheld level there keeps)
  have frees : ∀ {pool : Nat} {next : OpenCall}, pc.holds? = some pool → pc.returns? = none →
      next.pc.isApart = true →
      ∃ onward result, PoolStep config client.poolView session event pc onward result ∧
        ((client.setPoolHolder pool false).setCall session next).poolView =
          result.setPc session onward := by
    intro pool next held unbound there
    exact goto_pools rfl (.releases held there unbound)
  obtain ⟨address, current, attempts, excluded, failedLiveOwner, expired⟩ := call
  obtain rfl : current = pc := here
  obtain ⟨middle, next, step, rfl⟩ := openStep?_cases stepped
  cases step with
  | answered => exact moves rfl rfl rfl (resolved_isApart _) (by rintro ⟨⟩)
  | listed nodes ordered =>
      exact @moves { client with placementCache := some (placementCandidates nodes) } _ rfl rfl rfl
        (selected_isApart _) (by rintro ⟨⟩)
  | cached => exact moves rfl rfl rfl (selected_isApart _) (by rintro ⟨⟩)
  | unlisted | listingElapsed => exact moves rfl rfl rfl rfl (by rintro ⟨⟩)
  | @pooled target =>
      obtain ⟨same, view⟩ := @poolView_pool client target.endpoint
      have step : PoolStep config client.poolView session .advance (.pooling target)
          (.poolLock target (client.pool target.endpoint).1)
          (client.poolView.pool target.endpoint).2 := by
        rw [same]
        exact .enters
      exact @goto_pools client _ config session ⟨address, .poolLock target
        (client.pool target.endpoint).1, attempts, excluded, failedLiveOwner, expired⟩ .advance
          (.pooling target) _ view step
  | locked free => exact goto_pools rfl (.locks free)
  | lockElapsed => exact moves rfl rfl rfl (unacquired_isApart _) (by rintro ⟨⟩)
  | sieved =>
      rw [← poolView_isClosed]
      exact goto_pools rfl .sieves
  | few room => exact goto_pools rfl (.few room)
  | full crowded => exact goto_pools rfl (.full crowded)
  | @connected target pool => exact goto_pools (poolView_connect target.endpoint pool) .connects
  | refused | connectElapsed | choiceless => exact frees rfl rfl (unacquired_isApart _)
  | weighed =>
      rw [← poolView_boundSessions]
      exact goto_pools rfl .weighs
  | chosen => exact goto_pools rfl .chooses
  | rebound bound => exact goto_pools rfl (.finds (poolView_isBound.trans bound))
  | bound unbound =>
      exact goto_pools (poolView_modify fun _ => rfl) (.binds (poolView_isBound.trans unbound))
  | counted => exact goto_pools (poolView_modify fun _ => rfl) .counts
  | @spawned target pool connection =>
      have same : (client.spawnReceiveLoop connection).poolView = client.poolView := by
        refine poolView_same fun found => ?_
        split
        · rename_i unspawned
          simp only [TransportConnection.account, unspawned]
          rfl
        · rfl
      exact goto_pools (congrArg (PoolView.setHolder · pool false) same) .returns
  | exhausted | checked | checkedLost | unsent | opened | failed | unanswered | awaitElapsed
  | closeSkipped | closeChecked | drops =>
      exact moves rfl rfl rfl rfl fun _ _ => rfl
  | @attempted target connection left =>
      exact @moves { client.setPending session (some ⟨connection, client.nextTicket⟩) with
        nextTicket := client.nextTicket + 1 } _ rfl rfl rfl rfl fun _ _ => rfl
  | sent | closeSent => exact moves (poolView_same fun _ => rfl) rfl rfl rfl fun _ _ => rfl
  | unbound bound | dropUnbound bound =>
      exact goto_pools (poolView_modify fun _ => rfl)
        (.unbinds rfl rfl (poolView_isBound.trans bound) rfl)
  | unheld =>
      exact moves rfl rfl rfl (onward_isApart _ _) fun _ kept => by cases kept rfl
  | uncounted => exact goto_pools (poolView_modify fun _ => rfl) (.lowers rfl (onward_isApart _ _))
  | retracted =>
      exact @moves (client.setPending session none) _ rfl rfl rfl (retracted_isApart _ _ _)
        (by rintro ⟨⟩)
  | cleared => exact @moves (client.setPending session none) _ rfl rfl rfl rfl (by rintro ⟨⟩)
  | unregistered =>
      exact @moves ((client.unregisterLocal session).dropReceiver session) _ rfl rfl rfl rfl
        (by rintro ⟨⟩)
  | dropUnregistered =>
      exact @moves (client.unregisterLocal session) _ rfl rfl rfl rfl fun _ _ => rfl
  | dropUnheld => exact moves rfl rfl rfl rfl fun _ kept => by cases kept rfl
  | dropUncounted => exact goto_pools (poolView_modify fun _ => rfl) (.lowers rfl rfl)
  | dropSkipped => exact @moves (client.dropReceiver session) _ rfl rfl rfl rfl (by rintro ⟨⟩)
  | dropChecked => exact moves rfl rfl rfl rfl (by rintro ⟨⟩)
  | @dropSent connection =>
      refine @moves ((client.offerTo connection
        ⟨none, envelopeSessionClose address session⟩).dropReceiver session) _ ?_ rfl rfl rfl
          (by rintro ⟨⟩)
      exact @poolView_same client connection (fun found => { found with
        sender := found.sender.offer ⟨none, envelopeSessionClose address session⟩ }) fun _ => rfl
  | expires => exact goto_pools rfl .stays
  | abandoned awaiting unlocked =>
      cases current with
      | resolving | listing | poolLock | awaiting =>
          exact @moves (client.dropReceiver session) _ rfl rfl rfl rfl fun _ _ => rfl
      | connecting => cases unlocked
      | _ => cases awaiting
  | @abandonedConnect target pool =>
      exact @goto_pools client ((client.setPoolHolder pool false).dropReceiver session) _ _ _ _
        _ _ rfl (.releases rfl rfl rfl)

/-! ## Steps of a receive loop and of a Client -/

/-- A loop that handles Envelopes and one that has ended leave the pools alone. -/
theorem gotoLoop_pools {connection : TransportConnection} {next : LoopPc}
    (found : client.connections id = some connection)
    (departed : next.hasDeparted = connection.loop.hasDeparted) :
    (client.gotoLoop id next).poolView = client.poolView := by
  have account : client.poolView.accounts id = some connection.account :=
    congrArg (Option.map TransportConnection.account) found
  have own : some { connection.account with departed := next.hasDeparted } =
      client.poolView.accounts id := by
    rw [account, departed]
    rfl
  rw [gotoLoop, @poolView_modify _ _ _
    (fun account => { account with departed := next.hasDeparted }) fun _ => rfl, PoolView.adjust,
    account, Option.map_some, own, Function.update_eq_self]

/-- Every step of a receive loop is one of the moves. -/
theorem loopStep?_pools {connection : TransportConnection} {pc : LoopPc} {event : LoopEvent}
    (found : client.connections id = some connection) (here : connection.loop = pc)
    (stepped : client.loopStep? id connection pc event = some after) :
    PoolMove config client (.loop id event) after.poolView := by
  have quiet : ∀ {middle : ClientInner} {next : LoopPc}, middle.connections = client.connections →
      middle.poolView = client.poolView → next.hasDeparted = pc.hasDeparted →
      PoolMove config client (.loop id event) (middle.gotoLoop id next).poolView := by
    intro middle next connections same departed
    rw [gotoLoop_pools (connections ▸ found) (here ▸ departed), same]
    exact .quiet (by rintro session openEvent ⟨⟩)
  have account : client.poolView.accounts id = some connection.account :=
    congrArg (Option.map TransportConnection.account) found
  have departs : pc.hasDeparted = true → connection.account.departed = true := by
    rw [← here]
    exact fun departed => departed
  have ends : pc.hasDeparted = true →
      PoolMove config client (.loop id event) (client.gotoLoop id .ended).poolView := by
    intro departed
    rw [gotoLoop, @poolView_modify _ _ _ (fun account => { account with departed := false })
      fun _ => rfl]
    exact .departs account (departs departed) rfl rfl
  cases loopStep?_cases stepped with
  | received =>
      refine quiet rfl rfl ?_
      unfold Inbound.handle
      split <;> rfl
  | lost | known | unknown | found | missing | pushed | taken | stale | completed | pooled
  | unpooled | fails | terminates | failed | aborted =>
      exact quiet rfl rfl rfl
  | closed =>
      rw [@poolView_modify _ _ _ (fun account => { account with closed := true, departed := true })
        fun _ => rfl]
      refine .closes ?_
      rw [isLosing, found, Option.any_some]
      exact decide_eq_true here
  | @removed pool free =>
      have same := @gotoLoop_pools (client.setPoolConnections pool
        ((client.poolConnections pool).filter (· != id))) id connection .draining found (here ▸ rfl)
      rw [same]
      exact .removes account (departs rfl) free
  | ended | abortedLock => exact ends rfl
  | drained =>
      rw [@poolView_modify _ _ _ (fun account => { account with sessions := [], departed := true })
        fun _ => rfl]
      exact .departs account (departs rfl) rfl rfl
  | zeroed =>
      rw [@poolView_modify _ _ _ (fun account =>
        { account with boundSessions := 0, departed := true }) fun _ => rfl]
      exact .departs account (departs rfl) rfl rfl
  | @terminated session rest =>
      have same : (client.terminate session ⟨some id, .error .remoteUnavailable⟩).poolView =
          client.poolView := by
        unfold terminate
        split <;> rfl
      have connections : (client.terminate session
          ⟨some id, .error .remoteUnavailable⟩).connections = client.connections := by
        unfold terminate
        split <;> rfl
      exact quiet connections same rfl

/-- Every step of a Client before its `shutdown` is one of the moves. -/
theorem step?_pools {event : ClientEvent} (running : event ≠ .shutdown)
    (stepped : client.step? config event = some after) :
    PoolMove config client event after.poolView := by
  have quiet : (∀ session openEvent, event ≠ .call session openEvent) →
      after.poolView = client.poolView → PoolMove config client event after.poolView := by
    intro outside same
    rw [same]
    exact .quiet outside
  cases event with
  | begin session address =>
      simp only [step?, begin?] at stepped
      split at stepped
      · rename_i unknown _
        cases stepped
        rw [poolView_setCall]
        exact .begins (congrArg (Option.map OpenCall.pc) unknown)
      · cases stepped
  | call session event =>
      obtain ⟨call, found, moved⟩ := Option.bind_eq_some_iff.mp stepped
      obtain ⟨next, result, step, same⟩ := openStep?_pools rfl moved
      rw [same]
      exact .call (congrArg (Option.map OpenCall.pc) found) step
  | loop id event =>
      obtain ⟨connection, found, moved⟩ := Option.bind_eq_some_iff.mp stepped
      exact loopStep?_pools found rfl moved
  | transmit id =>
      obtain ⟨connection, found, moved⟩ := Option.bind_eq_some_iff.mp stepped
      obtain ⟨received, waiting, rfl⟩ := Option.map_eq_some_iff.mp moved
      exact quiet (by rintro session openEvent ⟨⟩) (poolView_same fun _ => rfl)
  | hangUp id =>
      cases stepped
      exact quiet (by rintro session openEvent ⟨⟩) (poolView_same fun _ => rfl)
  | send session payload =>
      simp only [step?, send?] at stepped
      split at stepped <;> cases stepped
      exact quiet (by rintro session openEvent ⟨⟩) rfl
  | sending index =>
      obtain ⟨send, present, moved⟩ := Option.bind_eq_some_iff.mp stepped
      obtain ⟨⟨address, connection⟩, opened, sent⟩ := Option.bind_eq_some_iff.mp moved
      obtain ⟨session, payload, pc⟩ := send
      cases pc with
      | checking =>
          cases sent
          exact quiet (by rintro session openEvent ⟨⟩) rfl
      | sending =>
          cases sent
          exact quiet (by rintro session openEvent ⟨⟩) (@poolView_same client connection
            (fun found => { found with
              sender := found.sender.offer ⟨none, envelopeAction address session payload⟩ })
                fun _ => rfl)
      | returned => cases sent
  | recv session =>
      obtain ⟨received, waiting, rfl⟩ := Option.map_eq_some_iff.mp stepped
      exact quiet (by rintro session openEvent ⟨⟩) rfl
  | shutdown => exact absurd rfl running

end ClientInner

end Coactor.Client
