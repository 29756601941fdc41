import Coactor.Coordination.Tenancy
import Coactor.Coordination.OwnerStore
import Coactor.Runtime.Calls
import Coactor.Runtime.Node

/-!
# The cluster

Any number of node sessions share one clock and one Coordination Store, which
holds the Node Leases and the owner records.  A session acquires, renews and
releases its lease, and once it is started its Server handles Envelopes and runs
actors.  The routers of the Servers read both kinds of records; their answers
are those of the store at the moment of the step, or errors at any moment.  Only
`read_node` takes two steps: it fetches the lease, and compares the expiry with
the clock when it returns.
-/

namespace Coactor.Cluster

open Coactor.Foundation
open Coactor.Foundation.Transition
open Coactor.Foundation.ConditionalStore (Object)
open Coactor.Coordination
open Coactor.Runtime

/-- The revisions of the store and the configuration of every node session. -/
structure ClusterConfig where
  leases : LeaseStamp
  owners : OwnerStamp
  nodes : NodeSessionId → NodeConfig

namespace ClusterConfig

variable (config : ClusterConfig) (id : NodeSessionId)

def runtime : RuntimeConfig := (config.nodes id).runtime id

def router : ClusterRouter := (config.runtime id).router

/-- The owner that the claims of a session name. -/
def owner : ActorOwner := ⟨(config.nodes id).lease.nodeId, id⟩

end ClusterConfig

/-- `fetches` holds what the `read_node` of a connection has fetched so far. -/
structure ClusterState where
  leases : LeaseState
  owners : OwnerStore
  servers : NodeSessionId → Server
  fetches : NodeSessionId → Nat → Option (Option StoredNodeLease)

inductive ClusterLabel where
  | tick (elapsed : Nat)
  | settleLease (ticket : Nat)
  | settleOwner (ticket : Nat)
  | lease (id : NodeSessionId) (input : LeaseInput)
  | fetch (id : NodeSessionId) (conn : Nat)
  | server (id : NodeSessionId) (event : ServerEvent)
  deriving DecidableEq

/-! ## Router calls -/

/-- A router call that waits for the answer to a request. -/
structure SuspendedCall where
  address : ActorAddress
  operation : OwnerOperation
  call : Nat
  request : RouterCall
  deriving DecidableEq

/-- The call that an event of a Server answers. -/
def suspendedCall? (server : Server) : ServerEvent → Option SuspendedCall
  | .conn id (.reply _) =>
      match (server.conns id).pc with
      | .resolving address _ program _ =>
          program.request?.map fun request => ⟨address, .claim, id, request⟩
      | _ => none
  | .task generation (.reply _) =>
      (server.tasks generation).bind fun task =>
        match task.pc with
        | .releasing program =>
            program.request?.map fun request => ⟨task.address, .release, generation, request⟩
        | _ => none
  | _ => none

/-- The node whose lease the `read_node` of a connection is to fetch. -/
def fetching? (server : Server) (conn : Nat) : Option String :=
  match (server.conns conn).pc with
  | .resolving _ _ program _ =>
      match program.request? with
      | some (.readNode nodeId) => some nodeId
      | _ => none
  | _ => none

def reply? : ServerEvent → Option RouterReply
  | .conn _ (.reply reply) => some reply
  | .task _ (.reply reply) => some reply
  | _ => none

namespace ClusterState

variable (config : ClusterConfig)

/-- What the `read_node` has fetched that an event answers. -/
def fetched (state : ClusterState) (id : NodeSessionId) :
    ServerEvent → Option (Option StoredNodeLease)
  | .conn conn _ => state.fetches id conn
  | _ => none

/-- `read_node` as it judges at an instant what it has fetched. -/
def directoryAnswers (instant : Nat) (fetched : Option (Option StoredNodeLease)) :
    RouterCall → RouterReply → Bool
  | .readNode _, .node (.ok found) => fetched.any fun lease => found == listedAt instant lease
  | _, _ => true

/-- A `read_node` that returns, or is given up, leaves nothing fetched. -/
def fetchesAfter (state : ClusterState) (id : NodeSessionId) :
    ServerEvent → NodeSessionId → Nat → Option (Option StoredNodeLease)
  | .conn conn _ =>
      Function.update state.fetches id (Function.update (state.fetches id) conn none)
  | _ => state.fetches

/-- Answers the store can give to a Server at this moment. -/
def answerable (state : ClusterState) (id : NodeSessionId) (event : ServerEvent) : Bool :=
  match suspendedCall? (state.servers id) event, reply? event with
  | some call, some reply =>
      state.owners.answerable config.owners call.address call.request reply &&
        directoryAnswers state.leases.now (state.fetched id event) call.request reply
  | _, _ => true

/-- The owner records after a step of a Server. -/
def served (state : ClusterState) (id : NodeSessionId) (event : ServerEvent) : OwnerStore :=
  match suspendedCall? (state.servers id) event with
  | some call =>
      state.owners.serve call.address ⟨config.router id, call.operation, call.call⟩ call.request
  | none => state.owners

/-- `is_valid` of a session's authority. -/
def authorityValid (state : ClusterState) (id : NodeSessionId) : Bool :=
  (state.leases.sessions id).authorityValid state.leases.now

/-- One step of the clock, of the store, of a lease task or of a Server. -/
def step? (state : ClusterState) : ClusterLabel → Option ClusterState
  | .tick elapsed =>
      (state.leases.step? config.leases (.tick elapsed)).map fun leases =>
        { state with leases := leases }
  | .settleLease ticket =>
      (state.leases.step? config.leases (.settle ticket)).map fun leases =>
        { state with leases := leases }
  | .settleOwner ticket =>
      (state.owners.settle? config.owners.stamp ticket).map fun owners =>
        { state with owners := owners }
  | .lease id input =>
      if (state.servers id).allowsLease (config.runtime id) (state.leases.sessions id).phase
          input then
        (state.leases.step? config.leases (.session id input)).map fun leases =>
          { state with leases := leases }
      else none
  | .fetch id conn =>
      (fetching? (state.servers id) conn).map fun nodeId =>
        let lease := (state.leases.store.objects nodeId).map Object.body
        { state with
          fetches := Function.update state.fetches id
            (Function.update (state.fetches id) conn (some lease)) }
  | .server id event =>
      if allowsServer (state.leases.sessions id) event && state.answerable config id event then
        ((state.servers id).step? (config.runtime id) (state.authorityValid id) event).map
          fun server =>
            { state with
              owners := state.served config id event
              servers := Function.update state.servers id server
              fetches := state.fetchesAfter id event }
      else none

end ClusterState

/-- The store empty, every session unstarted and every Server fresh, at any
representable instant. -/
def clusterSystem (config : ClusterConfig) : System ClusterState ClusterLabel where
  initial := fun state =>
    (leaseSystem config.leases fun id => (config.nodes id).lease).initial state.leases ∧
      state.owners = .empty ∧ (state.servers = fun id => .fresh (config.runtime id)) ∧
      state.fetches = fun _ _ => none
  step? := ClusterState.step? config

/-- A session serves an address. -/
structure Serves (state : ClusterState) (id : NodeSessionId) (address : ActorAddress) : Prop where
  running : (state.servers id).status = .running
  valid : state.authorityValid id = true
  active : ∃ generation, (state.servers id).routes address = some ⟨generation, .active⟩

/-! ## What a step does -/

variable {config : ClusterConfig} {state after : ClusterState}

/-- The part of the cluster that a step of one Server changes. -/
structure ServerStep (config : ClusterConfig) (before after : ClusterState) (id : NodeSessionId)
    (event : ServerEvent) : Prop where
  allowed : allowsServer (before.leases.sessions id) event = true
  answerable : before.answerable config id event = true
  stepped : (before.servers id).step? (config.runtime id) (before.authorityValid id) event =
    some (after.servers id)
  servers : after.servers = Function.update before.servers id (after.servers id)
  owners : after.owners = before.served config id event
  leases : after.leases = before.leases
  fetches : after.fetches = before.fetchesAfter id event

/-- A step of a Server leaves what a `read_node` has fetched, or drops it. -/
theorem ServerStep.fetches_cases {id : NodeSessionId} {event : ServerEvent}
    (step : ServerStep config state after id event) (other : NodeSessionId) (conn : Nat) :
    after.fetches other conn = state.fetches other conn ∨ after.fetches other conn = none := by
  rw [step.fetches]
  cases event with
  | conn changed event =>
      by_cases same : other = id
      · subst same
        by_cases own : conn = changed
        · subst own
          exact .inr (by simp [ClusterState.fetchesAfter])
        · exact .inl (by simp [ClusterState.fetchesAfter, Function.update_of_ne own])
      · exact .inl (by simp [ClusterState.fetchesAfter, Function.update_of_ne same])
  | _ => exact .inl rfl

/-- A connection that fetches a lease has a `resolve` that asks for it. -/
theorem fetching?_resolving {server : Server} {conn : Nat} {nodeId : String}
    {address : ActorAddress} {session : SessionId} {program : ClusterRouter.ResolveProgram}
    {reserved : Bool} (here : (server.conns conn).pc = .resolving address session program reserved)
    (asked : fetching? server conn = some nodeId) :
    ∃ resume, program = .call (.readNode nodeId) resume := by
  rw [fetching?, here] at asked
  cases program with
  | ret result => cases asked
  | call request resume =>
      cases request <;> cases asked
      exact ⟨resume, rfl⟩

/-- Every step is one of the leases, one that settles an owner write, one that
fetches a lease for a `read_node`, or one of a Server. -/
inductive ClusterStep (config : ClusterConfig) (before after : ClusterState) :
    ClusterLabel → Prop where
  | lease (label : LeaseLabel) (cluster : ClusterLabel)
      (named : cluster = match label with
        | .tick elapsed => .tick elapsed
        | .settle ticket => .settleLease ticket
        | .session id input => .lease id input)
      (allowed : ∀ id input, label = .session id input →
        (before.servers id).allowsLease (config.runtime id) (before.leases.sessions id).phase
          input = true)
      (stepped : before.leases.step? config.leases label = some after.leases)
      (owners : after.owners = before.owners) (servers : after.servers = before.servers)
      (fetches : after.fetches = before.fetches) : ClusterStep config before after cluster
  | settleOwner (ticket : Nat)
      (settled : before.owners.settle? config.owners.stamp ticket = some after.owners)
      (leases : after.leases = before.leases) (servers : after.servers = before.servers)
      (fetches : after.fetches = before.fetches) :
      ClusterStep config before after (.settleOwner ticket)
  | fetch (id : NodeSessionId) (conn : Nat) (nodeId : String)
      (asked : fetching? (before.servers id) conn = some nodeId)
      (fetches : after.fetches = Function.update before.fetches id
        (Function.update (before.fetches id) conn
          (some ((before.leases.store.objects nodeId).map Object.body))))
      (leases : after.leases = before.leases) (owners : after.owners = before.owners)
      (servers : after.servers = before.servers) :
      ClusterStep config before after (.fetch id conn)
  | server (id : NodeSessionId) (event : ServerEvent)
      (step : ServerStep config before after id event) :
      ClusterStep config before after (.server id event)

theorem step?_cases {label : ClusterLabel} (stepped : state.step? config label = some after) :
    ClusterStep config state after label := by
  cases label with
  | tick elapsed =>
      obtain ⟨leases, moved, rfl⟩ := Option.map_eq_some_iff.mp stepped
      exact .lease (.tick elapsed) _ rfl (by rintro _ _ ⟨⟩) moved rfl rfl rfl
  | settleLease ticket =>
      obtain ⟨leases, moved, rfl⟩ := Option.map_eq_some_iff.mp stepped
      exact .lease (.settle ticket) _ rfl (by rintro _ _ ⟨⟩) moved rfl rfl rfl
  | settleOwner ticket =>
      obtain ⟨owners, settled, rfl⟩ := Option.map_eq_some_iff.mp stepped
      exact .settleOwner ticket settled rfl rfl rfl
  | lease id input =>
      simp only [ClusterState.step?, Option.ite_none_right_eq_some, Option.map_eq_some_iff]
        at stepped
      obtain ⟨allowed, leases, moved, rfl⟩ := stepped
      refine .lease (.session id input) _ rfl ?_ moved rfl rfl rfl
      rintro other given ⟨⟩
      exact allowed
  | fetch id conn =>
      obtain ⟨nodeId, asked, rfl⟩ := Option.map_eq_some_iff.mp stepped
      exact .fetch id conn nodeId asked rfl rfl rfl rfl
  | server id event =>
      simp only [ClusterState.step?, Option.ite_none_right_eq_some, Option.map_eq_some_iff,
        Bool.and_eq_true] at stepped
      obtain ⟨⟨allowed, answerable⟩, server, moved, rfl⟩ := stepped
      refine .server id event ⟨allowed, answerable, ?_, ?_, rfl, rfl, rfl⟩
      · simpa using moved
      · simp

/-! ## The parts of a reachable cluster -/

/-- The leases of a cluster run as the leases alone do. -/
theorem leases_reachable {guard : ClusterState → ClusterLabel → Prop}
    (reach : (clusterSystem config).ReachableWhile guard state) :
    (leaseSystem config.leases fun id => (config.nodes id).lease).Reachable state.leases := by
  refine invariant_of_step (fun state : ClusterState =>
    (leaseSystem config.leases fun id => (config.nodes id).lease).Reachable state.leases) ?_ ?_
    reach
  · rintro start ⟨initial, -⟩
    exact .start initial
  · intro before label after earlier _ stepped
    cases step?_cases stepped with
    | lease label _ _ _ stepped _ _ => exact .step earlier trivial stepped
    | settleOwner _ _ leases _ =>
        rw [leases]
        exact earlier
    | fetch _ _ _ _ _ leases =>
        rw [leases]
        exact earlier
    | server _ _ step =>
        rw [step.leases]
        exact earlier

/-- Every Server of a cluster runs as a Server alone does. -/
theorem servers_reachable {guard : ClusterState → ClusterLabel → Prop}
    (reach : (clusterSystem config).ReachableWhile guard state) (id : NodeSessionId) :
    (serverSystem (config.runtime id)).Reachable (state.servers id) := by
  refine invariant_of_step (fun state : ClusterState =>
    (serverSystem (config.runtime id)).Reachable (state.servers id)) ?_ ?_ reach
  · rintro start ⟨-, -, fresh, -⟩
    rw [fresh]
    exact .start rfl
  · intro before label after earlier _ stepped
    cases step?_cases stepped with
    | lease _ _ _ _ _ _ servers =>
        rw [servers]
        exact earlier
    | settleOwner _ _ _ servers =>
        rw [servers]
        exact earlier
    | fetch _ _ _ _ _ _ _ servers =>
        rw [servers]
        exact earlier
    | server other event step =>
        by_cases same : id = other
        · subst same
          exact @System.ReachableWhile.step _ _ _ _ _ _ (before.authorityValid id, event) earlier
            trivial step.stepped
        · rw [step.servers, Function.update_of_ne same]
          exact earlier

end Coactor.Cluster
