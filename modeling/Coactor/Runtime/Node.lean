import Coactor.Runtime.Shutdown

/-!
# One node: its lease task and its Server

`ServerStarter::start` builds the Server once it holds a Node Lease.  From then
on the renewal task samples the Server's capacity, and runs `fence` when it has
lost the lease; `Server::shutdown` ends the runtime first and the renewal task
afterwards.  Here the store gives any answers.
-/

namespace Coactor.Runtime

open Coactor.Foundation.Transition
open Coactor.Coordination

/-- What a node is started with. -/
structure NodeConfig where
  lease : ServerRuntimeConfig
  mailboxCapacity : String → Option Nat
  positive : ∀ actorType capacity, mailboxCapacity actorType = some capacity → 0 < capacity

/-- The Server that a session builds. -/
def NodeConfig.runtime (config : NodeConfig) (sessionId : NodeSessionId) : RuntimeConfig where
  router := ⟨config.lease.nodeId, sessionId⟩
  mailboxCapacity := config.mailboxCapacity
  maxActiveActors := config.lease.activeActorLimit
  positive := config.positive

/-! ## How the two depend on each other -/

def ShutdownPc.hasReturned : ShutdownPc → Bool
  | .returned _ | .skipped => true
  | _ => false

namespace Server

/-- What `update_capacity_sample` reads. -/
def capacitySample (config : RuntimeConfig) (server : Server) : CapacitySample where
  availablePermits := server.available
  maxActiveActors := config.maxActiveActors
  running := server.status == .running

/-- Inputs of the lease task that its Server allows: the sample is the Server's,
the shutdown signal comes after `shutdown`, and `fence` is awaited. -/
def allowsLease (config : RuntimeConfig) (server : Server) (phase : LeasePhase) :
    LeaseInput → Bool
  | .sample sample => sample == server.capacitySample config
  | .shutdown => server.shutdown.hasReturned
  | .advance => !phase.isFencing || server.fence == .returned
  | _ => true

end Server

/-- Steps of the Server that its lease task allows: only the lease task fences. -/
def allowsServer (session : NodeSession) : ServerEvent → Bool
  | .fence => session.isServing && session.phase.isFencing
  | _ => session.isServing

/-! ## The node as a system -/

structure NodeState where
  now : Nat
  session : NodeSession
  server : Server

inductive NodeLabel where
  | tick (elapsed : Nat)
  | lease (input : LeaseInput)
  | server (event : ServerEvent)
  deriving DecidableEq

namespace NodeState

def authorityValid (state : NodeState) : Bool := state.session.authorityValid state.now

/-- `has_authority`. -/
def hasAuthority (state : NodeState) : Bool :=
  state.server.status != .fenced && state.authorityValid

def step? (config : NodeConfig) (sessionId : NodeSessionId) (state : NodeState) :
    NodeLabel → Option NodeState
  | .tick elapsed => some { state with now := state.now + elapsed }
  | .lease input =>
      if state.server.allowsLease (config.runtime sessionId) state.session.phase input then
        (state.session.step? sessionId state.now input).map fun session =>
          { state with session := session }
      else none
  | .server event =>
      if allowsServer state.session event then
        (state.server.step? (config.runtime sessionId) state.authorityValid event).map
          fun server => { state with server := server }
      else none

end NodeState

/-- Every run of one node, started at any instant. -/
def nodeSystem (config : NodeConfig) (sessionId : NodeSessionId) :
    System NodeState NodeLabel where
  initial := fun state => state.session = .fresh config.lease ∧
    state.server = .fresh (config.runtime sessionId)
  step? := NodeState.step? config sessionId

end Coactor.Runtime
