import Coactor.Coordination.NodeSession
import Coactor.Foundation.ConditionalStore
import Coactor.Foundation.Transition

/-!
# Node Sessions over one Coordination Store

Any number of Node Sessions share one clock and one store of Node Leases.  The
store settles the conditional writes in any order and at any time, or never;
an `Applied` or `Conflict` answer tells what has become of the awaited write,
every other answer tells nothing.  The clock stays below the last instant that
`u64` milliseconds can tell apart.
-/

namespace Coactor.Coordination

open Coactor.Foundation.Transition
open Coactor.Foundation.ConditionalStore

/-- The three operations that write a Node Lease. -/
inductive LeaseOperation where
  | acquire
  | renew
  | release
  deriving DecidableEq, Repr

structure LeaseIssuer where
  session : NodeSessionId
  operation : LeaseOperation
  deriving DecidableEq, Repr

abbrev LeaseWrite := Write String StoredNodeLease LeaseIssuer Revision

abbrev LeaseObject := Object StoredNodeLease LeaseIssuer

abbrev LeaseStore := Store String StoredNodeLease LeaseIssuer Revision

/-- Revisions of Node Leases; `fresh` says that no two writes share one. -/
structure LeaseStamp where
  stamp : Nat → StoredNodeLease → Revision
  fresh : ∀ m n b c, stamp m b = stamp n c → m = n

structure LeaseState where
  now : Nat
  store : LeaseStore
  sessions : NodeSessionId → NodeSession

inductive LeaseLabel where
  | tick (elapsed : Nat)
  | settle (ticket : Nat)
  | session (id : NodeSessionId) (input : LeaseInput)
  deriving DecidableEq, Repr

/-- The conditional write a session is about to send: `put_node` from
`acquire_node` or `renew_node`, or the delete of `release_node`. -/
def NodeSession.write? (id : NodeSessionId) (now : Nat) (session : NodeSession) :
    Option LeaseWrite :=
  match session.phase with
  | .putting node _ revision =>
      some { key := node.nodeId, issuer := ⟨id, .acquire⟩,
             body := some (putNodeAt node session.config.nodeLeaseTtl now),
             condition := revision }
  | .renewing node revision _ =>
      some { key := node.nodeId, issuer := ⟨id, .renew⟩,
             body := some (putNodeAt node session.config.nodeLeaseTtl now),
             condition := some revision }
  | .exited node revision true =>
      some { key := node.nodeId, issuer := ⟨id, .release⟩, body := none,
             condition := some revision }
  | _ => none

/-- The write whose outcome a session awaits. -/
def LeasePhase.awaits : LeasePhase → Option Nat
  | .awaitingAcquire _ _ ticket => some ticket
  | .awaitingRenewal _ _ _ ticket => some ticket
  | .awaitingRelease ticket => some ticket
  | _ => none

/-- What `read_node` makes at an instant of the lease it has fetched. -/
def listedAt (instant : Nat) (fetched : Option StoredNodeLease) : Option NodeRecord :=
  fetched.bind fun lease => if lease.isExpiredAt instant then none else some lease.node

namespace LeaseState

variable (leases : LeaseStamp)

/-- `read_node_key` with expired leases included. -/
def readNodeKey (state : LeaseState) (nodeId : String) : Option (Revision × Nat) :=
  (state.store.objects nodeId).map fun object =>
    (object.revision leases.stamp, object.body.expiresAtUnixMs)

/-- `read_node_lease`: the stored record and revision unless expired. -/
def readNodeLease (state : LeaseState) (nodeId : String) : Option (NodeRecord × Revision) :=
  match state.store.objects nodeId with
  | none => none
  | some object =>
      if object.body.isExpiredAt state.now then none
      else some (object.body.node, object.revision leases.stamp)

/-- Answers the store can give to a session at this moment. -/
def answerable (state : LeaseState) (id : NodeSessionId) : LeaseInput → Bool
  | .found (.ok found) =>
      found == state.readNodeKey leases (state.sessions id).config.nodeId
  | .readBack (.ok found) =>
      found == state.readNodeLease leases (state.sessions id).config.nodeId
  | .issued ticket => ticket == state.store.tickets
  | .outcome (.ok (.applied revision)) =>
      match ((state.sessions id).phase.awaits).bind state.store.writes with
      | some { body := some body, fate := .applied serial, .. } =>
          revision == leases.stamp serial body
      | some { body := none, fate := .applied _, .. } => true
      | _ => false
  | .outcome (.ok .conflict) =>
      match ((state.sessions id).phase.awaits).bind state.store.writes with
      | some { fate := .refused, .. } => true
      | _ => false
  | _ => true

/-- The store after an input: sending a write hands it to the store. -/
def sent (state : LeaseState) (id : NodeSessionId) : LeaseInput → Option LeaseStore
  | .issued _ =>
      ((state.sessions id).write? id state.now).map state.store.issue
  | _ => some state.store

/-- One step of the clock, of the store, or of one session. -/
def step? (state : LeaseState) : LeaseLabel → Option LeaseState
  | .tick elapsed =>
      if (state.now + elapsed) / nanosPerMilli < u64Max then
        some { state with now := state.now + elapsed }
      else none
  | .settle ticket =>
      (state.store.settle? leases.stamp ticket).map fun store => { state with store := store }
  | .session id input =>
      if state.answerable leases id input then
        (state.sent id input).bind fun store =>
          ((state.sessions id).step? id state.now input).map fun session =>
            { state with
              store := store
              sessions := Function.update state.sessions id session }
      else none

variable {leases}

/-- A step leaves a session alone, or is an input to it. -/
theorem session_step? {state after : LeaseState} {label : LeaseLabel}
    (stepped : state.step? leases label = some after) (id : NodeSessionId) :
    after.sessions id = state.sessions id ∨
      ∃ input, label = .session id input ∧
        (state.sessions id).step? id state.now input = some (after.sessions id) := by
  cases label with
  | tick elapsed =>
      simp only [step?, Option.ite_none_right_eq_some, Option.some.injEq] at stepped
      obtain ⟨-, rfl⟩ := stepped
      exact .inl rfl
  | settle ticket =>
      obtain ⟨store, -, rfl⟩ := Option.map_eq_some_iff.mp stepped
      exact .inl rfl
  | session other input =>
      simp only [step?, Option.ite_none_right_eq_some, Option.bind_eq_some_iff,
        Option.map_eq_some_iff] at stepped
      obtain ⟨-, store, -, session, moved, rfl⟩ := stepped
      by_cases same : id = other
      · subst same
        exact .inr ⟨input, rfl, by simpa using moved⟩
      · exact .inl (by simp [Function.update_of_ne same])

/-- Only a tick moves the clock. -/
theorem now_step? {state after : LeaseState} {label : LeaseLabel}
    (stepped : state.step? leases label = some after) :
    after.now = state.now ∨
      ∃ elapsed, label = .tick elapsed ∧ after.now = state.now + elapsed := by
  cases label with
  | tick elapsed =>
      simp only [step?, Option.ite_none_right_eq_some, Option.some.injEq] at stepped
      obtain ⟨-, rfl⟩ := stepped
      exact .inr ⟨elapsed, rfl, rfl⟩
  | settle ticket =>
      obtain ⟨store, -, rfl⟩ := Option.map_eq_some_iff.mp stepped
      exact .inl rfl
  | session other input =>
      simp only [step?, Option.ite_none_right_eq_some, Option.bind_eq_some_iff,
        Option.map_eq_some_iff] at stepped
      obtain ⟨-, store, -, session, -, rfl⟩ := stepped
      exact .inl rfl

end LeaseState

/-- The store empty and every session unstarted, at any representable instant. -/
def leaseSystem (leases : LeaseStamp) (configs : NodeSessionId → ServerRuntimeConfig) :
    System LeaseState LeaseLabel where
  initial := fun state =>
    state.now / nanosPerMilli < u64Max ∧ state.store = .empty ∧
      state.sessions = fun id => .fresh (configs id)
  step? := LeaseState.step? leases

end Coactor.Coordination
