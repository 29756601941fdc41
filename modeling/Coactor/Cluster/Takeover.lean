import Coactor.Cluster.Liveness
import Coactor.Coordination.Acquisition
import Coactor.Coordination.OwnerHistory
import Coactor.Runtime.SelfFence

/-!
# Takeovers

A claim over the record of another session should find no lease of that session.
The Node Directory has said so some steps before, or the owner was another
session of the claiming node.  The first is undone by a renewal that takes
effect on an expired lease, and is untrue when the lease was fetched before a
renewal and judged after its first expiry.  The second is no evidence when the
claiming session is the older one and has lost its lease.
-/

namespace Coactor.Cluster

open Coactor.Foundation
open Coactor.Foundation.Transition
open Coactor.Foundation.ConditionalStore
open Coactor.Coordination
open Coactor.Runtime

variable {config : ClusterConfig} {state before after : ClusterState}

/-! ## Steps that keep an unlisted session unlisted -/

/-- No owner record is read that names another session of the reader's own node
while the store holds an unexpired lease of that session. -/
def ReadsUnlisted (config : ClusterConfig) (state : ClusterState) (label : ClusterLabel) :
    Prop :=
  ∀ id conn found other,
    label = .server id (.conn conn (.reply (.owner (.ok (some found))))) →
    found.record.owner = some (config.owner other) →
    (config.nodes other).lease.nodeId = (config.nodes id).lease.nodeId → other ≠ id →
      ¬ Listed config state other

/-- No renewal takes effect on a lease that has expired. -/
def RenewsInTime (config : ClusterConfig) (state : ClusterState) (label : ClusterLabel) : Prop :=
  ∀ ticket write object, label = .settleLease ticket →
    state.leases.store.writes ticket = some write → write.issuer.operation = .renew →
    state.leases.store.current config.leases.stamp write.key = write.condition →
    state.leases.store.objects write.key = some object →
      object.body.isExpiredAt state.leases.now = false

/-- No `read_node` judges the lease it has fetched expired while the store holds
an unexpired one of the same session. -/
def JudgesCurrent (config : ClusterConfig) (state : ClusterState) (label : ClusterLabel) : Prop :=
  ∀ id conn found lease, label = .server id (.conn conn (.reply (.node (.ok found)))) →
    state.fetches id conn = some (some lease) → lease.isExpiredAt state.leases.now = true →
      ¬ Listed config state lease.node.sessionId

/-- A step that is none of the three that let a claim meet a lease. -/
structure Unraced (config : ClusterConfig) (state : ClusterState) (label : ClusterLabel) :
    Prop where
  reads : ReadsUnlisted config state label
  renews : RenewsInTime config state label
  judges : JudgesCurrent config state label

/-- A write that lists a started session again renews an expired lease. -/
theorem listed_before_settle {guard : ClusterState → ClusterLabel → Prop}
    (reach : (clusterSystem config).ReachableWhile guard before) {ticket : Nat}
    {write : LeaseWrite} {other : NodeSessionId}
    (renews : RenewsInTime config before (.settleLease ticket))
    (found : before.leases.store.writes ticket = some write) (pending : write.fate = .pending)
    (holds : before.leases.store.current config.leases.stamp write.key = write.condition)
    (serving : (before.leases.sessions other).isServing = true)
    (node : write.key = (config.nodes other).lease.nodeId)
    {body : StoredNodeLease} (put : write.body = some body)
    (own : body.node.sessionId = other) : Listed config before other := by
  have leases := leases_reachable reach
  have storeOk := (leaseInvariant_of_reachable leases).store
  have issuer : write.issuer.session = other :=
    ((storeOk.put ticket write body found put).1).symm.trans own
  cases operation : write.issuer.operation with
  | acquire =>
      have constructed : (before.leases.sessions other).authority ≠ none :=
        Option.isSome_iff_ne_none.mp (Bool.and_eq_true_iff.mp serving).1
      have same : write.issuer = ⟨other, .acquire⟩ := by rw [← issuer, ← operation]
      obtain ⟨serial, applied⟩ :=
        (startOk_of_reachable leases other).constructed constructed ticket write found same
      rw [applied] at pending
      cases pending
  | release =>
      rw [release_deletes leases ticket write found operation] at put
      cases put
  | renew =>
      obtain ⟨seen, -, condition, -, -⟩ := storeOk.renew ticket write body found operation put
      rw [condition, Store.current, Option.map_eq_some_iff] at holds
      obtain ⟨object, stored, revision⟩ := holds
      have current : before.leases.store.current config.leases.stamp write.key =
          write.condition := by
        rw [condition, Store.current, stored, Option.map_some, revision]
      have replaced := storeOk.replaces_own found current stored (by rw [operation]; rintro ⟨⟩)
      obtain ⟨earlier, written, found', -, body', issuer', -⟩ :=
        storeOk.wellformed.written _ _ stored
      have named := (storeOk.put earlier written object.body found' body').1
      refine ⟨object, node ▸ stored, ?_, ?_⟩
      · rw [named, issuer', replaced, issuer]
      · exact renews ticket write object rfl found operation current stored

/-- A started session that is not listed is not listed again. -/
theorem unlisted_lasts {guard : ClusterState → ClusterLabel → Prop} {label : ClusterLabel}
    {other : NodeSessionId} (reach : (clusterSystem config).ReachableWhile guard before)
    (renews : RenewsInTime config before label)
    (stepped : before.step? config label = some after)
    (serving : (before.leases.sessions other).isServing = true)
    (unlisted : ¬ Listed config before other) : ¬ Listed config after other := by
  intro listed
  obtain ⟨object, stored, own, early⟩ := listed
  cases step?_cases stepped with
  | settleOwner _ _ leases _ =>
      rw [leases] at stored early
      exact unlisted ⟨object, stored, own, early⟩
  | fetch _ _ _ _ _ leases =>
      rw [leases] at stored early
      exact unlisted ⟨object, stored, own, early⟩
  | server _ _ step =>
      rw [step.leases] at stored early
      exact unlisted ⟨object, stored, own, early⟩
  | lease leaseLabel _ named _ moved _ _ =>
      have kept : after.leases.store.objects = before.leases.store.objects → False := by
        intro objects
        rw [objects] at stored
        refine unlisted ⟨object, stored, own, StoredNodeLease.isExpiredAt_before ?_ early⟩
        rcases LeaseState.now_step? moved with still | ⟨elapsed, -, later⟩ <;> omega
      cases leaseLabel with
      | tick elapsed =>
          simp only [LeaseState.step?, Option.ite_none_right_eq_some, Option.some.injEq] at moved
          exact kept (moved.2 ▸ rfl)
      | session id input =>
          simp only [LeaseState.step?, Option.ite_none_right_eq_some, Option.bind_eq_some_iff,
            Option.map_eq_some_iff] at moved
          obtain ⟨-, store, sent, session, -, same⟩ := moved
          rw [← same] at kept
          cases input with
          | issued ticket =>
              simp only [LeaseState.sent, Option.map_eq_some_iff] at sent
              obtain ⟨write, -, rfl⟩ := sent
              exact kept rfl
          | _ =>
              cases sent
              exact kept rfl
      | settle ticket =>
          obtain ⟨store, settled, same⟩ := Option.map_eq_some_iff.mp moved
          rw [← same] at kept stored
          obtain ⟨write, found, pending, ⟨holds, rfl⟩ | rfl⟩ := settle?_cases settled
          · subst named
            by_cases node : (config.nodes other).lease.nodeId = write.key
            · rw [node] at stored
              simp only [Store.apply, Function.update_self, Write.object,
                Option.map_eq_some_iff] at stored
              obtain ⟨body, put, rfl⟩ := stored
              exact unlisted (listed_before_settle reach renews found pending holds serving
                node.symm put own)
            · simp only [Store.apply, Function.update_of_ne node] at stored
              rw [← same] at early
              exact unlisted ⟨object, stored, own, early⟩
          · exact kept rfl

/-- In runs of unraced steps the sessions without a lease may be displaced. -/
theorem goneRules_unlisted :
    GoneRules config (Unraced config) fun state id => ¬ Listed config state id where
  unstored := by
    rintro state other - - unnamed ⟨object, stored, own, -⟩
    exact unnamed object stored own
  outdated := fun _ id conn found lease _ met fetched past _ =>
    met.judges id conn found lease rfl fetched past
  sameNode := fun _ id conn found other _ met named _ node different =>
    met.reads id conn found other rfl named node different
  lasts := by
    intro before label after other reach met stepped serving unlisted
    exact unlisted_lasts reach met.renews stepped serving unlisted

/-! ## The owner a claim displaces -/

/-- Settling this ticket applies a claim over a record of another session. -/
structure Displaces (config : ClusterConfig) (state : ClusterState) (ticket : Nat)
    (write : OwnerWrite) (owner : ActorOwner) : Prop where
  found : state.owners.writes ticket = some write
  pending : write.fate = .pending
  claim : write.issuer.operation = .claim
  holds : state.owners.current config.owners.stamp write.key = write.condition
  named : ∃ object, state.owners.objects write.key = some object ∧
    object.body.owner = some owner
  other : owner.sessionId ≠ write.issuer.router.sessionId

/-- In runs of unraced steps a claim displaces no session whose lease is stored
and has not expired. -/
theorem claim_displaces_no_lease
    (reach : (clusterSystem config).ReachableWhile (Unraced config) state) {ticket : Nat}
    {write : OwnerWrite} {owner : ActorOwner}
    (displaces : Displaces config state ticket write owner) {lease : LeaseObject}
    (stored : state.leases.store.objects owner.nodeId = some lease)
    (own : lease.body.node.sessionId = owner.sessionId) :
    lease.body.isExpiredAt state.leases.now = true := by
  have ownership := ownershipOk_of_reachable reach
  obtain ⟨object, present, named⟩ := displaces.named
  have written := ownership.owners.wellformed.written _ _ present
  obtain ⟨id, rfl, -⟩ := ownership.named_serving written named
  have unlisted := gone_of_claim goneRules_unlisted reach displaces.found displaces.claim
    displaces.holds present named
  by_contra early
  exact unlisted ⟨lease, stored, own, Bool.not_eq_true _ ▸ early⟩

/-! ## Three sessions on two nodes -/

/-- Two nodes that both run the cart actors; every session but one is of the
first. -/
def twoNodes : ClusterConfig where
  leases := countedLeases
  owners := countedOwners
  nodes := fun id =>
    if id = ⟨"b-1"⟩ then { cartNode with lease := ⟨"node-b", "node-b:1", 10000000, 2⟩ } else cartNode

def twoNodesStart : ClusterState where
  leases := ⟨0, .empty, fun id => .fresh (twoNodes.nodes id).lease⟩
  owners := .empty
  servers := fun id => .fresh (twoNodes.runtime id)
  fetches := fun _ _ => none

/-- A session acquires its lease over the one it finds, and builds its Server. -/
def startSession (id : NodeSessionId) (found : Option (Revision × Nat)) (ticket : Nat)
    (revision : Revision) : List ClusterLabel :=
  [.lease id .advance, .lease id .advance, .lease id (.found (.ok found)), .lease id .advance,
    .lease id (.issued ticket), .settleLease ticket,
    .lease id (.outcome (.ok (.applied revision))), .lease id .advance, .lease id .advance]

/-- The answer to a read; `read_node` fetches the lease first. -/
def answerRead (id : NodeSessionId) : RouterReply → List ClusterLabel
  | .node reply => [.fetch id 0, .server id (.conn 0 (.reply (.node reply)))]
  | reply => [.server id (.conn 0 (.reply reply))]

/-- A `SessionOpen` sends its claim for the first cart after these reads. -/
def openAndClaim (id : NodeSessionId) (reads : List RouterReply) (ticket : Nat) :
    List ClusterLabel :=
  let received : List ConnEvent :=
    [.accept, .receive ⟨2, some cartAddress, some ⟨7⟩, some .sessionOpen⟩, .advance false]
  let claimed : List ConnEvent := [.reply (.permit true), .reply (.issued ticket)]
  (received.map fun event => .server id (.conn 0 event)) ++ reads.flatMap (answerRead id) ++
    claimed.map fun event => .server id (.conn 0 event)

/-- The claim is applied, and the `SessionOpen` activates the cart. -/
def activateClaimed (id : NodeSessionId) (ticket : Nat) (revision : Revision) :
    List ClusterLabel :=
  let events : List ConnEvent :=
    .reply (.outcome (.ok (.applied revision))) :: List.replicate 4 (.advance false)
  .settleOwner ticket :: events.map fun event => .server id (.conn 0 event)

/-- The first session serves the cart, its lease runs out, and the session of
the other node claims the cart. -/
def claimExpired : List ClusterLabel :=
  startSession ⟨"a-1"⟩ none 0 ⟨""⟩ ++ openAndClaim ⟨"a-1"⟩ [.owner (.ok none)] 0 ++
    activateClaimed ⟨"a-1"⟩ 0 ⟨""⟩ ++ [.tick 10000000] ++ startSession ⟨"b-1"⟩ none 1 ⟨"v"⟩ ++
    openAndClaim ⟨"b-1"⟩
      [.owner (.ok (some ⟨cartRuntime.router.localClaim 1, ⟨""⟩⟩)), .node (.ok none)] 1

/-- No renewal is applied or taken up, no lease is taken over, no release is
applied, records are read by the session that holds the lease of its node, a
lease is judged when its session has lost its authority and no lease of its node
is unexpired, and no Action is dispatched. -/
def calm (config : ClusterConfig) (state : ClusterState) : ClusterLabel → Bool
  | .lease id .advance =>
      match (state.leases.sessions id).phase with
      | .granted _ _ _ | .inspected _ _ (some _) => false
      | _ => true
  | .settleLease ticket =>
      (state.leases.store.writes ticket).all fun write => write.issuer.operation != .renew
  | .settleOwner ticket =>
      (state.owners.writes ticket).all fun write => write.issuer.operation != .release
  | .server id (.conn _ (.reply (.owner _))) =>
      state.authorityValid id && !(state.leases.sessions id).released &&
        (state.leases.store.objects (config.nodes id).lease.nodeId).all fun object =>
          object.body.node.sessionId == id
  | .server id (.conn conn (.reply (.node _))) =>
      (state.fetches id conn).all fun fetched => fetched.all fun lease =>
        !state.authorityValid lease.node.sessionId &&
          (state.leases.store.objects
            (config.nodes lease.node.sessionId).lease.nodeId).all fun object =>
              object.body.isExpiredAt state.leases.now
  | .server id (.conn conn (.advance _)) =>
      match ((state.servers id).conns conn).pc with
      | .actionDispatch _ _ _ _ => false
      | _ => true
  | _ => true

theorem unraced_of_calm {label : ClusterLabel} (still : calm config state label = true) :
    Unraced config state label where
  reads := by
    rintro id conn found other rfl _ node different ⟨object, stored, own, -⟩
    simp only [calm, Bool.and_eq_true] at still
    rw [← node, stored, Option.all_some, beq_iff_eq] at still
    exact different (own.symm.trans still.2)
  renews := by
    rintro ticket write object rfl found renew _ _
    simp [calm, found, renew] at still
  judges := by
    rintro id conn found lease rfl fetched _ ⟨object, stored, -, early⟩
    simp only [calm, fetched, Option.all_some, Bool.and_eq_true, stored] at still
    rw [early] at still
    cases still.2

/-- The claim of the other node meets the expired lease of the first session. -/
theorem claim_meets_expired_lease :
    ∃ state lease, (clusterSystem twoNodes).run? twoNodesStart claimExpired = some state ∧
      state.leases.store.objects "node-a" = some lease ∧
      lease.body.node.sessionId = ⟨"a-1"⟩ ∧
      lease.body.isExpiredAt state.leases.now = true := by
  have initial : (clusterSystem twoNodes).ReachableWhile (Unraced twoNodes) twoNodesStart :=
    .start ⟨⟨by decide, rfl, rfl⟩, rfl, rfl, rfl⟩
  have still : (clusterSystem twoNodes).Meets (fun state label => calm twoNodes state label = true)
      twoNodesStart claimExpired := meets_of_meets? rfl
  have reach := reachableWhile_of_run? initial (meets_mono (fun _ _ => unraced_of_calm) still) rfl
  refine ⟨_, _, rfl, rfl, rfl, ?_⟩
  exact @claim_displaces_no_lease _ _ reach 1 _ ⟨"node-a", ⟨"a-1"⟩⟩
    ⟨rfl, rfl, rfl, rfl, ⟨_, rfl, rfl⟩, by decide⟩ _ rfl rfl

/-- The first session loses its lease to a second one of its node, which serves
the cart; the first still handles a `SessionOpen`, and claims the cart. -/
def claimByOlder : List ClusterLabel :=
  startSession ⟨"a-1"⟩ none 0 ⟨""⟩ ++ [.tick 10000000] ++
    startSession ⟨"a-2"⟩ (some (⟨""⟩, 10)) 1 ⟨"v"⟩ ++
    openAndClaim ⟨"a-2"⟩ [.owner (.ok none)] 0 ++ activateClaimed ⟨"a-2"⟩ 0 ⟨""⟩ ++
    openAndClaim ⟨"a-1"⟩ [.owner (.ok (some ⟨(twoNodes.router ⟨"a-2"⟩).localClaim 1, ⟨""⟩⟩))] 1

/-- The claim of the older session displaces the one that holds the lease. -/
theorem older_session_displaces_lease :
    ¬ ∀ state, (clusterSystem twoNodes).Reachable state → ∀ ticket write owner,
      Displaces twoNodes state ticket write owner → ∀ lease,
        state.leases.store.objects owner.nodeId = some lease →
        lease.body.node.sessionId = owner.sessionId →
          lease.body.isExpiredAt state.leases.now = true := by
  intro expired
  have reach := @reachable_of_run? _ _ (clusterSystem twoNodes) twoNodesStart _ claimByOlder
    ⟨⟨by decide, rfl, rfl⟩, rfl, rfl, rfl⟩ rfl
  have past := expired _ reach 1 _ ⟨"node-a", ⟨"a-2"⟩⟩
    ⟨rfl, rfl, rfl, rfl, ⟨_, rfl, rfl⟩, by decide⟩ _ rfl rfl
  revert past
  decide

end Coactor.Cluster
