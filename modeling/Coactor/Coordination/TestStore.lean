import Coactor.Coordination.StoreOperations
import Mathlib.Data.List.AList

/-!
# `TestCoordinationStore`

The store that the cluster tests run on: two maps under a lock and a counter
for revisions.
-/

namespace Coactor.Coordination

structure TestNodeLease where
  node : NodeRecord
  revision : Revision
  expiresAtUnixMs : Nat
  deriving DecidableEq, Repr

structure TestCoordinationStore where
  leases : AList fun _ : String => TestNodeLease
  owners : AList fun _ : ActorAddress => VersionedActorOwnerRecord
  nextRevision : Nat

/-- The revision `format!("test-revision-{next}")`. -/
def testRevision (next : Nat) : Revision := ⟨"test-revision-" ++ next.repr⟩

theorem testRevision_injective : Function.Injective testRevision := by
  intro first second same
  have texts := congrArg (fun revision => revision.value.toList) same
  simp only [testRevision, String.toList_append, List.append_cancel_left_eq,
    Nat.toList_repr] at texts
  have digits := congrArg (Nat.ofDigitChars 10 · 0) texts
  simpa [Nat.ofDigitChars_toDigits] using digits

namespace TestCoordinationStore

/-- `Default`. -/
def empty : TestCoordinationStore := ⟨∅, ∅, 0⟩

def next (store : TestCoordinationStore) : Revision × TestCoordinationStore :=
  (testRevision (store.nextRevision + 1), { store with nextRevision := store.nextRevision + 1 })

/-- `wall_time_millis() + ttl.as_millis() as u64`. -/
def expiry (moment : Moment) (ttl : Nat) : Nat :=
  (wallTimeMillis moment.systemTime + ttl % (u64Max + 1)) % (u64Max + 1)

/-- The lease of a node id, unless it has expired. -/
def live (moment : Moment) (store : TestCoordinationStore) (nodeId : String) :
    Option TestNodeLease :=
  (store.leases.lookup nodeId).filter fun lease =>
    wallTimeMillis moment.systemTime < lease.expiresAtUnixMs

/-- Store a lease under the next revision. -/
def insertLease (moment : Moment) (store : TestCoordinationStore) (node : NodeRecord)
    (ttl : Nat) : Except CoordinationErrorKind (MutationOutcome Revision) × TestCoordinationStore :=
  let (revision, store) := store.next
  (.ok (.applied revision),
    { store with leases := store.leases.insert node.nodeId ⟨node, revision, expiry moment ttl⟩ })

/-- Whether a lease is stored under this revision. -/
def holdsLease (store : TestCoordinationStore) (nodeId : String) (revision : Revision) : Bool :=
  (store.leases.lookup nodeId).any fun lease => lease.revision == revision

def acquireNode (node : NodeRecord) (ttl : Nat) :
    StoreMethod TestCoordinationStore (MutationOutcome Revision) := fun moment store =>
  if (store.leases.lookup node.nodeId).any fun lease =>
      wallTimeMillis moment.systemTime < lease.expiresAtUnixMs then (.ok .conflict, store)
  else store.insertLease moment node ttl

def renewNode (node : NodeRecord) (ttl : Nat) (revision : Revision) :
    StoreMethod TestCoordinationStore (MutationOutcome Revision) := fun moment store =>
  if !store.holdsLease node.nodeId revision then (.ok .conflict, store)
  else store.insertLease moment node ttl

def releaseNode (nodeId : String) (revision : Revision) :
    StoreMethod TestCoordinationStore (MutationOutcome Unit) := fun _ store =>
  if !store.holdsLease nodeId revision then (.ok .conflict, store)
  else (.ok (.applied ()), { store with leases := store.leases.erase nodeId })

/-- The `matches` of `compare_exchange_actor_owner`. -/
def admitsOwner (store : TestCoordinationStore) (address : ActorAddress) :
    Option Revision → Bool
  | none => (store.owners.lookup address).isNone
  | some revision => (store.owners.lookup address).any fun current => current.revision == revision

def compareExchangeActorOwner (address : ActorAddress) (record : ActorOwnerRecord)
    (revision : Option Revision) :
    StoreMethod TestCoordinationStore (MutationOutcome Revision) := fun _ store =>
  if !store.admitsOwner address revision then (.ok .conflict, store)
  else
    let (next, store) := store.next
    (.ok (.applied next), { store with owners := store.owners.insert address ⟨record, next⟩ })

/-- The trait methods of `TestCoordinationStore`. -/
def methods : CoordinationStore TestCoordinationStore where
  readNode := fun nodeId moment store =>
    (.ok ((store.live moment nodeId).map TestNodeLease.node), store)
  listNodes := fun moment store =>
    (.ok ((store.leases.entries.map Sigma.snd).filter
      (fun lease => wallTimeMillis moment.systemTime < lease.expiresAtUnixMs) |>.map
        TestNodeLease.node), store)
  readNodeLease := fun nodeId moment store =>
    (.ok ((store.live moment nodeId).map fun lease => (lease.node, lease.revision)), store)
  acquireNode := acquireNode
  renewNode := renewNode
  releaseNode := releaseNode
  readActorOwner := fun address _ store => (.ok (store.owners.lookup address), store)
  compareExchangeActorOwner := compareExchangeActorOwner

end TestCoordinationStore

end Coactor.Coordination
