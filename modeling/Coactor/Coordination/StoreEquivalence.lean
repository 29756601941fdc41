import Coactor.Coordination.S3Store
import Coactor.Coordination.TestStore

/-!
# The S3 store and the test store answer alike

Both stores are driven by one sequence of operations.  Writes are counted on
both sides, so the revisions that one write gives belong together, and under
every key the two stores hold the same record with such revisions.
-/

namespace Coactor.Coordination

open S3CoordinationStore

variable {Bytes : Type} {store : S3CoordinationStore Bytes}

/-! ## Related states -/

/-- The revisions that one write gets from the two stores. -/
def PairedRevisions (service : S3Service) (first second : Revision) : Prop :=
  ∃ write, first = ⟨service.eTag write⟩ ∧ second = testRevision (write + 1)

structure LeaseRelated (store : S3CoordinationStore Bytes) (nodeId : String)
    (object : S3Object Bytes) (lease : TestNodeLease) : Prop where
  revision : PairedRevisions store.service ⟨object.eTag⟩ lease.revision
  body : (store.text.fromSlice object.body).bind StoredNodeLease.ofJson =
    some ⟨{ lease.node with nodeId := "" }, lease.expiresAtUnixMs⟩
  nodeId : lease.node.nodeId = nodeId

structure OwnerRelated (store : S3CoordinationStore Bytes) (object : S3Object Bytes)
    (current : VersionedActorOwnerRecord) : Prop where
  revision : PairedRevisions store.service ⟨object.eTag⟩ current.revision
  body : (store.text.fromSlice object.body).bind ActorOwnerRecord.ofJson = some current.record

/-- The stores have seen the same writes, and nothing in the directory cache
is used after this instant. -/
structure Equivalent (store : S3CoordinationStore Bytes) (instant : Nat)
    (state : S3State Bytes) (test : TestCoordinationStore) : Prop where
  puts : state.bucket.puts = test.nextRevision
  leases : ∀ nodeId, Option.Rel (LeaseRelated store nodeId)
    (state.bucket.objects.lookup (nodeKey store.keyPrefix nodeId)) (test.leases.lookup nodeId)
  owners : ∀ address, Option.Rel (OwnerRelated store)
    (state.bucket.objects.lookup (actorKey store.keyPrefix address)) (test.owners.lookup address)
  listable : ∀ nodeId lease, test.leases.lookup nodeId = some lease → ListableId nodeId
  cache : ∀ refreshAt, state.directoryCache.refreshAt = some refreshAt → refreshAt ≤ instant

theorem equivalent_empty : Equivalent store 0 .empty .empty where
  puts := rfl
  leases := fun _ => .none
  owners := fun _ => .none
  listable := by
    intro nodeId lease found
    cases found
  cache := by
    intro refreshAt found
    cases found

theorem Equivalent.mono {instant later : Nat} {state : S3State Bytes}
    {test : TestCoordinationStore} (equivalent : Equivalent store instant state test)
    (passed : instant ≤ later) : Equivalent store later state test :=
  { equivalent with
    cache := fun refreshAt found => (equivalent.cache refreshAt found).trans passed }

theorem PairedRevisions.eq_iff {service : S3Service} {first second first' second' : Revision}
    (paired : PairedRevisions service first second)
    (paired' : PairedRevisions service first' second') : first = first' ↔ second = second' := by
  obtain ⟨write, rfl, rfl⟩ := paired
  obtain ⟨write', rfl, rfl⟩ := paired'
  constructor
  · intro same
    rw [service.fresh (Revision.mk.inj same)]
  · intro same
    rw [Nat.succ.inj (testRevision_injective same)]

theorem rel_cases {First Second : Type} {related : First → Second → Prop}
    {first : Option First} {second : Option Second} (rel : Option.Rel related first second) :
    (first = none ∧ second = none) ∨
      ∃ a b, first = some a ∧ second = some b ∧ related a b := by
  cases rel with
  | none => exact .inl ⟨rfl, rfl⟩
  | some holds => exact .inr ⟨_, _, rfl, rfl, holds⟩

theorem rel_map {First Second First' Second' : Type} {related : First → Second → Prop}
    {related' : First' → Second' → Prop} {first : Option First} {second : Option Second}
    {f : First → First'} {g : Second → Second'} (rel : Option.Rel related first second)
    (maps : ∀ a b, related a b → related' (f a) (g b)) :
    Option.Rel related' (first.map f) (second.map g) := by
  cases rel with
  | none => exact .none
  | some holds => exact .some (maps _ _ holds)

/-! ## Reading -/

theorem readKey_absent {Value : Type} {decode : Json → Option Value} {bucket : Bucket Bytes}
    {key : ObjectKey} (absent : bucket.objects.lookup key = none) :
    store.readKey decode bucket key = .ok none := by
  simp [readKey, Bucket.getObject, absent]

theorem readKey_present {Value : Type} {decode : Json → Option Value} {bucket : Bucket Bytes}
    {key : ObjectKey} {object : S3Object Bytes} {value : Value}
    (present : bucket.objects.lookup key = some object)
    (decoded : (store.text.fromSlice object.body).bind decode = some value) :
    store.readKey decode bucket key = .ok (some (value, ⟨object.eTag⟩)) := by
  simp [readKey, Bucket.getObject, present, decoded]

namespace Equivalent

variable {instant : Nat} {state : S3State Bytes} {test : TestCoordinationStore}

/-- `read_node_key` finds the lease of the test store. -/
theorem readNodeKey (equivalent : Equivalent store instant state test) (moment : Moment)
    (nodeId : String) (includeExpired : Bool) :
    (test.leases.lookup nodeId = none ∧
      store.readNodeKey moment state.bucket nodeId includeExpired = .ok none) ∨
    ∃ object lease, state.bucket.objects.lookup (nodeKey store.keyPrefix nodeId) = some object ∧
      test.leases.lookup nodeId = some lease ∧ LeaseRelated store nodeId object lease ∧
      store.readNodeKey moment state.bucket nodeId includeExpired =
        if !includeExpired && decide
            (lease.expiresAtUnixMs ≤ wallTimeMillis moment.systemTime) then .ok none
        else .ok (some (lease.node, ⟨object.eTag⟩, lease.expiresAtUnixMs)) := by
  unfold S3CoordinationStore.readNodeKey
  rcases rel_cases (equivalent.leases nodeId) with
    ⟨absent, unheld⟩ | ⟨object, lease, stored, held, related⟩
  · exact .inl ⟨unheld, by rw [readKey_absent absent]⟩
  · have named := related.nodeId
    refine .inr ⟨object, lease, stored, held, related, ?_⟩
    rw [readKey_present stored related.body]
    subst named
    rfl

/-- A read that leaves out expired leases. -/
theorem readNodeKey_live (equivalent : Equivalent store instant state test) (moment : Moment)
    (nodeId : String) :
    ∃ found, store.readNodeKey moment state.bucket nodeId false = .ok found ∧
      Option.Rel (fun read lease => read.1 = lease.node ∧
        PairedRevisions store.service read.2.1 lease.revision) found (test.live moment nodeId) := by
  rcases equivalent.readNodeKey moment nodeId false with
    ⟨unheld, read⟩ | ⟨object, lease, -, held, related, read⟩
  · refine ⟨none, read, ?_⟩
    simp [TestCoordinationStore.live, unheld]
  · by_cases expired : lease.expiresAtUnixMs ≤ wallTimeMillis moment.systemTime
    · refine ⟨none, by simpa [expired] using read, ?_⟩
      simp [TestCoordinationStore.live, held, Option.filter, Nat.not_lt.mpr expired]
    · refine ⟨some (lease.node, ⟨object.eTag⟩, lease.expiresAtUnixMs),
        by simpa [expired] using read, ?_⟩
      simp [TestCoordinationStore.live, held, Option.filter, Nat.lt_of_not_le expired,
        related.revision]

theorem readActorKey (equivalent : Equivalent store instant state test)
    (address : ActorAddress) :
    ∃ found, store.readActorKey state.bucket address = .ok found ∧
      Option.Rel (fun read current => read.record = current.record ∧
        PairedRevisions store.service read.revision current.revision)
        found (test.owners.lookup address) := by
  unfold S3CoordinationStore.readActorKey
  rcases rel_cases (equivalent.owners address) with
    ⟨absent, unheld⟩ | ⟨object, current, stored, held, related⟩
  · exact ⟨none, by rw [readKey_absent absent], by rw [unheld]; exact .none⟩
  · refine ⟨some ⟨current.record, ⟨object.eTag⟩⟩, ?_, ?_⟩
    · rw [readKey_present stored related.body]
    · rw [held]
      exact .some ⟨rfl, related.revision⟩

end Equivalent

/-! ## Listing -/

/-- The node `fetch_nodes` takes from a listed key when its reads find these. -/
def listedNode (keyPrefix : ObjectKey) (found : String → Option NodeRecord)
    (key : ObjectKey) : Option NodeRecord :=
  (listedNodeId keyPrefix key).bind found

section

variable {moment : Moment} {bucket : Bucket Bytes}
  {found : String → Option (NodeRecord × Revision × Nat)}

theorem fetchPage_eq
    (reads : ∀ nodeId, store.readNodeKey moment bucket nodeId false = .ok (found nodeId))
    (keys : List ObjectKey) (nodes : List NodeRecord) :
    store.fetchPage moment bucket nodes (keys.map some) = .ok (nodes ++
      keys.filterMap (listedNode store.keyPrefix fun nodeId => (found nodeId).map Prod.fst)) := by
  induction keys generalizing nodes with
  | nil => simp [fetchPage]
  | cons key rest recurse =>
      rw [List.map_cons, fetchPage, List.filterMap_cons]
      cases listed : listedNodeId store.keyPrefix key with
      | none => simp [listedNode, listed, recurse]
      | some nodeId =>
          simp only [reads]
          rcases read : found nodeId with _ | ⟨node, revision, expiresAt⟩
          · simp [listedNode, listed, read, recurse]
          · simp [listedNode, listed, read, recurse]

theorem fetchPages_eq
    (reads : ∀ nodeId, store.readNodeKey moment bucket nodeId false = .ok (found nodeId))
    (pages : List (List ObjectKey)) (nodes : List NodeRecord) (nonempty : pages ≠ []) :
    store.fetchPages moment bucket nodes (Bucket.answers pages) = .ok (nodes ++
      pages.flatten.filterMap
        (listedNode store.keyPrefix fun nodeId => (found nodeId).map Prod.fst)) := by
  induction pages using Bucket.answers.induct generalizing nodes with
  | case1 => exact absurd rfl nonempty
  | case2 keys =>
      simp [Bucket.answers, fetchPages, fetchPage_eq reads]
  | case3 keys next rest recurse =>
      simp [Bucket.answers, fetchPages, fetchPage_eq reads, recurse]

end

namespace Equivalent

variable {instant : Nat} {state : S3State Bytes} {test : TestCoordinationStore}

/-- The listed node ids are those with a lease in the test store. -/
theorem listed_perm (equivalent : Equivalent store instant state test) :
    (state.bucket.objects.keys.filterMap (listedNodeId store.keyPrefix)).Perm
      test.leases.keys := by
  have distinct : (state.bucket.objects.keys.filterMap (listedNodeId store.keyPrefix)).Nodup := by
    refine state.bucket.objects.keys_nodup.filterMap ?_
    intro first second nodeId inFirst inSecond
    rw [(listedNodeId_eq_some.mp inFirst).1, (listedNodeId_eq_some.mp inSecond).1]
  rw [List.perm_ext_iff_of_nodup distinct test.leases.keys_nodup]
  intro nodeId
  simp only [List.mem_filterMap, listedNodeId_eq_some, ← AList.mem_keys, ← AList.lookup_isSome]
  rcases rel_cases (equivalent.leases nodeId) with
    ⟨absent, unheld⟩ | ⟨object, lease, stored, held, -⟩
  · simp only [unheld, Option.isSome_none, Bool.false_eq_true, iff_false]
    rintro ⟨key, present, rfl, -⟩
    rw [absent] at present
    cases present
  · simp only [held, Option.isSome_some, iff_true]
    refine ⟨_, ?_, rfl, equivalent.listable nodeId lease held⟩
    rw [stored]
    rfl

/-- The keys under `nodes/` are all that `fetch_nodes` can use. -/
theorem filterMap_listed (keys : List ObjectKey) (keyPrefix : ObjectKey)
    (found : String → Option NodeRecord) :
    (keys.filter fun key => (nodesPrefix keyPrefix).isPrefixOf key).filterMap
        (listedNode keyPrefix found) =
      (keys.filterMap (listedNodeId keyPrefix)).filterMap found := by
  rw [List.filterMap_filter, List.filterMap_filterMap]
  refine List.filterMap_congr fun key _ => ?_
  unfold listedNode
  cases listed : listedNodeId keyPrefix key with
  | none => simp
  | some nodeId =>
      obtain ⟨rfl, -⟩ := listedNodeId_eq_some.mp listed
      rw [nodeKey_eq]
      simp

/-- The records that the test store lists, by node id. -/
theorem listed_test (moment : Moment) (test : TestCoordinationStore) :
    (((test.leases.entries.map Sigma.snd).filter
      fun lease => wallTimeMillis moment.systemTime < lease.expiresAtUnixMs).map
        TestNodeLease.node) =
      test.leases.keys.filterMap fun nodeId =>
        (test.live moment nodeId).map TestNodeLease.node := by
  rw [← List.filterMap_eq_map, List.filterMap_filter, AList.keys, List.keys, List.filterMap_map,
    List.filterMap_map]
  refine List.filterMap_congr fun entry present => ?_
  have held : test.leases.lookup entry.1 = some entry.2 := AList.mem_lookup_iff.mpr present
  by_cases live : wallTimeMillis moment.systemTime < entry.2.expiresAtUnixMs
  · simp [TestCoordinationStore.live, held, Option.filter, live]
  · simp [TestCoordinationStore.live, held, Option.filter, live]

theorem fetchNodes (equivalent : Equivalent store instant state test) (moment : Moment) :
    ∃ nodes, store.fetchNodes moment state.bucket = .ok nodes ∧
      nodes.Perm (test.leases.keys.filterMap fun nodeId =>
        (test.live moment nodeId).map TestNodeLease.node) := by
  choose found reads related using equivalent.readNodeKey_live moment
  have records : (fun nodeId => (found nodeId).map Prod.fst) =
      fun nodeId => (test.live moment nodeId).map TestNodeLease.node := by
    funext nodeId
    rcases rel_cases (related nodeId) with ⟨absent, dead⟩ | ⟨read, lease, present, live, same, -⟩
    · rw [absent, dead]
      rfl
    · rw [present, live]
      exact congrArg some same
  refine ⟨_, by
    rw [S3CoordinationStore.fetchNodes, Bucket.listObjects,
      fetchPages_eq reads _ _ (store.service.pages_ne_nil _)]
    rfl, ?_⟩
  refine (List.perm_insertionSort _ _).trans (((store.service.pages_perm _).filterMap _).trans ?_)
  rw [filterMap_listed, records]
  exact equivalent.listed_perm.filterMap _

end Equivalent

/-! ## Writing -/

section

variable {state : S3State Bytes} {key : ObjectKey} {body : Json} {revision : Option Revision}

theorem putKey_admitted (admitted : state.bucket.admits key (precondition revision) = true) :
    store.putKey state key body revision =
      (.ok (.applied ⟨store.service.eTag state.bucket.puts⟩),
        { state with
          bucket.objects := state.bucket.objects.insert key
            ⟨store.service.eTag state.bucket.puts, store.text.toVec body⟩
          bucket.puts := state.bucket.puts + 1 }) := by
  simp [putKey, Bucket.putObject, admitted]

theorem putKey_refused (refused : state.bucket.admits key (precondition revision) = false) :
    store.putKey state key body revision = (.ok .conflict, state) := by
  simp [putKey, Bucket.putObject, refused, Bucket.preconditionFailed, classifyWriteError]

/-- A revision matches in both stores or in neither. -/
theorem admits_ifMatch {Held : Type} {held : Option Held} {revisionOf : Held → Revision}
    {related : S3Object Bytes → Held → Prop}
    (lookup : Option.Rel related (state.bucket.objects.lookup key) held)
    (revisions : ∀ object value, related object value →
      PairedRevisions store.service ⟨object.eTag⟩ (revisionOf value))
    {first second : Revision} (paired : PairedRevisions store.service first second) :
    state.bucket.admits key (precondition (some first)) =
      held.any fun value => revisionOf value == second := by
  rcases rel_cases lookup with ⟨absent, unheld⟩ | ⟨object, value, stored, found, holds⟩
  · simp [Bucket.admits, precondition, absent, unheld]
  · have same := (revisions object value holds).eq_iff paired
    have texts : object.eTag = first.value ↔ (⟨object.eTag⟩ : Revision) = first := by
      cases first
      simp
    rw [Bool.eq_iff_iff]
    simp [Bucket.admits, precondition, stored, found, texts, same]

end

namespace Equivalent

variable {instant : Nat} {state : S3State Bytes} {test : TestCoordinationStore}

theorem insert_lease (equivalent : Equivalent store instant state test) {nodeId : String}
    {object : S3Object Bytes} {lease : TestNodeLease} (listable : ListableId nodeId)
    (related : LeaseRelated store nodeId object lease) :
    Equivalent store instant
      { state with
        bucket.objects := state.bucket.objects.insert (nodeKey store.keyPrefix nodeId) object
        bucket.puts := state.bucket.puts + 1 }
      { test with
        leases := test.leases.insert nodeId lease
        nextRevision := test.nextRevision + 1 } where
  puts := congrArg (· + 1) equivalent.puts
  leases := by
    intro other
    by_cases same : other = nodeId
    · subst same
      simpa using related
    · have keys : nodeKey store.keyPrefix other ≠ nodeKey store.keyPrefix nodeId :=
        fun clash => same (nodeKey_injective clash)
      rw [AList.lookup_insert_ne keys, AList.lookup_insert_ne same]
      exact equivalent.leases other
  owners := by
    intro address
    rw [AList.lookup_insert_ne (nodeKey_ne_actorKey nodeId address).symm]
    exact equivalent.owners address
  listable := by
    intro other found held
    by_cases same : other = nodeId
    · rw [same]
      exact listable
    · rw [AList.lookup_insert_ne same] at held
      exact equivalent.listable other found held
  cache := equivalent.cache

theorem erase_lease (equivalent : Equivalent store instant state test) (nodeId : String) :
    Equivalent store instant
      { state with
        bucket.objects := state.bucket.objects.erase (nodeKey store.keyPrefix nodeId) }
      { test with leases := test.leases.erase nodeId } where
  puts := equivalent.puts
  leases := by
    intro other
    by_cases same : other = nodeId
    · subst same
      simp
    · have keys : nodeKey store.keyPrefix other ≠ nodeKey store.keyPrefix nodeId :=
        fun clash => same (nodeKey_injective clash)
      rw [AList.lookup_erase_ne keys, AList.lookup_erase_ne same]
      exact equivalent.leases other
  owners := by
    intro address
    rw [AList.lookup_erase_ne (nodeKey_ne_actorKey nodeId address).symm]
    exact equivalent.owners address
  listable := by
    intro other found held
    by_cases same : other = nodeId
    · subst same
      simp at held
    · rw [AList.lookup_erase_ne same] at held
      exact equivalent.listable other found held
  cache := equivalent.cache

theorem insert_owner (equivalent : Equivalent store instant state test) {address : ActorAddress}
    {object : S3Object Bytes} {current : VersionedActorOwnerRecord}
    (related : OwnerRelated store object current) :
    Equivalent store instant
      { state with
        bucket.objects := state.bucket.objects.insert (actorKey store.keyPrefix address) object
        bucket.puts := state.bucket.puts + 1 }
      { test with
        owners := test.owners.insert address current
        nextRevision := test.nextRevision + 1 } where
  puts := congrArg (· + 1) equivalent.puts
  leases := by
    intro nodeId
    rw [AList.lookup_insert_ne (nodeKey_ne_actorKey nodeId address)]
    exact equivalent.leases nodeId
  owners := by
    intro other
    by_cases same : other = address
    · subst same
      simpa using related
    · have keys : actorKey store.keyPrefix other ≠ actorKey store.keyPrefix address :=
        fun clash => same (actorKey_injective clash)
      rw [AList.lookup_insert_ne keys, AList.lookup_insert_ne same]
      exact equivalent.owners other
  listable := equivalent.listable
  cache := equivalent.cache

end Equivalent

/-! ## One operation -/

/-- Two answers to one operation, and the states they leave. -/
structure Answered (store : S3CoordinationStore Bytes) (instant : Nat)
    (first : StoreResult × S3State Bytes) (second : StoreResult × TestCoordinationStore) :
    Prop where
  agrees : first.1.Agrees second.1
  revisions : Option.Rel (PairedRevisions store.service) first.1.revision? second.1.revision?
  states : Equivalent store instant first.2 second.2

/-- One operation with the revisions of two stores. -/
inductive SameOperation (service : S3Service) :
    StoreOperation Revision → StoreOperation Revision → Prop
  | readNode {nodeId} : SameOperation service (.readNode nodeId) (.readNode nodeId)
  | listNodes : SameOperation service .listNodes .listNodes
  | readNodeLease {nodeId} : SameOperation service (.readNodeLease nodeId) (.readNodeLease nodeId)
  | acquireNode {node ttl} :
      SameOperation service (.acquireNode node ttl) (.acquireNode node ttl)
  | renewNode {node ttl first second} (paired : PairedRevisions service first second) :
      SameOperation service (.renewNode node ttl first) (.renewNode node ttl second)
  | releaseNode {nodeId first second} (paired : PairedRevisions service first second) :
      SameOperation service (.releaseNode nodeId first) (.releaseNode nodeId second)
  | readActorOwner {address} :
      SameOperation service (.readActorOwner address) (.readActorOwner address)
  | createActorOwner {address record} :
      SameOperation service (.compareExchangeActorOwner address record none)
        (.compareExchangeActorOwner address record none)
  | compareExchangeActorOwner {address record first second}
      (paired : PairedRevisions service first second) :
      SameOperation service (.compareExchangeActorOwner address record (some first))
        (.compareExchangeActorOwner address record (some second))
  | releaseActorOwner {address record first second}
      (paired : PairedRevisions service first second) :
      SameOperation service (.releaseActorOwner address record first)
        (.releaseActorOwner address record second)

/-- A conflict in both stores. -/
theorem answered_conflict {instant : Nat} {state : S3State Bytes} {test : TestCoordinationStore}
    (equivalent : Equivalent store instant state test) :
    Answered store instant (.written (.ok .conflict), state) (.written (.ok .conflict), test) :=
  ⟨rfl, .none, equivalent⟩

namespace Equivalent

variable {instant : Nat} {state : S3State Bytes} {test : TestCoordinationStore}

/-- The next write gets revisions that belong together. -/
theorem paired_next (equivalent : Equivalent store instant state test) :
    PairedRevisions store.service ⟨store.service.eTag state.bucket.puts⟩
      (testRevision (test.nextRevision + 1)) :=
  ⟨state.bucket.puts, rfl, by rw [equivalent.puts]⟩

/-- An expiry that fits is computed alike. -/
theorem expiry_eq {moment : Moment} {ttl : Nat} {node : NodeRecord}
    (fits : wallTimeMillis moment.systemTime + ttl ≤ u64Max) :
    TestCoordinationStore.expiry moment ttl =
      (putNode node ttl moment.systemTime).expiresAtUnixMs := by
  simp only [TestCoordinationStore.expiry, putNode, saturatingAdd]
  rw [Nat.mod_eq_of_lt (by omega : ttl < u64Max + 1), Nat.mod_eq_of_lt (by omega)]
  omega

/-- A lease written in both stores. -/
theorem answered_putNode (equivalent : Equivalent store instant state test) {moment : Moment}
    {node : NodeRecord} {ttl : Nat} {revision : Option Revision}
    (listable : ListableId node.nodeId)
    (fits : wallTimeMillis moment.systemTime + ttl ≤ u64Max)
    (admitted : state.bucket.admits (nodeKey store.keyPrefix node.nodeId)
      (precondition revision) = true) :
    Answered store instant ((store.putNodeKey moment state node ttl revision).map .written id)
      ((test.insertLease moment node ttl).map .written id) := by
  rw [putNodeKey, putKey_admitted admitted]
  refine ⟨rfl, .some equivalent.paired_next, equivalent.insert_lease listable ⟨?_, ?_, rfl⟩⟩
  · exact equivalent.paired_next
  · simp only [store.text.fromSlice_toVec, Option.bind_some, StoredNodeLease.ofJson_toJson]
    rw [← expiry_eq fits]
    rfl

theorem answered_listNodes (equivalent : Equivalent store instant state test)
    (uncached : store.directoryRefreshInterval = 0) {moment : Moment}
    (passed : instant ≤ moment.instant) :
    Answered store moment.instant ((store.listNodes moment state).map .nodes id)
      ((TestCoordinationStore.methods.listNodes moment test).map .nodes id) := by
  have stale : (state.directoryCache.refreshAt.any fun refreshAt =>
      decide (moment.instant < refreshAt)) = false := by
    cases cached : state.directoryCache.refreshAt with
    | none => rfl
    | some refreshAt =>
        have bound := equivalent.cache refreshAt cached
        simp only [Option.any_some, decide_eq_false_iff_not]
        omega
  obtain ⟨nodes, fetched, perm⟩ := equivalent.fetchNodes moment
  simp only [S3CoordinationStore.listNodes, stale, fetched, Bool.false_eq_true, if_false,
    TestCoordinationStore.methods, listed_test]
  refine ⟨perm, .none, { equivalent.mono passed with cache := ?_ }⟩
  intro refreshAt found
  obtain rfl := Option.some.inj found
  simp [mulThousandths, uncached]

theorem answered_acquireNode (equivalent : Equivalent store instant state test)
    {moment : Moment} {node : NodeRecord} {ttl : Nat} (listable : ListableId node.nodeId)
    (fits : wallTimeMillis moment.systemTime + ttl ≤ u64Max) :
    Answered store instant ((store.acquireNode node ttl moment state).map .written id)
      ((TestCoordinationStore.acquireNode node ttl moment test).map .written id) := by
  rcases equivalent.readNodeKey moment node.nodeId true with
    ⟨unheld, read⟩ | ⟨object, lease, stored, held, related, read⟩
  · have absent : state.bucket.objects.lookup (nodeKey store.keyPrefix node.nodeId) = none := by
      rcases rel_cases (equivalent.leases node.nodeId) with ⟨absent, -⟩ | ⟨_, _, -, held, -⟩
      · exact absent
      · rw [unheld] at held
        cases held
    simp only [S3CoordinationStore.acquireNode, read, TestCoordinationStore.acquireNode, unheld,
      Option.any_none, Bool.false_eq_true, if_false]
    exact equivalent.answered_putNode listable fits (by simp [Bucket.admits, precondition, absent])
  · by_cases expired : lease.expiresAtUnixMs ≤ wallTimeMillis moment.systemTime
    · have dead : ¬ wallTimeMillis moment.systemTime < lease.expiresAtUnixMs := by omega
      simp only [S3CoordinationStore.acquireNode, read, TestCoordinationStore.acquireNode, held,
        Option.any_some, dead, decide_false, Bool.not_true, Bool.false_and, Bool.false_eq_true,
        if_false, expired, if_true]
      exact equivalent.answered_putNode listable fits
        (by simp [Bucket.admits, precondition, stored])
    · have live : wallTimeMillis moment.systemTime < lease.expiresAtUnixMs := by omega
      simp only [S3CoordinationStore.acquireNode, read, TestCoordinationStore.acquireNode, held,
        Option.any_some, live, decide_true, Bool.not_true, Bool.false_and, Bool.false_eq_true,
        if_false, expired, if_true]
      exact answered_conflict equivalent

theorem answered_renewNode (equivalent : Equivalent store instant state test)
    {moment : Moment} {node : NodeRecord} {ttl : Nat} {first second : Revision}
    (listable : ListableId node.nodeId)
    (fits : wallTimeMillis moment.systemTime + ttl ≤ u64Max)
    (paired : PairedRevisions store.service first second) :
    Answered store instant ((store.putNodeKey moment state node ttl (some first)).map .written id)
      ((TestCoordinationStore.renewNode node ttl second moment test).map .written id) := by
  have admits : state.bucket.admits (nodeKey store.keyPrefix node.nodeId)
      (precondition (some first)) = test.holdsLease node.nodeId second :=
    admits_ifMatch (equivalent.leases node.nodeId) (fun _ _ related => related.revision) paired
  rw [TestCoordinationStore.renewNode]
  cases matched : test.holdsLease node.nodeId second with
  | false =>
      rw [putNodeKey, putKey_refused (admits.trans matched)]
      exact answered_conflict equivalent
  | true => exact equivalent.answered_putNode listable fits (admits.trans matched)

theorem answered_releaseNode (equivalent : Equivalent store instant state test)
    (moment : Moment) {nodeId : String} {first second : Revision}
    (paired : PairedRevisions store.service first second) :
    Answered store instant ((store.releaseNode nodeId first moment state).map .released id)
      ((TestCoordinationStore.releaseNode nodeId second moment test).map .released id) := by
  have admits : state.bucket.admits (nodeKey store.keyPrefix nodeId)
      (.ifMatch first.value) = test.holdsLease nodeId second :=
    admits_ifMatch (equivalent.leases nodeId) (fun _ _ related => related.revision) paired
  rw [TestCoordinationStore.releaseNode, S3CoordinationStore.releaseNode, Bucket.deleteObject,
    admits]
  cases matched : test.holdsLease nodeId second with
  | false => exact ⟨rfl, .none, equivalent⟩
  | true => exact ⟨rfl, .none, equivalent.erase_lease nodeId⟩

/-- An owner record written in both stores, or refused by both. -/
theorem answered_compareExchange (equivalent : Equivalent store instant state test)
    (moment : Moment) {address : ActorAddress} {record : ActorOwnerRecord}
    {first second : Option Revision}
    (paired : Option.Rel (PairedRevisions store.service) first second) :
    Answered store instant
      ((store.putKey state (actorKey store.keyPrefix address) record.toJson first).map .written id)
      ((TestCoordinationStore.compareExchangeActorOwner address record second moment test).map
        .written id) := by
  have admits : state.bucket.admits (actorKey store.keyPrefix address) (precondition first) =
      test.admitsOwner address second := by
    cases paired with
    | none =>
        rcases rel_cases (equivalent.owners address) with ⟨absent, unheld⟩ | ⟨_, _, stored, held, -⟩
        · simp [Bucket.admits, precondition, TestCoordinationStore.admitsOwner, absent, unheld]
        · simp [Bucket.admits, precondition, TestCoordinationStore.admitsOwner, stored, held]
    | some paired =>
        exact admits_ifMatch (equivalent.owners address)
          (fun _ _ related => related.revision) paired
  rw [TestCoordinationStore.compareExchangeActorOwner, ← admits]
  cases matched : state.bucket.admits (actorKey store.keyPrefix address) (precondition first) with
  | false =>
      rw [putKey_refused matched]
      exact answered_conflict equivalent
  | true =>
      rw [putKey_admitted matched]
      refine ⟨rfl, .some equivalent.paired_next, equivalent.insert_owner ⟨?_, ?_⟩⟩
      · exact equivalent.paired_next
      · simp only [store.text.fromSlice_toVec, Option.bind_some, ActorOwnerRecord.ofJson_toJson]

/-- One operation is answered alike. -/
theorem answered (equivalent : Equivalent store instant state test)
    (uncached : store.directoryRefreshInterval = 0) {moment : Moment}
    (passed : instant ≤ moment.instant) {first second : StoreOperation Revision}
    (same : SameOperation store.service first second) (fits : second.Fits moment) :
    Answered store moment.instant (store.methods.perform moment state first)
      (TestCoordinationStore.methods.perform moment test second) := by
  have now := equivalent.mono passed
  cases same with
  | @readNode nodeId =>
      obtain ⟨found, read, related⟩ := now.readNodeKey_live moment nodeId
      refine ⟨?_, ?_, now⟩
      · simp only [CoordinationStore.perform, methods, read, TestCoordinationStore.methods]
        rcases rel_cases related with ⟨absent, dead⟩ | ⟨_, _, present, live, record, -⟩
        · simp [absent, dead, StoreResult.Agrees, Except.map]
        · simp [present, live, record, StoreResult.Agrees, Except.map]
      · simp only [CoordinationStore.perform, methods, read, TestCoordinationStore.methods]
        exact .none
  | listNodes => exact equivalent.answered_listNodes uncached passed
  | @readNodeLease nodeId =>
      obtain ⟨found, read, related⟩ := now.readNodeKey_live moment nodeId
      simp only [CoordinationStore.perform, methods, read, TestCoordinationStore.methods]
      rcases rel_cases related with ⟨absent, dead⟩ | ⟨_, _, present, live, record, paired⟩
      · rw [absent, dead]
        exact ⟨rfl, .none, now⟩
      · rw [present, live]
        refine ⟨?_, .some paired, now⟩
        simp [record, StoreResult.Agrees, Except.map]
  | acquireNode => exact now.answered_acquireNode fits.1 fits.2
  | renewNode paired => exact now.answered_renewNode fits.1 fits.2 paired
  | releaseNode paired => exact now.answered_releaseNode moment paired
  | @readActorOwner address =>
      obtain ⟨found, read, related⟩ := now.readActorKey address
      simp only [CoordinationStore.perform, methods, read, TestCoordinationStore.methods]
      rcases rel_cases related with ⟨absent, unheld⟩ | ⟨_, _, present, held, record, paired⟩
      · rw [absent, unheld]
        exact ⟨rfl, .none, now⟩
      · rw [present, held]
        refine ⟨?_, .some paired, now⟩
        simp [record, StoreResult.Agrees, Except.map]
  | createActorOwner => exact now.answered_compareExchange moment .none
  | compareExchangeActorOwner paired => exact now.answered_compareExchange moment (.some paired)
  | releaseActorOwner paired => exact now.answered_compareExchange moment (.some paired)

end Equivalent

/-! ## A sequence of operations -/

theorem resolve_same {service : S3Service} {first second : Nat → Option Revision}
    (found : ∀ token, Option.Rel (PairedRevisions service) (first token) (second token))
    (operation : StoreOperation Nat) :
    Option.Rel (SameOperation service) (operation.resolve first) (operation.resolve second) := by
  cases operation with
  | readNode nodeId => exact .some .readNode
  | listNodes => exact .some .listNodes
  | readNodeLease nodeId => exact .some .readNodeLease
  | acquireNode node ttl => exact .some .acquireNode
  | renewNode node ttl token => exact rel_map (found token) fun _ _ => .renewNode
  | releaseNode nodeId token => exact rel_map (found token) fun _ _ => .releaseNode
  | readActorOwner address => exact .some .readActorOwner
  | compareExchangeActorOwner address record revision =>
      cases revision with
      | none => exact .some .createActorOwner
      | some token => exact rel_map (found token) fun _ _ => .compareExchangeActorOwner
  | releaseActorOwner address record token => exact rel_map (found token) fun _ _ => .releaseActorOwner

theorem rel_getElem? {First Second : Type} {related : First → Second → Prop}
    {first : List First} {second : List Second} (rel : List.Forall₂ related first second)
    (index : Nat) : Option.Rel related first[index]? second[index]? := by
  induction rel generalizing index with
  | nil => exact .none
  | cons head _ recurse =>
      cases index with
      | zero => exact .some head
      | succ index => exact recurse index

/-- Tokens are resolved alike when the earlier results carry revisions that
belong together. -/
theorem found_paired {service : S3Service} {first second : List StoreResult}
    (earlier : List.Forall₂ (fun result result' =>
      Option.Rel (PairedRevisions service) result.revision? result'.revision?) first second)
    (token : Nat) :
    Option.Rel (PairedRevisions service) (first[token]?.bind StoreResult.revision?)
      (second[token]?.bind StoreResult.revision?) := by
  rcases rel_cases (rel_getElem? earlier token) with
    ⟨none₁, none₂⟩ | ⟨_, _, some₁, some₂, related⟩
  · rw [none₁, none₂]
    exact .none
  · rw [some₁, some₂]
    exact related

theorem fits_of_resolve {moment : Moment} {operation : StoreOperation Nat}
    {find : Nat → Option Revision} {resolved : StoreOperation Revision}
    (found : operation.resolve find = some resolved) (fits : operation.Fits moment) :
    resolved.Fits moment := by
  cases operation with
  | readNode nodeId | listNodes | readNodeLease nodeId | acquireNode node ttl
  | readActorOwner address =>
      obtain rfl := Option.some.inj found
      exact fits
  | renewNode node ttl token | releaseNode nodeId token =>
      obtain ⟨revision, -, rfl⟩ := Option.map_eq_some_iff.mp found
      exact fits
  | compareExchangeActorOwner address record revision =>
      cases revision with
      | none =>
          obtain rfl := Option.some.inj found
          trivial
      | some token =>
          obtain ⟨revision, -, rfl⟩ := Option.map_eq_some_iff.mp found
          trivial
  | releaseActorOwner address record token =>
      obtain ⟨revision, -, rfl⟩ := Option.map_eq_some_iff.mp found
      trivial

theorem results_agree (uncached : store.directoryRefreshInterval = 0)
    (operations : List (Moment × StoreOperation Nat))
    (ordered : operations.Pairwise fun first second => first.1.instant ≤ second.1.instant)
    (fits : ∀ entry ∈ operations, entry.2.Fits entry.1) :
    ∀ {instant : Nat} {state : S3State Bytes} {test : TestCoordinationStore}
      {earlier earlier' : List StoreResult},
      Equivalent store instant state test →
      (∀ entry ∈ operations, instant ≤ entry.1.instant) →
      List.Forall₂ (fun result result' =>
        Option.Rel (PairedRevisions store.service) result.revision? result'.revision?)
        earlier earlier' →
      Option.Rel (List.Forall₂ StoreResult.Agrees)
        (store.methods.results state earlier operations)
        (TestCoordinationStore.methods.results test earlier' operations) := by
  induction operations with
  | nil =>
      intros
      exact .some .nil
  | cons entry rest recurse =>
      obtain ⟨moment, operation⟩ := entry
      intro instant state test earlier earlier' equivalent passed paired
      have later := List.pairwise_cons.mp ordered
      rw [CoordinationStore.results, CoordinationStore.results]
      rcases rel_cases (resolve_same (found_paired paired) operation) with
        ⟨none₁, none₂⟩ | ⟨first, second, some₁, some₂, same⟩
      · rw [none₁, none₂]
        exact .none
      · rw [some₁, some₂]
        have answered := equivalent.answered uncached (passed _ List.mem_cons_self) same
          (fits_of_resolve some₂ (fits _ List.mem_cons_self))
        refine rel_map (recurse later.2 (fun entry member => fits entry (.tail _ member))
          answered.states later.1 ?_) fun _ _ rest => .cons answered.agrees rest
        exact List.rel_append paired (.cons answered.revisions .nil)

/-- Without a directory cache, `S3CoordinationStore` and
`TestCoordinationStore` give the same outcomes and records for every sequence
of operations, and a token has a revision in both or in neither. -/
theorem stores_agree (store : S3CoordinationStore Bytes)
    (uncached : store.directoryRefreshInterval = 0)
    (operations : List (Moment × StoreOperation Nat))
    (ordered : operations.Pairwise fun first second => first.1.instant ≤ second.1.instant)
    (fits : ∀ entry ∈ operations, entry.2.Fits entry.1) :
    Option.Rel (List.Forall₂ StoreResult.Agrees)
      (store.methods.results .empty [] operations)
      (TestCoordinationStore.methods.results .empty [] operations) :=
  results_agree uncached operations ordered fits equivalent_empty
    (fun _ _ => Nat.zero_le _) .nil

theorem plainText_reads (json : Json) : some (id json) = some json := rfl

/-- Documents that are their own text. -/
def plainText : JsonText Json where
  toVec := id
  fromSlice := some
  fromSlice_toVec := plainText_reads

theorem eTag_injective : Function.Injective fun write => (testRevision write).value := by
  intro first second same
  exact testRevision_injective (congrArg Revision.mk same)

theorem onePage_ne_nil (keys : List ObjectKey) : [keys] ≠ [] := List.cons_ne_nil keys []

theorem onePage_perm (keys : List ObjectKey) : [keys].flatten.Perm keys :=
  .of_eq List.flatten_singleton

/-- A service whose listings fit on one page. -/
def onePageService : S3Service where
  eTag := fun write => (testRevision write).value
  fresh := eTag_injective
  pages := fun keys => [keys]
  pages_ne_nil := onePage_ne_nil
  pages_perm := onePage_perm

def smallBucket : S3CoordinationStore Json where
  keyPrefix := "cluster".toList
  directoryRefreshInterval := 0
  text := plainText
  service := onePageService

def leaseSequence : List (Moment × StoreOperation Nat) :=
  let node : NodeRecord := ⟨"a", ⟨"s"⟩, "a:1", 2, 0, 0, 0, 4, false, false⟩
  [ (⟨0, 0, 0⟩, .acquireNode node 10),
    (⟨1, 1, 0⟩, .listNodes),
    (⟨2, 2, 0⟩, .renewNode node 10 0),
    (⟨3, 3, 0⟩, .renewNode node 10 0),
    (⟨12, 12, 0⟩, .readNodeLease "a"),
    (⟨12, 12, 0⟩, .acquireNode node 10),
    (⟨13, 13, 0⟩, .releaseNode "a" 5) ]

theorem lease_sequence_agrees :
    (smallBucket.methods.results .empty [] leaseSequence).isSome = true ∧
      Option.Rel (List.Forall₂ StoreResult.Agrees)
        (smallBucket.methods.results .empty [] leaseSequence)
        (TestCoordinationStore.methods.results .empty [] leaseSequence) :=
  ⟨by decide +kernel, stores_agree smallBucket rfl leaseSequence (by decide) (by decide)⟩

end Coactor.Coordination
