import Coactor.Coordination.StoreKeys
import Coactor.Coordination.Endpoint
import Coactor.Client.OwnerResolution

/-!
# One key for one record

Several stores may share a bucket under prefixes of which one extends another.
Keys are read from the right: the last segment tells a Node Lease from an owner
record, the segments before it name what the record is about, and what is left
is the prefix.
-/

namespace Coactor.Coordination

open Coactor.Foundation

/-! ## Stores and identities -/

inductive S3StoreConfigError where
  | emptyBucket
  | invalidPrefix
  deriving DecidableEq, Repr

/-- The prefixes that `S3CoordinationStore::new` takes. -/
def isKeyPrefix (keyPrefix : String) : Bool :=
  let text := keyPrefix.toList
  text.isEmpty || !(text.head? == some '/' || text.getLast? == some '/' ||
    (text.splitOn '/').any fun part => part == [] || part == ['.'] || part == ['.', '.'])

/-- The bucket and the prefix of a store. -/
structure S3StoreConfig where
  bucket : String
  keyPrefix : String
  namedBucket : Client.isBlank bucket = false
  validPrefix : isKeyPrefix keyPrefix = true

/-- `S3CoordinationStore::new`. -/
def S3StoreConfig.new (bucket keyPrefix : String) : Except S3StoreConfigError S3StoreConfig :=
  if blank : Client.isBlank bucket = true then .error .emptyBucket
  else if valid : isKeyPrefix keyPrefix = true then
    .ok ⟨bucket, keyPrefix, Bool.eq_false_iff.mpr blank, valid⟩
  else .error .invalidPrefix

/-- Every store is one that `new` takes. -/
theorem S3StoreConfig.new_self (config : S3StoreConfig) :
    S3StoreConfig.new config.bucket config.keyPrefix = .ok config := by
  simp [S3StoreConfig.new, config.namedBucket, config.validPrefix]

/-- A node id that a Server starts with. -/
structure NodeId where
  value : String
  accepted : ∃ (builder : ServerBuilder) (starter : Starter),
    builder.intoStarter = .ok starter ∧ starter.nodeId = value

/-- What a record of the store is about. -/
inductive RecordIdentity where
  | node (nodeId : NodeId)
  | actor (address : ActorAddress)

def S3StoreConfig.keyOf (config : S3StoreConfig) : RecordIdentity → ObjectKey
  | .node nodeId => nodeKey config.keyPrefix.toList nodeId.value
  | .actor address => actorKey config.keyPrefix.toList address

/-! ## Segments from the right -/

variable {keyPrefix otherPrefix first second before after : List Char}

/-- The last segments of equal keys are equal. -/
theorem segments_inj (firstPlain : '/' ∉ first) (secondPlain : '/' ∉ second)
    (same : before ++ '/' :: first = after ++ '/' :: second) : before = after ∧ first = second := by
  have cut := @rsplitOnce_append '/' before first firstPlain
  rw [same, rsplitOnce_append secondPlain] at cut
  obtain ⟨befores, lasts⟩ := Prod.mk.inj (Option.some.inj cut)
  exact ⟨befores.symm, lasts.symm⟩

/-- The prefix is what is left. -/
theorem storeKey_left_inj {suffix : ObjectKey} (plain : '/' ∉ suffix)
    (same : storeKey keyPrefix suffix = storeKey otherPrefix suffix) : keyPrefix = otherPrefix := by
  have slash : ∀ {front : List Char}, suffix ≠ front ++ '/' :: suffix := by
    intro front same
    refine plain ?_
    rw [same]
    exact List.mem_append_right _ List.mem_cons_self
  unfold storeKey at same
  split at same <;> split at same
  · rename_i empty empty'
    rw [List.isEmpty_iff.mp empty, List.isEmpty_iff.mp empty']
  · exact absurd same slash
  · exact absurd same.symm slash
  · exact (segments_inj plain plain same).1

theorem nodeKey_segments (keyPrefix : ObjectKey) (nodeId : String) :
    nodeKey keyPrefix nodeId =
      (storeKey keyPrefix "nodes".toList ++ '/' :: nodeId.toList) ++ '/' :: "lease.json".toList := by
  have suffix : "nodes/".toList = "nodes".toList ++ ['/'] := rfl
  rw [nodeKey_eq, nodesPrefix, suffix, storeKey_append]
  simp

theorem actorKey_segments (keyPrefix : ObjectKey) (address : ActorAddress) :
    actorKey keyPrefix address =
      ((storeKey keyPrefix "actors".toList ++ '/' :: address.actorType.toList) ++
        '/' :: address.actorId.toList) ++ '/' :: "ownership.json".toList := by
  have suffix : "actors/".toList = "actors".toList ++ ['/'] := rfl
  rw [actorKey, storeKey_append, suffix, storeKey_append]
  simp

theorem NodeId.listable (nodeId : NodeId) : ListableId nodeId.value := by
  obtain ⟨builder, starter, started, same⟩ := nodeId.accepted
  rw [← same]
  obtain ⟨⟨rawEndpoint, accepted⟩, ⟨-, label⟩ | ⟨-, defaulted⟩⟩ := intoStarter_ok started
  · refine ⟨?_, slash_notMem_of_isDnsLabel label⟩
    intro empty
    rw [empty] at label
    cases label
  · have authority := (isEndpoint_of_canonicalEndpoint accepted).isAuthority
    rw [defaulted]
    refine ⟨?_, authority.slash⟩
    intro empty
    exact authority.nonempty (congrArg String.toList empty)

theorem nodeKey_inj {nodeId other : NodeId}
    (same : nodeKey keyPrefix nodeId.value = nodeKey otherPrefix other.value) :
    keyPrefix = otherPrefix ∧ nodeId.value = other.value := by
  rw [nodeKey_segments, nodeKey_segments] at same
  obtain ⟨front, ids⟩ :=
    segments_inj nodeId.listable.2 other.listable.2 (List.append_cancel_right same)
  exact ⟨storeKey_left_inj (by decide) front, String.toList_injective ids⟩

theorem actorKey_inj {address other : ActorAddress}
    (same : actorKey keyPrefix address = actorKey otherPrefix other) :
    keyPrefix = otherPrefix ∧ address = other := by
  have plain : ∀ address : ActorAddress,
      '/' ∉ address.actorType.toList ∧ '/' ∉ address.actorId.toList := fun address =>
    ⟨slash_notMem_of_isDnsLabel address.validType, slash_notMem_of_isDnsLabel address.validId⟩
  have fronts := same
  rw [actorKey_segments, actorKey_segments] at fronts
  obtain ⟨front, -⟩ :=
    segments_inj (plain address).2 (plain other).2 (List.append_cancel_right fronts)
  obtain ⟨front, -⟩ := segments_inj (plain address).1 (plain other).1 front
  obtain rfl := storeKey_left_inj (by decide) front
  exact ⟨rfl, actorKey_injective same⟩

theorem nodeKey_ne_actorKey_of_prefixes (nodeId : String) (address : ActorAddress) :
    nodeKey keyPrefix nodeId ≠ actorKey otherPrefix address := by
  rw [nodeKey_segments, actorKey_segments]
  intro same
  exact absurd (segments_inj (by decide) (by decide) same).2 (by decide)

/-! ## The key space -/

/-- Different records of the stores in a bucket have different keys, and the
listing of the Node Directory finds a node id exactly under its key. -/
theorem keys_identify_records :
    (∀ (first second : S3StoreConfig) (identity other : RecordIdentity),
      first.keyOf identity = second.keyOf other →
        first.keyPrefix = second.keyPrefix ∧ identity = other) ∧
      ∀ (config : S3StoreConfig) (key : ObjectKey) (nodeId : String),
        listedNodeId config.keyPrefix.toList key = some nodeId ↔
          key = nodeKey config.keyPrefix.toList nodeId ∧ nodeId ≠ "" ∧ '/' ∉ nodeId.toList := by
  refine ⟨?_, fun config key nodeId => listedNodeId_eq_some⟩
  intro first second identity other same
  cases identity with
  | node nodeId =>
      cases other with
      | node other =>
          obtain ⟨prefixes, ids⟩ := nodeKey_inj same
          obtain ⟨nodeId, _⟩ := nodeId
          obtain rfl : nodeId = other.value := ids
          exact ⟨String.toList_injective prefixes, rfl⟩
      | actor other => exact absurd same (nodeKey_ne_actorKey_of_prefixes nodeId.value other)
  | actor address =>
      cases other with
      | node other => exact absurd same.symm (nodeKey_ne_actorKey_of_prefixes other.value address)
      | actor other =>
          obtain ⟨prefixes, rfl⟩ := actorKey_inj same
          exact ⟨String.toList_injective prefixes, rfl⟩

/-- A Server's own lease is listed. -/
theorem listedNodeId_nodeKey (config : S3StoreConfig) (nodeId : NodeId) :
    listedNodeId config.keyPrefix.toList (config.keyOf (.node nodeId)) = some nodeId.value :=
  listedNodeId_eq_some.mpr ⟨rfl, nodeId.listable⟩

end Coactor.Coordination
