import Coactor.Coordination.StoreOperations
import Mathlib.Data.List.AList
import Mathlib.Data.List.Sort
import Mathlib.Data.String.Basic

/-!
# `S3CoordinationStore`

The store over S3: objects with ETags, conditional writes, a paginated listing
and a cached Node Directory.  S3 itself is an atomic map that refuses a write
exactly when its precondition fails; which ETags it chooses and how it cuts a
listing into pages is left open.
-/

namespace Coactor.Coordination

/-! ## Record bodies -/

inductive Json where
  | null
  | bool (value : Bool)
  | number (value : Nat)
  | string (value : String)
  | object (fields : List (String × Json))

namespace Json

def field? (name : String) : Json → Option Json
  | .object fields => fields.lookup name
  | _ => none

def bool? : Json → Option Bool
  | .bool value => some value
  | _ => none

def number? : Json → Option Nat
  | .number value => some value
  | _ => none

def string? : Json → Option String
  | .string value => some value
  | _ => none

/-- A field that must be there. -/
def required {Value : Type} (read : Json → Option Value) (name : String) (json : Json) :
    Option Value :=
  (json.field? name).bind read

/-- A field with `#[serde(default)]`. -/
def defaulted {Value : Type} (read : Json → Option Value) (default : Value) (name : String)
    (json : Json) : Option Value :=
  match json.field? name with
  | none => some default
  | some value => read value

end Json

/-- A lease as an object; `node_id` is skipped and the node's fields are
flattened into it. -/
def StoredNodeLease.toJson (lease : StoredNodeLease) : Json :=
  .object [
    ("session_id", .string lease.node.sessionId.value),
    ("advertised_endpoint", .string lease.node.advertisedEndpoint),
    ("protocol_version", .number lease.node.protocolVersion),
    ("lease_generation", .number lease.node.leaseGeneration),
    ("sampled_at_unix_ms", .number lease.node.sampledAtUnixMs),
    ("active_actor_count", .number lease.node.activeActorCount),
    ("max_actor_count", .number lease.node.maxActorCount),
    ("pressured", .bool lease.node.pressured),
    ("draining", .bool lease.node.draining),
    ("expires_at_unix_ms", .number lease.expiresAtUnixMs)]

def StoredNodeLease.ofJson (json : Json) : Option StoredNodeLease := do
  let sessionId ← json.required Json.string? "session_id"
  let advertisedEndpoint ← json.required Json.string? "advertised_endpoint"
  let protocolVersion ← json.required Json.number? "protocol_version"
  let leaseGeneration ← json.defaulted Json.number? 0 "lease_generation"
  let sampledAtUnixMs ← json.defaulted Json.number? 0 "sampled_at_unix_ms"
  let activeActorCount ← json.defaulted Json.number? 0 "active_actor_count"
  let maxActorCount ← json.defaulted Json.number? 0 "max_actor_count"
  let pressured ← json.defaulted Json.bool? false "pressured"
  let draining ← json.defaulted Json.bool? false "draining"
  let expiresAtUnixMs ← json.required Json.number? "expires_at_unix_ms"
  return {
    node := {
      nodeId := "", sessionId := ⟨sessionId⟩, advertisedEndpoint, protocolVersion,
      leaseGeneration, sampledAtUnixMs, activeActorCount, maxActorCount, pressured, draining }
    expiresAtUnixMs }

def ActorOwner.toJson (owner : ActorOwner) : Json :=
  .object [("node_id", .string owner.nodeId), ("session_id", .string owner.sessionId.value)]

def ActorOwner.ofJson (json : Json) : Option ActorOwner := do
  let nodeId ← json.required Json.string? "node_id"
  let sessionId ← json.required Json.string? "session_id"
  return ⟨nodeId, ⟨sessionId⟩⟩

def ActorOwnerRecord.toJson (record : ActorOwnerRecord) : Json :=
  .object [
    ("owner", match record.owner with
      | none => .null
      | some owner => owner.toJson),
    ("ownership_epoch", .number record.ownershipEpoch)]

def ActorOwnerRecord.ofJson (json : Json) : Option ActorOwnerRecord := do
  let owner ← match json.field? "owner" with
    | none | some .null => some none
    | some owner => (ActorOwner.ofJson owner).map some
  let ownershipEpoch ← json.required Json.number? "ownership_epoch"
  return ⟨owner, ownershipEpoch⟩

/-- A decoded lease lacks the node id. -/
theorem StoredNodeLease.ofJson_toJson (lease : StoredNodeLease) :
    ofJson lease.toJson = some { lease with node := { lease.node with nodeId := "" } } := rfl

theorem ActorOwnerRecord.ofJson_toJson (record : ActorOwnerRecord) :
    ofJson record.toJson = some record := by
  obtain ⟨owner, ownershipEpoch⟩ := record
  cases owner with
  | none => rfl
  | some owner => rfl

/-- JSON text, which is read back as it was written. -/
structure JsonText (Bytes : Type) where
  toVec : Json → Bytes
  fromSlice : Bytes → Option Json
  fromSlice_toVec : ∀ json, fromSlice (toVec json) = some json

/-! ## The service -/

inductive ServiceError where
  | noSuchKey
  | other
  deriving DecidableEq, Repr

/-- `aws_sdk_s3::error::SdkError`: the service's own error, when it answered
with one, and the status of the response, when there was one. -/
structure SdkError where
  serviceError : Option ServiceError
  status : Option Nat
  deriving DecidableEq, Repr

structure S3Object (Bytes : Type) where
  eTag : String
  body : Bytes

structure Bucket (Bytes : Type) where
  objects : AList fun _ : ObjectKey => S3Object Bytes
  puts : Nat

inductive Precondition where
  | ifMatch (eTag : String)
  | ifNoneMatch
  deriving DecidableEq, Repr

structure GetObjectOutput (Bytes : Type) where
  eTag : Option String
  body : Option Bytes

structure PutObjectOutput where
  eTag : Option String

/-- One answer of `list_objects_v2`. -/
structure ListPage where
  contents : List (Option ObjectKey)
  isTruncated : Option Bool
  nextContinuationToken : Option Nat

/-- The choices of S3: a fresh ETag for every write, and the pages of a
listing, which together hold every key once. -/
structure S3Service where
  eTag : Nat → String
  fresh : Function.Injective eTag
  pages : List ObjectKey → List (List ObjectKey)
  pages_ne_nil : ∀ keys, pages keys ≠ []
  pages_perm : ∀ keys, (pages keys).flatten.Perm keys

namespace Bucket

variable {Bytes : Type} (bucket : Bucket Bytes)

def empty : Bucket Bytes := ⟨∅, 0⟩

def getObject (key : ObjectKey) : Except SdkError (GetObjectOutput Bytes) :=
  match bucket.objects.lookup key with
  | none => .error ⟨some .noSuchKey, some 404⟩
  | some object => .ok ⟨some object.eTag, some object.body⟩

def admits (key : ObjectKey) : Precondition → Bool
  | .ifMatch eTag => (bucket.objects.lookup key).any fun object => object.eTag == eTag
  | .ifNoneMatch => (bucket.objects.lookup key).isNone

def preconditionFailed : SdkError := ⟨some .other, some 412⟩

def putObject (service : S3Service) (key : ObjectKey) (body : Bytes)
    (precondition : Precondition) : Except SdkError PutObjectOutput × Bucket Bytes :=
  if bucket.admits key precondition then
    (.ok ⟨some (service.eTag bucket.puts)⟩,
      ⟨bucket.objects.insert key ⟨service.eTag bucket.puts, body⟩, bucket.puts + 1⟩)
  else (.error preconditionFailed, bucket)

def deleteObject (key : ObjectKey) (precondition : Precondition) :
    Except SdkError Unit × Bucket Bytes :=
  if bucket.admits key precondition then
    (.ok (), { bucket with objects := bucket.objects.erase key })
  else (.error preconditionFailed, bucket)

/-- The answers to a request for a listing and to the requests that follow
its continuation tokens. -/
def answers : List (List ObjectKey) → List ListPage
  | [] => []
  | [keys] => [⟨keys.map some, some false, none⟩]
  | keys :: next :: rest =>
      ⟨keys.map some, some true, some rest.length⟩ :: answers (next :: rest)

def listObjects (service : S3Service) (start : ObjectKey) : List ListPage :=
  answers (service.pages (bucket.objects.keys.filter fun key => start.isPrefixOf key))

end Bucket

/-! ## Errors -/

def classifyReadError (error : SdkError) : CoordinationErrorKind :=
  if error.status = some 401 ∨ error.status = some 403 then .permissionDenied else .unavailable

def classifyWriteError {Value : Type} (error : SdkError) :
    Except CoordinationErrorKind (MutationOutcome Value) :=
  if error.status = some 412 then .ok .conflict
  else if error.serviceError.isSome then .error (classifyReadError error)
  else .ok (.indeterminate (classifyReadError error))

/-! ## The store -/

structure DirectoryCache where
  nodes : List NodeRecord
  refreshAt : Option Nat

/-- What `S3CoordinationStore` is made with, and the library and service
under it. -/
structure S3CoordinationStore (Bytes : Type) where
  keyPrefix : ObjectKey
  directoryRefreshInterval : Nat
  text : JsonText Bytes
  service : S3Service

/-- The bucket and the `directory_cache` of the store. -/
structure S3State (Bytes : Type) where
  bucket : Bucket Bytes
  directoryCache : DirectoryCache

def S3State.empty {Bytes : Type} : S3State Bytes := ⟨.empty, ⟨[], none⟩⟩

namespace S3CoordinationStore

variable {Bytes : Type} (store : S3CoordinationStore Bytes)

/-- The common part of `read_node_key` and `read_actor_key`. -/
def readKey {Value : Type} (decode : Json → Option Value) (bucket : Bucket Bytes)
    (key : ObjectKey) : Except CoordinationErrorKind (Option (Value × Revision)) :=
  match bucket.getObject key with
  | .error error =>
      if error.serviceError = some .noSuchKey then .ok none
      else .error (classifyReadError error)
  | .ok output =>
      match output.eTag with
      | none => .error .invalidData
      | some revision =>
          match output.body with
          | none => .error .unavailable
          | some bytes =>
              match (store.text.fromSlice bytes).bind decode with
              | none => .error .invalidData
              | some value => .ok (some (value, ⟨revision⟩))

def readNodeKey (moment : Moment) (bucket : Bucket Bytes) (nodeId : String)
    (includeExpired : Bool) :
    Except CoordinationErrorKind (Option (NodeRecord × Revision × Nat)) :=
  match store.readKey StoredNodeLease.ofJson bucket (nodeKey store.keyPrefix nodeId) with
  | .error error => .error error
  | .ok none => .ok none
  | .ok (some (lease, revision)) =>
      if !includeExpired && decide (lease.expiresAtUnixMs ≤ wallTimeMillis moment.systemTime) then
        .ok none
      else .ok (some ({ lease.node with nodeId := nodeId }, revision, lease.expiresAtUnixMs))

def readActorKey (bucket : Bucket Bytes) (address : ActorAddress) :
    Except CoordinationErrorKind (Option VersionedActorOwnerRecord) :=
  match store.readKey ActorOwnerRecord.ofJson bucket (actorKey store.keyPrefix address) with
  | .error error => .error error
  | .ok none => .ok none
  | .ok (some (record, revision)) => .ok (some ⟨record, revision⟩)

def precondition : Option Revision → Precondition
  | some revision => .ifMatch revision.value
  | none => .ifNoneMatch

/-- The conditional write of `put_node` and `compare_exchange_actor_owner`. -/
def putKey (state : S3State Bytes) (key : ObjectKey) (body : Json)
    (revision : Option Revision) :
    Except CoordinationErrorKind (MutationOutcome Revision) × S3State Bytes :=
  match state.bucket.putObject store.service key (store.text.toVec body)
      (precondition revision) with
  | (.ok output, bucket) =>
      (match output.eTag with
        | some eTag => .ok (.applied ⟨eTag⟩)
        | none => .error .invalidData,
      { state with bucket := bucket })
  | (.error error, bucket) => (classifyWriteError error, { state with bucket := bucket })

/-- `S3CoordinationStore::put_node`. -/
def putNodeKey (moment : Moment) (state : S3State Bytes) (node : NodeRecord) (ttl : Nat)
    (revision : Option Revision) :
    Except CoordinationErrorKind (MutationOutcome Revision) × S3State Bytes :=
  store.putKey state (nodeKey store.keyPrefix node.nodeId)
    (putNode node ttl moment.systemTime).toJson revision

/-- The nodes of one page. -/
def fetchPage (moment : Moment) (bucket : Bucket Bytes) (nodes : List NodeRecord) :
    List (Option ObjectKey) → Except CoordinationErrorKind (List NodeRecord)
  | [] => .ok nodes
  | none :: rest => fetchPage moment bucket nodes rest
  | some key :: rest =>
      match listedNodeId store.keyPrefix key with
      | none => fetchPage moment bucket nodes rest
      | some nodeId =>
          match store.readNodeKey moment bucket nodeId false with
          | .error error => .error error
          | .ok none => fetchPage moment bucket nodes rest
          | .ok (some (node, _, _)) => fetchPage moment bucket (nodes ++ [node]) rest

/-- The loop of `fetch_nodes` over the answers it gets. -/
def fetchPages (moment : Moment) (bucket : Bucket Bytes) (nodes : List NodeRecord) :
    List ListPage → Except CoordinationErrorKind (List NodeRecord)
  | [] => .error .unavailable
  | page :: rest =>
      match store.fetchPage moment bucket nodes page.contents with
      | .error error => .error error
      | .ok nodes =>
          if page.isTruncated.getD false then
            if page.nextContinuationToken.isNone then .error .invalidData
            else fetchPages moment bucket nodes rest
          else .ok nodes

def fetchNodes (moment : Moment) (bucket : Bucket Bytes) :
    Except CoordinationErrorKind (List NodeRecord) :=
  (store.fetchPages moment bucket []
    (bucket.listObjects store.service (nodesPrefix store.keyPrefix))).map
      (List.insertionSort fun first second => first.nodeId ≤ second.nodeId)

/-- `Duration::mul_f64` by thousandths. -/
def mulThousandths (interval thousandths : Nat) : Nat := interval * thousandths / 1000

def listNodes : StoreMethod (S3State Bytes) (List NodeRecord) := fun moment state =>
  if state.directoryCache.refreshAt.any fun refreshAt => moment.instant < refreshAt then
    (.ok state.directoryCache.nodes, state)
  else
    match store.fetchNodes moment state.bucket with
    | .error error => (.error error, state)
    | .ok nodes =>
        let jitter := 800 + moment.random % 401
        (.ok nodes, { state with
          directoryCache := {
            nodes
            refreshAt :=
              some (moment.instant + mulThousandths store.directoryRefreshInterval jitter) } })

def acquireNode (node : NodeRecord) (ttl : Nat) :
    StoreMethod (S3State Bytes) (MutationOutcome Revision) := fun moment state =>
  match store.readNodeKey moment state.bucket node.nodeId true with
  | .error error => (.error error, state)
  | .ok none => store.putNodeKey moment state node ttl none
  | .ok (some (_, revision, expiresAt)) =>
      if expiresAt ≤ wallTimeMillis moment.systemTime then
        store.putNodeKey moment state node ttl (some revision)
      else (.ok .conflict, state)

def releaseNode (nodeId : String) (revision : Revision) :
    StoreMethod (S3State Bytes) (MutationOutcome Unit) := fun _ state =>
  match state.bucket.deleteObject (nodeKey store.keyPrefix nodeId) (.ifMatch revision.value) with
  | (.ok (), bucket) => (.ok (.applied ()), { state with bucket := bucket })
  | (.error error, bucket) => (classifyWriteError error, { state with bucket := bucket })

/-- The trait methods of `S3CoordinationStore`. -/
def methods : CoordinationStore (S3State Bytes) where
  readNode := fun nodeId moment state =>
    ((store.readNodeKey moment state.bucket nodeId false).map (Option.map Prod.fst), state)
  listNodes := store.listNodes
  readNodeLease := fun nodeId moment state =>
    ((store.readNodeKey moment state.bucket nodeId false).map
      (Option.map fun (node, revision, _) => (node, revision)), state)
  acquireNode := store.acquireNode
  renewNode := fun node ttl revision moment state =>
    store.putNodeKey moment state node ttl (some revision)
  releaseNode := store.releaseNode
  readActorOwner := fun address _ state => (store.readActorKey state.bucket address, state)
  compareExchangeActorOwner := fun address record revision _ state =>
    store.putKey state (actorKey store.keyPrefix address) record.toJson revision

end S3CoordinationStore

end Coactor.Coordination
