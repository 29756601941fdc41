import Coactor.Coordination.NodeSession
import Coactor.Coordination.StoreKeys
import Mathlib.Data.List.Forall2
import Mathlib.Data.Option.Basic

/-!
# Sequences of Coordination Store operations

The `CoordinationStore` traits as one record of methods, and sequences of
operations that name a revision by the earlier result it came from.  Two
stores can then be driven by the same sequence, each with its own revisions.
-/

namespace Coactor.Coordination

/-! ## The traits -/

/-- The clocks and the random number that one operation sees. -/
structure Moment where
  systemTime : Nat
  instant : Nat
  random : Nat
  deriving DecidableEq, Repr

abbrev StoreMethod (State Value : Type) :=
  Moment → State → Except CoordinationErrorKind Value × State

/-- `NodeDirectory`, `NodeLeaseStore` and `ActorOwnerStore`. -/
structure CoordinationStore (State : Type) where
  readNode : String → StoreMethod State (Option NodeRecord)
  listNodes : StoreMethod State (List NodeRecord)
  readNodeLease : String → StoreMethod State (Option (NodeRecord × Revision))
  acquireNode : NodeRecord → Nat → StoreMethod State (MutationOutcome Revision)
  renewNode : NodeRecord → Nat → Revision → StoreMethod State (MutationOutcome Revision)
  releaseNode : String → Revision → StoreMethod State (MutationOutcome Unit)
  readActorOwner : ActorAddress → StoreMethod State (Option VersionedActorOwnerRecord)
  compareExchangeActorOwner : ActorAddress → ActorOwnerRecord → Option Revision →
    StoreMethod State (MutationOutcome Revision)

/-- The provided method of `ActorOwnerStore`. -/
def CoordinationStore.releaseActorOwner {State : Type} (store : CoordinationStore State)
    (address : ActorAddress) (current : VersionedActorOwnerRecord) :
    StoreMethod State (MutationOutcome Revision) :=
  store.compareExchangeActorOwner address (.unowned current.record.ownershipEpoch)
    (some current.revision)

/-! ## Operations and results -/

/-- An operation whose revision arguments are tokens. -/
inductive StoreOperation (Token : Type) where
  | readNode (nodeId : String)
  | listNodes
  | readNodeLease (nodeId : String)
  | acquireNode (node : NodeRecord) (ttl : Nat)
  | renewNode (node : NodeRecord) (ttl : Nat) (revision : Token)
  | releaseNode (nodeId : String) (revision : Token)
  | readActorOwner (address : ActorAddress)
  | compareExchangeActorOwner (address : ActorAddress) (record : ActorOwnerRecord)
      (revision : Option Token)
  | releaseActorOwner (address : ActorAddress) (record : ActorOwnerRecord) (revision : Token)

/-- Replace every token by the revision it stands for. -/
def StoreOperation.resolve {Token : Type} (find : Token → Option Revision) :
    StoreOperation Token → Option (StoreOperation Revision)
  | .readNode nodeId => some (.readNode nodeId)
  | .listNodes => some .listNodes
  | .readNodeLease nodeId => some (.readNodeLease nodeId)
  | .acquireNode node ttl => some (.acquireNode node ttl)
  | .renewNode node ttl token => (find token).map (.renewNode node ttl)
  | .releaseNode nodeId token => (find token).map (.releaseNode nodeId)
  | .readActorOwner address => some (.readActorOwner address)
  | .compareExchangeActorOwner address record none =>
      some (.compareExchangeActorOwner address record none)
  | .compareExchangeActorOwner address record (some token) =>
      (find token).map fun revision => .compareExchangeActorOwner address record (some revision)
  | .releaseActorOwner address record token =>
      (find token).map (.releaseActorOwner address record)

/-- Node ids are listable, and expiries fit in a `u64`. -/
def StoreOperation.Fits {Token : Type} (moment : Moment) : StoreOperation Token → Prop
  | .readNode nodeId | .readNodeLease nodeId | .releaseNode nodeId _ => ListableId nodeId
  | .acquireNode node ttl | .renewNode node ttl _ =>
      ListableId node.nodeId ∧ wallTimeMillis moment.systemTime + ttl ≤ u64Max
  | .listNodes | .readActorOwner _ | .compareExchangeActorOwner _ _ _
  | .releaseActorOwner _ _ _ => True

instance StoreOperation.decidableFits {Token : Type} (moment : Moment) :
    (operation : StoreOperation Token) → Decidable (operation.Fits moment)
  | .readNode nodeId | .readNodeLease nodeId | .releaseNode nodeId _ =>
      inferInstanceAs (Decidable (ListableId nodeId))
  | .acquireNode node ttl | .renewNode node ttl _ =>
      inferInstanceAs (Decidable (ListableId node.nodeId ∧
        wallTimeMillis moment.systemTime + ttl ≤ u64Max))
  | .listNodes | .readActorOwner _ | .compareExchangeActorOwner _ _ _
  | .releaseActorOwner _ _ _ => inferInstanceAs (Decidable True)

inductive StoreResult where
  | node (result : Except CoordinationErrorKind (Option NodeRecord))
  | nodes (result : Except CoordinationErrorKind (List NodeRecord))
  | lease (result : Except CoordinationErrorKind (Option (NodeRecord × Revision)))
  | written (result : Except CoordinationErrorKind (MutationOutcome Revision))
  | released (result : Except CoordinationErrorKind (MutationOutcome Unit))
  | owner (result : Except CoordinationErrorKind (Option VersionedActorOwnerRecord))

/-- The revision a caller can take from a result. -/
def StoreResult.revision? : StoreResult → Option Revision
  | .lease (.ok (some (_, revision))) => some revision
  | .written (.ok (.applied revision)) => some revision
  | .owner (.ok (some current)) => some current.revision
  | _ => none

/-- What a write reports beside its revision. -/
def MutationOutcome.unversioned {Value : Type} : MutationOutcome Value → MutationOutcome Unit
  | .applied _ => .applied ()
  | .conflict => .conflict
  | .indeterminate error => .indeterminate error

/-- Equal outcomes and records; revisions are the store's own, and listings
may be ordered differently. -/
def StoreResult.Agrees : StoreResult → StoreResult → Prop
  | .node first, .node second => first = second
  | .nodes (.ok first), .nodes (.ok second) => first.Perm second
  | .nodes (.error first), .nodes (.error second) => first = second
  | .lease first, .lease second =>
      first.map (Option.map Prod.fst) = second.map (Option.map Prod.fst)
  | .written first, .written second =>
      first.map MutationOutcome.unversioned = second.map MutationOutcome.unversioned
  | .released first, .released second => first = second
  | .owner first, .owner second =>
      first.map (Option.map VersionedActorOwnerRecord.record) =
        second.map (Option.map VersionedActorOwnerRecord.record)
  | _, _ => False

/-! ## Running a sequence -/

namespace CoordinationStore

variable {State : Type} (store : CoordinationStore State)

def perform (moment : Moment) (state : State) : StoreOperation Revision → StoreResult × State
  | .readNode nodeId => (store.readNode nodeId moment state).map .node id
  | .listNodes => (store.listNodes moment state).map .nodes id
  | .readNodeLease nodeId => (store.readNodeLease nodeId moment state).map .lease id
  | .acquireNode node ttl => (store.acquireNode node ttl moment state).map .written id
  | .renewNode node ttl revision =>
      (store.renewNode node ttl revision moment state).map .written id
  | .releaseNode nodeId revision =>
      (store.releaseNode nodeId revision moment state).map .released id
  | .readActorOwner address => (store.readActorOwner address moment state).map .owner id
  | .compareExchangeActorOwner address record revision =>
      (store.compareExchangeActorOwner address record revision moment state).map .written id
  | .releaseActorOwner address record revision =>
      (store.releaseActorOwner address ⟨record, revision⟩ moment state).map .written id

/-- The results of a sequence in which token `n` stands for the revision in
the result of operation `n`.  There are none when a token stands for nothing. -/
def results (state : State) (earlier : List StoreResult) :
    List (Moment × StoreOperation Nat) → Option (List StoreResult)
  | [] => some []
  | (moment, operation) :: rest =>
      match operation.resolve fun token => earlier[token]?.bind StoreResult.revision? with
      | none => none
      | some resolved =>
          let performed := store.perform moment state resolved
          (results performed.2 (earlier ++ [performed.1]) rest).map (performed.1 :: ·)

end CoordinationStore

end Coactor.Coordination
