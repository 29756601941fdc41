import Mathlib.Logic.Function.Basic

/-!
# Coordination records and actor addresses

The records kept in the Coordination Store, the answers its operations give,
and the addresses and errors shared by the cluster and the runtime.
-/

namespace Coactor

/-! ## Actor addresses -/

/-- A Kubernetes DNS label.  A byte outside ASCII fails the last conjunct, so
the test on characters agrees with the test on bytes. -/
def isDnsLabel (value : String) : Bool :=
  let characters := value.toList
  decide (1 ≤ characters.length) && decide (characters.length ≤ 63) &&
    characters.head?.any Char.isAlphanum && characters.getLast?.any Char.isAlphanum &&
    characters.all fun character => character.isLower || character.isDigit || character == '-'

/-- A validated Actor Type and Actor ID. -/
structure ActorAddress where
  actorType : String
  actorId : String
  validType : isDnsLabel actorType = true
  validId : isDnsLabel actorId = true
  deriving DecidableEq

/-! ## Errors -/

inductive RemoteProtocolError where
  | versionMismatch
  | actorTypeNotRegistered
  | malformedMessage
  deriving DecidableEq, Repr

inductive SendError where
  | actorTypeNotRegistered (actorType : String)
  | notOwner
  | mailboxFull
  | activationFailed
  | actorDeactivating
  | runtimeAtCapacity
  | runtimeShuttingDown
  | actorStopped
  | runtimeStopped
  | nodeFenced
  | remoteUnavailable
  | directoryUnavailable
  | ownershipUnavailable
  | remoteProtocol (error : RemoteProtocolError)
  deriving DecidableEq, Repr

namespace Coordination

inductive CoordinationErrorKind where
  | unavailable
  | permissionDenied
  | invalidData
  deriving DecidableEq, Repr

/-! ## Records -/

/-- The identity of one run of a Server process. -/
structure NodeSessionId where
  value : String
  deriving DecidableEq, Repr

/-- An opaque version token of the store. -/
structure Revision where
  value : String
  deriving DecidableEq, Repr

/-- The largest `u64`. -/
def u64Max : Nat := 18446744073709551615

/-- `u64::saturating_add`. -/
def saturatingAdd (first second : Nat) : Nat := min (first + second) u64Max

structure NodeRecord where
  nodeId : String
  sessionId : NodeSessionId
  advertisedEndpoint : String
  protocolVersion : Nat
  leaseGeneration : Nat
  sampledAtUnixMs : Nat
  activeActorCount : Nat
  maxActorCount : Nat
  pressured : Bool
  draining : Bool
  deriving DecidableEq, Repr

structure ActorOwner where
  nodeId : String
  sessionId : NodeSessionId
  deriving DecidableEq, Repr

structure ActorOwnerRecord where
  owner : Option ActorOwner
  ownershipEpoch : Nat
  deriving DecidableEq, Repr

/-- The record of an Actor that nobody owns any more. -/
def ActorOwnerRecord.unowned (ownershipEpoch : Nat) : ActorOwnerRecord :=
  ⟨none, ownershipEpoch⟩

structure VersionedActorOwnerRecord where
  record : ActorOwnerRecord
  revision : Revision
  deriving DecidableEq, Repr

/-! ## Answers -/

inductive MutationOutcome (Value : Type) where
  | applied (value : Value)
  | conflict
  | indeterminate (error : CoordinationErrorKind)
  deriving DecidableEq, Repr

/-- What awaiting a store operation under `tokio::time::timeout` gives. -/
inductive Reply (Value : Type) where
  | elapsed
  | failed (error : CoordinationErrorKind)
  | ok (value : Value)
  deriving DecidableEq, Repr

end Coordination

end Coactor
