import Coactor.Coordination.Records

/-!
# Errors on the wire

A Server encodes a `SendError` as the number of a `RuntimeFailure`, and a Client
decodes any number it is sent.  The encoding forgets the Actor Type that is not
registered, and merges two pairs of errors.
-/

namespace Coactor.Transport

/-- The failures of the protocol, in the order of their numbers. -/
inductive RuntimeFailure where
  | unspecified
  | mailboxFull
  | activationFailed
  | actorDeactivating
  | runtimeAtCapacity
  | runtimeShuttingDown
  | actorStopped
  | runtimeStopped
  | protocolMismatch
  | actorTypeNotRegistered
  | malformedPayload
  | remoteUnavailable
  | nodeFenced
  | ownershipUnavailable
  | notOwner
  deriving DecidableEq, Repr

namespace RuntimeFailure

/-- The number of a failure. -/
def code : RuntimeFailure → Int
  | unspecified => 0
  | mailboxFull => 1
  | activationFailed => 2
  | actorDeactivating => 3
  | runtimeAtCapacity => 4
  | runtimeShuttingDown => 5
  | actorStopped => 6
  | runtimeStopped => 7
  | protocolMismatch => 8
  | actorTypeNotRegistered => 9
  | malformedPayload => 10
  | remoteUnavailable => 11
  | nodeFenced => 12
  | ownershipUnavailable => 13
  | notOwner => 14

/-- `RuntimeFailure::try_from(..).unwrap_or(Unspecified)`. -/
def ofCode : Int → RuntimeFailure
  | 1 => mailboxFull
  | 2 => activationFailed
  | 3 => actorDeactivating
  | 4 => runtimeAtCapacity
  | 5 => runtimeShuttingDown
  | 6 => actorStopped
  | 7 => runtimeStopped
  | 8 => protocolMismatch
  | 9 => actorTypeNotRegistered
  | 10 => malformedPayload
  | 11 => remoteUnavailable
  | 12 => nodeFenced
  | 13 => ownershipUnavailable
  | 14 => notOwner
  | _ => unspecified

theorem ofCode_code (failure : RuntimeFailure) : ofCode failure.code = failure := by
  cases failure <;> rfl

end RuntimeFailure

/-- `SendError::to_wire`. -/
def toWire : SendError → Int
  | .actorTypeNotRegistered _ => RuntimeFailure.actorTypeNotRegistered.code
  | .notOwner => RuntimeFailure.notOwner.code
  | .mailboxFull => RuntimeFailure.mailboxFull.code
  | .activationFailed => RuntimeFailure.activationFailed.code
  | .actorDeactivating => RuntimeFailure.actorDeactivating.code
  | .runtimeAtCapacity => RuntimeFailure.runtimeAtCapacity.code
  | .runtimeShuttingDown => RuntimeFailure.runtimeShuttingDown.code
  | .actorStopped => RuntimeFailure.actorStopped.code
  | .runtimeStopped => RuntimeFailure.runtimeStopped.code
  | .nodeFenced => RuntimeFailure.nodeFenced.code
  | .remoteUnavailable => RuntimeFailure.remoteUnavailable.code
  | .directoryUnavailable => RuntimeFailure.remoteUnavailable.code
  | .ownershipUnavailable => RuntimeFailure.ownershipUnavailable.code
  | .remoteProtocol _ => RuntimeFailure.protocolMismatch.code

/-- `SendError::from_wire`. -/
def fromWire (value : Int) : SendError :=
  match RuntimeFailure.ofCode value with
  | .actorTypeNotRegistered => .actorTypeNotRegistered ""
  | .notOwner => .notOwner
  | .mailboxFull => .mailboxFull
  | .activationFailed => .activationFailed
  | .actorDeactivating => .actorDeactivating
  | .runtimeAtCapacity => .runtimeAtCapacity
  | .runtimeShuttingDown => .runtimeShuttingDown
  | .actorStopped => .actorStopped
  | .runtimeStopped => .runtimeStopped
  | .nodeFenced => .nodeFenced
  | .remoteUnavailable => .remoteUnavailable
  | .ownershipUnavailable => .ownershipUnavailable
  | _ => .remoteProtocol .versionMismatch

/-- What is left of an error that was sent over a connection. -/
theorem fromWire_toWire (error : SendError) :
    fromWire (toWire error) = match error with
      | .actorTypeNotRegistered _ => .actorTypeNotRegistered ""
      | .directoryUnavailable => .remoteUnavailable
      | .remoteProtocol _ => .remoteProtocol .versionMismatch
      | other => other := by
  cases error <;> simp only [toWire, fromWire, RuntimeFailure.ofCode_code]

/-! ## Envelopes to a Client -/

/-- The `SessionOpenedAck` outcome; a failure is a number. -/
inductive AckOutcome where
  | ok
  | failure (code : Int)
  deriving DecidableEq, Repr

end Coactor.Transport
