import Coactor.Coordination.Records
import Coactor.Foundation.Program

/-!
# The Cluster Router

`resolve`, `claim` and `release_local_owner` are interaction programs: every
read of the store, every conditional write, the answer to it, and every permit
taken from or returned to the capacity semaphore is a request.  A conditional
write is two requests, one that hands it to the store and one that awaits its
outcome, because the store may act on it at any later time.  Both functions run
under the resolution lock of their address, which their caller takes.
-/

namespace Coactor.Coordination

open Coactor.Foundation

/-! ## Requests -/

/-- What a router asks of its environment. -/
inductive RouterCall where
  | readActorOwner
  | readNode (nodeId : String)
  | compareExchange (record : ActorOwnerRecord) (revision : Option Revision)
  | awaitMutation (ticket : Nat)
  | tryAcquire
  | dropReservation
  deriving DecidableEq, Repr

def RouterAnswer : RouterCall → Type
  | .readActorOwner => Reply (Option VersionedActorOwnerRecord)
  | .readNode _ => Reply (Option NodeRecord)
  | .compareExchange _ _ => Nat
  | .awaitMutation _ => Reply (MutationOutcome Revision)
  | .tryAcquire => Bool
  | .dropReservation => Unit

/-- An answer together with the kind of request it belongs to. -/
inductive RouterReply where
  | owner (reply : Reply (Option VersionedActorOwnerRecord))
  | node (reply : Reply (Option NodeRecord))
  | issued (ticket : Nat)
  | outcome (reply : Reply (MutationOutcome Revision))
  | permit (granted : Bool)
  | dropped
  deriving DecidableEq, Repr

/-- The answer a reply gives to a request of its kind. -/
def RouterReply.answer? : (request : RouterCall) → RouterReply → Option (RouterAnswer request)
  | .readActorOwner, .owner reply => some reply
  | .readNode _, .node reply => some reply
  | .compareExchange _ _, .issued ticket => some ticket
  | .awaitMutation _, .outcome reply => some reply
  | .tryAcquire, .permit granted => some granted
  | .dropReservation, .dropped => some ()
  | _, _ => none

abbrev RouterProgram (Result : Type) := Program RouterCall RouterAnswer Result

namespace RouterProgram

variable {Result : Type}

/-- The request a suspended router waits on. -/
def request? : RouterProgram Result → Option RouterCall
  | .ret _ => none
  | .call request _ => some request

/-- Continue a suspended router with a reply of the right kind. -/
def resume? : RouterProgram Result → RouterReply → Option (RouterProgram Result)
  | .ret _, _ => none
  | .call request resume, reply => (reply.answer? request).map resume

theorem resume?_cases {program next : RouterProgram Result} {reply : RouterReply}
    (resumed : program.resume? reply = some next) :
    ∃ request resume answer, program = .call request resume ∧
      reply.answer? request = some answer ∧ next = resume answer := by
  cases program with
  | ret result => cases resumed
  | call request resume =>
      obtain ⟨answer, decoded, same⟩ := Option.map_eq_some_iff.mp resumed
      exact ⟨request, resume, answer, rfl, decoded, same.symm⟩

end RouterProgram

/-! ## The router -/

/-- Whom `resolve` found or made the owner; `reservation` tells whether a permit
comes with the answer. -/
inductive ResolvedOwner where
  | localOwner (reservation : Bool)
  | remote
  deriving DecidableEq, Repr

structure ClusterRouter where
  nodeId : String
  sessionId : NodeSessionId
  deriving DecidableEq, Repr

/-- The epoch of a claim over the record that was read. -/
def nextEpoch (current : Option VersionedActorOwnerRecord) : Nat :=
  match current with
  | none => 1
  | some current => saturatingAdd current.record.ownershipEpoch 1

namespace ClusterRouter

variable (router : ClusterRouter)

def isLocalOwner (record : ActorOwnerRecord) : Bool :=
  record.owner.any fun owner =>
    owner.nodeId == router.nodeId && owner.sessionId == router.sessionId

def localClaim (epoch : Nat) : ActorOwnerRecord :=
  ⟨some ⟨router.nodeId, router.sessionId⟩, epoch⟩

abbrev ResolveProgram := RouterProgram (Except SendError ResolvedOwner)

abbrev ReleaseProgram := RouterProgram (Except SendError Unit)

/-- Give the reservation back and fail. -/
def abandon (error : SendError) : ResolveProgram :=
  .call .dropReservation fun _ => .ret (.error error)

/-- The read-backs of `resolve` after an indeterminate claim. -/
def confirmClaim (expected : ActorOwnerRecord) (again : ResolveProgram) : Nat → ResolveProgram
  | 0 => abandon .ownershipUnavailable
  | left + 1 => .call .readActorOwner fun
      | .ok (some confirmed) =>
          if confirmed.record = expected then .ret (.ok (.localOwner true))
          else if confirmed.record.owner.isSome then .call .dropReservation fun _ => again
          else confirmClaim expected again left
      | _ => confirmClaim expected again left

/-- The conditional write of `resolve` and what follows each outcome. -/
def takeOver (current : Option VersionedActorOwnerRecord) (again : ResolveProgram) :
    ResolveProgram :=
  .call .tryAcquire fun
    | false => .ret (.error .runtimeAtCapacity)
    | true =>
        .call (.compareExchange (router.localClaim (nextEpoch current))
          (current.map VersionedActorOwnerRecord.revision)) fun ticket =>
        .call (.awaitMutation ticket) fun
          | .ok (.applied _) => .ret (.ok (.localOwner true))
          | .ok .conflict => .call .dropReservation fun _ => again
          | .ok (.indeterminate _) =>
              confirmClaim (router.localClaim (nextEpoch current)) again 3
          | _ => abandon .ownershipUnavailable

/-- `claim`, taken when the record names another session of this node. -/
def claim (current : VersionedActorOwnerRecord) : ResolveProgram :=
  .call .tryAcquire fun
    | false => .ret (.error .runtimeAtCapacity)
    | true =>
        .call (.compareExchange (router.localClaim (nextEpoch (some current)))
          (some current.revision)) fun ticket =>
        .call (.awaitMutation ticket) fun
          | .ok (.applied _) => .ret (.ok (.localOwner true))
          | .ok .conflict => .call .dropReservation fun _ => .ret (.ok .remote)
          | .ok (.indeterminate _) => .call .readActorOwner fun
              | .ok (some confirmed) =>
                  if confirmed.record = router.localClaim (nextEpoch (some current)) then
                    .ret (.ok (.localOwner true))
                  else abandon .ownershipUnavailable
              | _ => abandon .ownershipUnavailable
          | _ => abandon .ownershipUnavailable

/-- One attempt of `resolve`, after the owner record has been read. -/
def attempt (again : ResolveProgram) : Option VersionedActorOwnerRecord → ResolveProgram
  | none => router.takeOver none again
  | some current =>
      if router.isLocalOwner current.record then .ret (.ok (.localOwner false))
      else match current.record.owner with
        | none => router.takeOver (some current) again
        | some owner =>
            if owner.nodeId = router.nodeId then router.claim current
            else .call (.readNode owner.nodeId) fun
              | .ok node =>
                  if node.any fun node => node.sessionId == owner.sessionId then
                    .ret (.ok .remote)
                  else router.takeOver (some current) again
              | _ => .ret (.error .ownershipUnavailable)

/-- The attempts of `resolve`. -/
def resolveLoop : Nat → ResolveProgram
  | 0 => .ret (.ok .remote)
  | left + 1 => .call .readActorOwner fun
      | .ok current => router.attempt (resolveLoop left) current
      | _ => .ret (.error .ownershipUnavailable)

def resolve : ResolveProgram := router.resolveLoop 3

/-- The read-backs of `release_local_owner`. -/
def confirmRelease (current : ActorOwnerRecord) : Nat → ReleaseProgram
  | 0 => .ret (.error .ownershipUnavailable)
  | left + 1 => .call .readActorOwner fun
      | .ok (some read) =>
          if read.record = .unowned current.ownershipEpoch then .ret (.ok ())
          else if read.record = current then confirmRelease current left
          else .ret (.error .ownershipUnavailable)
      | _ => confirmRelease current left

def releaseLocalOwner : ReleaseProgram :=
  .call .readActorOwner fun
    | .ok (some current) =>
        if router.isLocalOwner current.record then
          .call (.compareExchange (.unowned current.record.ownershipEpoch)
            (some current.revision)) fun ticket =>
          .call (.awaitMutation ticket) fun
            | .ok (.applied _) => .ret (.ok ())
            | .ok _ => confirmRelease current.record 3
            | _ => .ret (.error .ownershipUnavailable)
        else .ret (.error .ownershipUnavailable)
    | _ => .ret (.error .ownershipUnavailable)

/-- The router of the session `a-1` on `node-a`. -/
def firstRouter : ClusterRouter := ⟨"node-a", ⟨"a-1"⟩⟩

end ClusterRouter

end Coactor.Coordination
