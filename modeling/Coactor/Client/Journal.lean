import Coactor.Client.System

/-!
# A Client with a record of its calls of `open`

The state of a call forgets which answers, resolutions, candidates and outcomes it
has seen, and the state of a Client forgets whom its receive loops have terminated.
A recorded Client keeps these beside its state, newest first.  The record is
written from the state before a step and has no influence on the steps.
-/

namespace Coactor.Client

open Coactor.Coordination
open Coactor.Foundation
open Coactor.Foundation.Transition
open Coactor.Runtime

/-! ## Entries -/

/-- What a call of `open` is answered, concludes, sends and gives up.  The list of
Node records is the answer of the Node Directory that an iteration selects from. -/
inductive OpenEntry where
  | answered (request : RouterCall) (reply : RouterReply)
  | directory (nodes : List NodeRecord)
  | resolved (result : Except SendError OwnerResolution)
  | listed (candidates : List PlacementCandidate) (selected : Except SendError String)
  | unconnected (target : Target)
  | sent (connection : Nat) (endpoint : String)
  | closeHanded (connection : Nat)
  | ended (target : Target) (error : SendError)
  | placementFailed (endpoint : String)

/-- The call of `on_placement_failed`, if the attempt is a placement. -/
def Target.rollback (target : Target) : List OpenEntry :=
  if target.isPlacement then [.placementFailed target.endpoint] else []

/-- What is left of `resolve_owner` is noted once it has returned. -/
def notedResolution : Option OwnerProgram → List OpenEntry
  | some (.ret result) => [.resolved result]
  | _ => []

/-- What one step of a call adds to its record, newest first. -/
def ClientInner.noted (client : ClientInner) (session : SessionId) (call : OpenCall) :
    OpenPc → OpenEvent → List OpenEntry
  | .resolving program, .reply reply => notedResolution (program.resume? reply)
  | .listing, .nodes nodes ordered =>
      let candidates := placementCandidates nodes
      [.listed candidates (selectPlacementCandidate candidates call.excluded ordered)]
  | .listing, .cached ordered =>
      match client.placementCache with
      | some candidates =>
          [.listed candidates (selectPlacementCandidate candidates call.excluded ordered)]
      | none => []
  | .poolLock target _, .elapsed | .connecting target _, .refused | .connecting target _, .elapsed
  | .choosing target _ none [], .advance => target.rollback ++ [.unconnected target]
  | .sending _ connection ticket, .advance =>
      match client.connections connection with
      | some found =>
          match found.sender.trySend ⟨some ticket, envelopeSessionOpen call.address session⟩ with
          | .ok _ => [.sent connection found.endpoint]
          | .error _ => []
      | none => []
  | .closeSending _ connection _, .advance => [.closeHanded connection]
  | .unbinding target connection .exhausted, .advance =>
      if client.isBound connection session then [] else target.rollback
  | .uncounting target _ .exhausted, .advance => target.rollback
  | .retracting target error, .advance => target.rollback ++ [.ended target error]
  | _, _ => []

/-! ## Recorded Clients -/

/-- A Client, the records of its calls, the last answer of `list_nodes` to any of
them, and the Sessions its receive loops have terminated with their connections. -/
structure Journaled where
  client : ClientInner
  journal : SessionId → List OpenEntry
  directory : Option (List NodeRecord)
  terminated : List (Nat × SessionId)

namespace Journaled

def fresh : Journaled := ⟨.fresh, fun _ => [], none, []⟩

/-- The answer that a step of a call goes on with; the cached candidates are those
of the last list of Node records. -/
def heard (state : Journaled) : OpenPc → OpenEvent → List OpenEntry
  | .resolving (.call request _), .reply reply => [.answered request reply]
  | .listing, .nodes nodes _ => [.directory nodes]
  | .listing, .cached _ => state.directory.toList.map .directory
  | _, _ => []

/-- The record of the calls after a step. -/
def journalAfter (state : Journaled) : ClientEvent → SessionId → List OpenEntry
  | .call session event =>
      match state.client.calls session with
      | some call => Function.update state.journal session
          (state.client.noted session call call.pc event ++
            (state.heard call.pc event ++ state.journal session))
      | none => state.journal
  | _ => state.journal

/-- The last answer of `list_nodes` after a step. -/
def directoryAfter (state : Journaled) : ClientEvent → Option (List NodeRecord)
  | .call _ (.nodes nodes _) => some nodes
  | _ => state.directory

/-- The Session that a step of a receive loop terminates. -/
def terminatedBy (state : Journaled) : ClientEvent → List (Nat × SessionId)
  | .loop id _ =>
      match (state.client.connections id).map TransportConnection.loop with
      | some (.terminating session _) => [(id, session)]
      | _ => []
  | _ => []

def record (state : Journaled) (after : ClientInner) (event : ClientEvent) : Journaled where
  client := after
  journal := state.journalAfter event
  directory := state.directoryAfter event
  terminated := state.terminatedBy event ++ state.terminated

end Journaled

/-- Every interleaving of the tasks of one Client, recorded. -/
def journaledSystem (config : ClientConfig) : System Journaled ClientEvent where
  initial := fun state => state = .fresh
  step? := fun state event =>
    (state.client.step? config event).map fun after => state.record after event

theorem journaled_step {config : ClientConfig} {state next : Journaled} {event : ClientEvent}
    (stepped : (journaledSystem config).step? state event = some next) :
    ∃ after, state.client.step? config event = some after ∧ next = state.record after event := by
  obtain ⟨after, moved, rfl⟩ := Option.map_eq_some_iff.mp stepped
  exact ⟨after, moved, rfl⟩

/-- A recorded run is a run of the Client. -/
theorem client_of_journaled {config : ClientConfig} {guard : Journaled → ClientEvent → Prop}
    {state : Journaled} (reach : (journaledSystem config).ReachableWhile guard state) :
    (clientSystem config).Reachable state.client := by
  refine invariant_of_step
    (fun state : Journaled => (clientSystem config).Reachable state.client) ?_ ?_ reach
  · rintro _ rfl
    exact .start rfl
  · intro before label after earlier _ stepped
    obtain ⟨client, moved, rfl⟩ := journaled_step stepped
    exact .step earlier trivial moved

/-! ## What a record tells -/

/-- The identity of the live owner last resolved. -/
def lastLive : List OpenEntry → Option (String × NodeSessionId)
  | .resolved (.ok (.live _ nodeId sessionId)) :: _ => some (nodeId, sessionId)
  | _ :: earlier => lastLive earlier
  | [] => none

/-- How often a live owner was resolved that is not the one resolved before. -/
def liveChanges : List OpenEntry → Nat
  | .resolved (.ok (.live _ nodeId sessionId)) :: earlier =>
      liveChanges earlier +
        if (lastLive earlier).any fun last => last != (nodeId, sessionId) then 1 else 0
  | _ :: earlier => liveChanges earlier
  | [] => 0

/-- The number of iterations that have resolved their owner. -/
def iterations : List OpenEntry → Nat
  | .resolved _ :: earlier => iterations earlier + 1
  | _ :: earlier => iterations earlier
  | [] => 0

/-- The number of `SessionOpen` messages sent. -/
def sends : List OpenEntry → Nat
  | .sent _ _ :: earlier => sends earlier + 1
  | _ :: earlier => sends earlier
  | [] => 0

/-- The live owner last given up because its Server could not be reached. -/
def failedLive : List OpenEntry → Option (String × NodeSessionId)
  | .unconnected ⟨_, some identity⟩ :: _ | .ended ⟨_, some identity⟩ .remoteUnavailable :: _ =>
      some identity
  | _ :: earlier => failedLive earlier
  | [] => none

/-- A placement attempt at this endpoint has failed to connect, or was answered
`RuntimeAtCapacity` or `RemoteUnavailable`. -/
def RuledOut (endpoint : String) (journal : List OpenEntry) : Prop :=
  .unconnected ⟨endpoint, none⟩ ∈ journal ∨ .ended ⟨endpoint, none⟩ .runtimeAtCapacity ∈ journal ∨
    .ended ⟨endpoint, none⟩ .remoteUnavailable ∈ journal

/-- What the answers that an iteration got, newest first, show about the owner: it is
live if the directory lists its session with the protocol version of the Client and an
endpoint, and nobody is if no session is recorded or the directory does not list it. -/
inductive Shows : List OpenEntry → OwnerResolution → Prop where
  | absent : Shows [.answered .readActorOwner (.owner (.ok none))] .unowned
  | released {current : VersionedActorOwnerRecord} (free : current.record.owner = none) :
      Shows [.answered .readActorOwner (.owner (.ok (some current)))] .unowned
  | gone {current : VersionedActorOwnerRecord} {owner : ActorOwner} {found : Option NodeRecord}
      (names : current.record.owner = some owner)
      (unlisted : ∀ node, found = some node → node.sessionId ≠ owner.sessionId) :
      Shows [.answered (.readNode owner.nodeId) (.node (.ok found)),
        .answered .readActorOwner (.owner (.ok (some current)))] .unowned
  | live {current : VersionedActorOwnerRecord} {owner : ActorOwner} {node : NodeRecord}
      (names : current.record.owner = some owner) (listed : node.sessionId = owner.sessionId)
      (speaks : node.protocolVersion = transportProtocolVersion)
      (named : isBlank node.advertisedEndpoint = false) :
      Shows [.answered (.readNode owner.nodeId) (.node (.ok (some node))),
        .answered .readActorOwner (.owner (.ok (some current)))]
        (.live node.advertisedEndpoint owner.nodeId owner.sessionId)

/-- A Node that a new actor may be placed on. -/
structure MayHost (node : NodeRecord) : Prop where
  speaks : node.protocolVersion = transportProtocolVersion
  named : isBlank node.advertisedEndpoint = false
  relaxed : node.pressured = false
  staying : node.draining = false
  spare : node.activeActorCount < node.maxActorCount

/-- What a `SessionOpen` may be sent on: the advertised endpoint of the owner that the
answers of the iteration show live, or that of a listed Node that may host the actor,
after the answers of the iteration have shown that nobody owns it. -/
inductive Legitimate : List OpenEntry → String → Prop where
  | live {answers : List OpenEntry} {endpoint nodeId : String} {sessionId : NodeSessionId}
      (earlier : List OpenEntry) (shows : Shows answers (.live endpoint nodeId sessionId))
      (unfailed : failedLive earlier ≠ some (nodeId, sessionId)) :
      Legitimate (.resolved (.ok (.live endpoint nodeId sessionId)) :: (answers ++ earlier)) endpoint
  | placed {answers : List OpenEntry} {nodes : List NodeRecord} {node : NodeRecord}
      (earlier : List OpenEntry) (shows : Shows answers .unowned) (listed : node ∈ nodes)
      (hosts : MayHost node) (untried : ¬ RuledOut node.advertisedEndpoint earlier) :
      Legitimate (.listed (placementCandidates nodes) (.ok node.advertisedEndpoint) ::
        .directory nodes :: .resolved (.ok .unowned) :: (answers ++ earlier))
        node.advertisedEndpoint

/-- What happens to the selected candidates, newest first. -/
inductive PlacementMark where
  | selected (endpoint : String)
  | failed (endpoint : String)
  deriving DecidableEq, Repr

def placementMarks : List OpenEntry → List PlacementMark
  | .listed _ (.ok endpoint) :: earlier => .selected endpoint :: placementMarks earlier
  | .placementFailed endpoint :: earlier => .failed endpoint :: placementMarks earlier
  | _ :: earlier => placementMarks earlier
  | [] => []

/-- Every selection was followed by one `on_placement_failed` for its endpoint. -/
inductive RolledBack : List PlacementMark → Prop where
  | nil : RolledBack []
  | pair (endpoint : String) {marks : List PlacementMark} (earlier : RolledBack marks) :
      RolledBack (.failed endpoint :: .selected endpoint :: marks)

end Coactor.Client
