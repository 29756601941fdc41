import Coactor.Coordination.NodeSession
import Coactor.Coordination.RoutingSoundness

/-!
# Who owns an Actor, asked by a Client and by a Server

`ClientInner::resolve_owner` and `ClusterRouter::resolve` each decide from the
owner record and the Node Directory whether an owner is alive.  Both are run
here against one snapshot of the store that nobody else changes, and their
answers are compared.
-/

namespace Coactor.Client

open Coactor.Coordination
open Coactor.Foundation

/-! ## `resolve_owner` -/

/-- `char::is_whitespace`. -/
def isWhitespace (character : Char) : Bool :=
  let code := character.toNat
  (9 ≤ code && code ≤ 13) || code == 0x20 || code == 0x85 || code == 0xA0 || code == 0x1680 ||
    (0x2000 ≤ code && code ≤ 0x200A) || code == 0x2028 || code == 0x2029 || code == 0x202F ||
    code == 0x205F || code == 0x3000

/-- `str::trim(..).is_empty()`. -/
def isBlank (text : String) : Bool := text.toList.all isWhitespace

inductive OwnerResolution where
  | live (endpoint : String) (nodeId : String) (sessionId : NodeSessionId)
  | unowned
  deriving DecidableEq, Repr

abbrev OwnerProgram := RouterProgram (Except SendError OwnerResolution)

/-- What `resolve_owner` makes of the directory's answer about an owner. -/
def judgeOwner (owner : ActorOwner) : Option NodeRecord → Except SendError OwnerResolution
  | none => .ok .unowned
  | some node =>
      if node.sessionId ≠ owner.sessionId then .ok .unowned
      else if node.protocolVersion ≠ transportProtocolVersion ∨
          isBlank node.advertisedEndpoint = true then .error .remoteUnavailable
      else .ok (.live node.advertisedEndpoint owner.nodeId owner.sessionId)

/-- `ClientInner::resolve_owner`. -/
def resolveOwner : OwnerProgram :=
  .call .readActorOwner fun
    | .ok none => .ret (.ok .unowned)
    | .ok (some current) =>
        match current.record.owner with
        | none => .ret (.ok .unowned)
        | some owner => .call (.readNode owner.nodeId) fun
            | .ok node => .ret (judgeOwner owner node)
            | _ => .ret (.error .directoryUnavailable)
    | _ => .ret (.error .ownershipUnavailable)

/-! ## A store that nobody else changes -/

/-- The owner record of one address, the lease of every node id, and the time. -/
structure Snapshot where
  owner : Option VersionedActorOwnerRecord
  leases : String → Option StoredNodeLease
  now : Nat

namespace Snapshot

variable (snapshot : Snapshot)

/-- `read_node`: the stored record under its key, unless it has expired. -/
def readNode (nodeId : String) : Option NodeRecord :=
  match snapshot.leases nodeId with
  | none => none
  | some lease =>
      if lease.expiresAtUnixMs ≤ wallTimeMillis snapshot.now then none
      else some { lease.node with nodeId := nodeId }

/-- Every unexpired lease can be connected to. -/
def Reachable : Prop :=
  ∀ nodeId node, snapshot.readNode nodeId = some node →
    node.protocolVersion = transportProtocolVersion ∧ isBlank node.advertisedEndpoint = false

/-- A Server session holds the unexpired lease of its node. -/
def Holds (router : ClusterRouter) : Prop :=
  ∃ node, snapshot.readNode router.nodeId = some node ∧ node.sessionId = router.sessionId

end Snapshot

/-- A snapshot in use: the free permits, the conditional writes issued so far
with their outcomes, and the revision the next write gets. -/
structure World where
  snapshot : Snapshot
  available : Nat
  writes : List (ActorOwnerRecord × MutationOutcome Revision)
  next : Nat → Revision

namespace World

/-- `compare_exchange_actor_owner` without a concurrent writer. -/
def compareExchange (world : World) (record : ActorOwnerRecord) (revision : Option Revision) :
    World :=
  if world.snapshot.owner.map VersionedActorOwnerRecord.revision = revision then
    let fresh := world.next world.writes.length
    { world with
      snapshot := { world.snapshot with owner := some ⟨record, fresh⟩ }
      writes := world.writes ++ [(record, .applied fresh)] }
  else { world with writes := world.writes ++ [(record, .conflict)] }

/-- Answer one request. -/
def answer (world : World) : (request : RouterCall) → RouterAnswer request × World
  | .readActorOwner => (.ok world.snapshot.owner, world)
  | .readNode nodeId => (.ok (world.snapshot.readNode nodeId), world)
  | .compareExchange record revision =>
      (world.writes.length, world.compareExchange record revision)
  | .awaitMutation ticket =>
      (match world.writes[ticket]? with
        | some (_, outcome) => .ok outcome
        | none => .elapsed, world)
  | .tryAcquire => (decide (0 < world.available), { world with available := world.available - 1 })
  | .dropReservation => ((), { world with available := world.available + 1 })

end World

/-! ## What the Server does -/

variable {world : World} {router : ClusterRouter}

/-- A write went through, and only that one. -/
structure Claims (world : World) (record : ActorOwnerRecord)
    (outcome : Except SendError ResolvedOwner × World) : Prop where
  result : outcome.1 = .ok (.localOwner true)
  writes : outcome.2.writes =
    world.writes ++ [(record, .applied (world.next world.writes.length))]
  stored : outcome.2.snapshot.owner = some ⟨record, world.next world.writes.length⟩

/-- A claim over the stored record goes through at once. -/
theorem compareExchange_applies (world : World) {current : Option VersionedActorOwnerRecord}
    (stored : world.snapshot.owner = current) (record : ActorOwnerRecord) :
    world.compareExchange record (current.map VersionedActorOwnerRecord.revision) =
      { world with
        snapshot := { world.snapshot with
          owner := some ⟨record, world.next world.writes.length⟩ }
        writes := world.writes ++ [(record, .applied (world.next world.writes.length))] } := by
  simp only [World.compareExchange, stored, if_true]

theorem claims_takeOver {current : Option VersionedActorOwnerRecord}
    {again : ClusterRouter.ResolveProgram} (free : 0 < world.available)
    (stored : world.snapshot.owner = current) :
    Claims world (router.localClaim (nextEpoch current))
      (Program.execute World.answer world (router.takeOver current again)) := by
  have applied := compareExchange_applies
    { world with available := world.available - 1 } stored (router.localClaim (nextEpoch current))
  constructor <;>
    simp [ClusterRouter.takeOver, Program.execute, World.answer, free, applied]

theorem claims_claim {current : VersionedActorOwnerRecord} (free : 0 < world.available)
    (stored : world.snapshot.owner = some current) :
    Claims world (router.localClaim (nextEpoch (some current)))
      (Program.execute World.answer world (router.claim current)) := by
  have applied := compareExchange_applies
    { world with available := world.available - 1 } stored (router.localClaim (nextEpoch (some current)))
  rw [Option.map_some] at applied
  constructor <;>
    simp [ClusterRouter.claim, Program.execute, World.answer, free, applied]

/-! ## Agreement -/

/-- The first step of `resolve` reads the stored record. -/
theorem execute_resolve : Program.execute World.answer world router.resolve =
    Program.execute World.answer world
      (router.attempt (router.resolveLoop 2) world.snapshot.owner) := rfl

/-- What `resolve_owner` finds in a snapshot. -/
def Snapshot.resolution (snapshot : Snapshot) : Except SendError OwnerResolution :=
  match snapshot.owner with
  | none => .ok .unowned
  | some current =>
      match current.record.owner with
      | none => .ok .unowned
      | some owner => judgeOwner owner (snapshot.readNode owner.nodeId)

theorem execute_resolveOwner :
    (Program.execute World.answer world resolveOwner).1 = world.snapshot.resolution := by
  simp only [resolveOwner, Program.execute, World.answer, Snapshot.resolution]
  cases world.snapshot.owner with
  | none => rfl
  | some current =>
      simp only
      cases current.record.owner <;> rfl

/-- An owner is live for a Client exactly if the directory lists its session. -/
theorem judgeOwner_cases {snapshot : Snapshot} (reachable : snapshot.Reachable)
    (owner : ActorOwner) :
    (∃ node, snapshot.readNode owner.nodeId = some node ∧ node.sessionId = owner.sessionId ∧
      judgeOwner owner (snapshot.readNode owner.nodeId) =
        .ok (.live node.advertisedEndpoint owner.nodeId owner.sessionId)) ∨
    ((∀ node, snapshot.readNode owner.nodeId = some node → node.sessionId ≠ owner.sessionId) ∧
      judgeOwner owner (snapshot.readNode owner.nodeId) = .ok .unowned) := by
  cases listed : snapshot.readNode owner.nodeId with
  | none => exact .inr ⟨by rintro _ ⟨⟩, rfl⟩
  | some node =>
      obtain ⟨version, endpoint⟩ := reachable _ _ listed
      by_cases same : node.sessionId = owner.sessionId
      · exact .inl ⟨node, rfl, same, by simp [judgeOwner, same, version, endpoint]⟩
      · refine .inr ⟨?_, by simp [judgeOwner, same]⟩
        rintro _ ⟨⟩
        exact same

/-- What a Server does about an address, compared with what a Client finds. -/
def Agrees (router : ClusterRouter) (before : World)
    (outcome : Except SendError ResolvedOwner × World) :
    Except SendError OwnerResolution → Prop
  | .ok (.live _ nodeId sessionId) => outcome.2.writes = before.writes ∧
      outcome.1 = .ok (if router = ⟨nodeId, sessionId⟩ then .localOwner false else .remote)
  | .ok .unowned => Claims before (router.localClaim (nextEpoch before.snapshot.owner)) outcome
  | .error _ => False

/-- The session of an owner that a Client finds live is the one that holds the
lease, so on the Server's own node it is the Server's session. -/
theorem eq_of_live {snapshot : Snapshot} (holds : snapshot.Holds router) {owner : ActorOwner}
    {node : NodeRecord} (listed : snapshot.readNode owner.nodeId = some node)
    (same : node.sessionId = owner.sessionId) (ownNode : owner.nodeId = router.nodeId) :
    router = ⟨owner.nodeId, owner.sessionId⟩ := by
  obtain ⟨held, found, session⟩ := holds
  rw [ownNode, found, Option.some.injEq] at listed
  subst listed
  rw [← same, session, ownNode]

theorem agrees_live {current : VersionedActorOwnerRecord} {owner : ActorOwner}
    {node : NodeRecord} (holds : world.snapshot.Holds router)
    (named : current.record.owner = some owner)
    (listed : world.snapshot.readNode owner.nodeId = some node)
    (same : node.sessionId = owner.sessionId) :
    Agrees router world
      (Program.execute World.answer world
        (router.attempt (router.resolveLoop 2) (some current)))
      (.ok (.live node.advertisedEndpoint owner.nodeId owner.sessionId)) := by
  by_cases own : router = ⟨owner.nodeId, owner.sessionId⟩
  · have isLocal : router.isLocalOwner current.record = true := by
      rw [ClusterRouter.isLocalOwner_iff, named, own]
    simp only [Agrees, ClusterRouter.attempt, isLocal, if_true, Program.execute, if_pos own]
    exact ⟨trivial, trivial⟩
  · have foreign : ¬ router.isLocalOwner current.record = true := by
      rw [ClusterRouter.isLocalOwner_iff, named]
      rintro ⟨⟩
      exact own rfl
    have otherNode : owner.nodeId ≠ router.nodeId := fun ownNode =>
      own (eq_of_live holds listed same ownNode)
    simp [Agrees, ClusterRouter.attempt, Program.execute, World.answer, foreign, named,
      otherNode, listed, same, own]

theorem agrees_gone {current : VersionedActorOwnerRecord} {owner : ActorOwner}
    (holds : world.snapshot.Holds router) (free : 0 < world.available)
    (stored : world.snapshot.owner = some current)
    (named : current.record.owner = some owner)
    (unlisted : ∀ node, world.snapshot.readNode owner.nodeId = some node →
      node.sessionId ≠ owner.sessionId) :
    Claims world (router.localClaim (nextEpoch (some current)))
      (Program.execute World.answer world
        (router.attempt (router.resolveLoop 2) (some current))) := by
  obtain ⟨held, found, session⟩ := holds
  have foreign : ¬ router.isLocalOwner current.record = true := by
    rw [ClusterRouter.isLocalOwner_iff, named]
    rintro ⟨⟩
    exact unlisted held found session
  simp only [ClusterRouter.attempt, named, if_neg foreign]
  split
  · exact claims_claim free stored
  · have unconfirmed : ¬ (world.snapshot.readNode owner.nodeId).any
        (fun node => node.sessionId == owner.sessionId) = true := by
      simpa [Option.any_eq_true] using unlisted
    simp only [Program.execute, World.answer, if_neg unconfirmed]
    exact claims_takeOver free stored

/-- Over one snapshot, with its lease and a free permit, a Server serves what a
Client finds live with it, turns down what is live elsewhere, and claims with
one write what nobody owns. -/
theorem client_and_server_agree (world : World) (router : ClusterRouter)
    (reachable : world.snapshot.Reachable) (holds : world.snapshot.Holds router)
    (free : 0 < world.available) :
    Agrees router world (Program.execute World.answer world router.resolve)
      (Program.execute World.answer world resolveOwner).1 := by
  rw [execute_resolveOwner, execute_resolve, Snapshot.resolution]
  cases stored : world.snapshot.owner with
  | none =>
      rw [Agrees, stored]
      exact claims_takeOver free stored
  | some current =>
      simp only
      cases named : current.record.owner with
      | none =>
          have foreign : ¬ router.isLocalOwner current.record = true := by
            simp [ClusterRouter.isLocalOwner, named]
          simp only [Agrees, stored, ClusterRouter.attempt, named, if_neg foreign]
          exact claims_takeOver free stored
      | some owner =>
          rcases judgeOwner_cases reachable owner with ⟨node, listed, same, judged⟩ | ⟨gone, judged⟩
          · simp only [judged]
            exact agrees_live holds named listed same
          · simp only [judged, Agrees, stored]
            exact agrees_gone holds free stored named gone

/-! ## Two nodes -/

/-- A lease that expires at instant 100. -/
def unexpiredLease (nodeId endpoint : String) (sessionId : NodeSessionId) :
    StoredNodeLease where
  node := ServerRuntimeConfig.node ⟨nodeId, endpoint, 100, 4⟩ sessionId 0
  expiresAtUnixMs := 100

/-- `node-a` and `node-b` hold leases, and an owner record is given. -/
def twoNodeWorld (owner : Option VersionedActorOwnerRecord) : World where
  snapshot :=
    { owner := owner
      leases := fun nodeId =>
        if nodeId = "node-a" then some (unexpiredLease "node-a" "host-a:7000" ⟨"a-1"⟩)
        else if nodeId = "node-b" then some (unexpiredLease "node-b" "host-b:7000" ⟨"b-1"⟩)
        else none
      now := 50 }
  available := 1
  writes := []
  next := fun _ => ⟨"r-1"⟩

theorem hostA_not_blank : isBlank "host-a:7000" = false := by decide

theorem hostB_not_blank : isBlank "host-b:7000" = false := by decide

theorem twoNodeWorld_reachable (owner : Option VersionedActorOwnerRecord) :
    (twoNodeWorld owner).snapshot.Reachable := by
  intro nodeId node listed
  simp only [Snapshot.readNode, twoNodeWorld] at listed
  split at listed
  · cases listed
  · rename_i lease found
    split at found
    · cases found
      cases listed
      exact ⟨rfl, hostA_not_blank⟩
    · split at found
      · cases found
        cases listed
        exact ⟨rfl, hostB_not_blank⟩
      · cases found

theorem twoNodeWorld_holds (owner : Option VersionedActorOwnerRecord) :
    (twoNodeWorld owner).snapshot.Holds ClusterRouter.firstRouter :=
  ⟨{ (unexpiredLease "node-a" "host-a:7000" ⟨"a-1"⟩).node with nodeId := "node-a" }, rfl, rfl⟩

/-- An Actor of the live session `b-1` is remote for `a-1`. -/
theorem live_owner_is_remote :
    (Program.execute World.answer (twoNodeWorld (some ⟨⟨some ⟨"node-b", ⟨"b-1"⟩⟩, 3⟩, ⟨"r"⟩⟩))
      resolveOwner).1 = .ok (.live "host-b:7000" "node-b" ⟨"b-1"⟩) ∧
    (Program.execute World.answer (twoNodeWorld (some ⟨⟨some ⟨"node-b", ⟨"b-1"⟩⟩, 3⟩, ⟨"r"⟩⟩))
      ClusterRouter.firstRouter.resolve).1 = .ok .remote := by
  have found : (Program.execute World.answer
      (twoNodeWorld (some ⟨⟨some ⟨"node-b", ⟨"b-1"⟩⟩, 3⟩, ⟨"r"⟩⟩)) resolveOwner).1 =
      .ok (.live "host-b:7000" "node-b" ⟨"b-1"⟩) := rfl
  have agrees := client_and_server_agree _ _ (twoNodeWorld_reachable _) (twoNodeWorld_holds
    (some ⟨⟨some ⟨"node-b", ⟨"b-1"⟩⟩, 3⟩, ⟨"r"⟩⟩)) (by decide)
  rw [found] at agrees
  exact ⟨found, agrees.2⟩

/-- Over the largest epoch the one write does not carry the epoch plus one. -/
theorem largest_epoch_is_not_advanced :
    let world := twoNodeWorld (some ⟨.unowned u64Max, ⟨"r"⟩⟩)
    world.snapshot.Reachable ∧ world.snapshot.Holds ClusterRouter.firstRouter ∧
      0 < world.available ∧
      (Program.execute World.answer world resolveOwner).1 = .ok .unowned ∧
      ¬ ∃ revision,
        (Program.execute World.answer world ClusterRouter.firstRouter.resolve).2.writes =
          [(ClusterRouter.firstRouter.localClaim (u64Max + 1), .applied revision)] := by
  refine ⟨twoNodeWorld_reachable _, twoNodeWorld_holds _, by decide, rfl, ?_⟩
  rintro ⟨revision, written⟩
  have kept : (Program.execute World.answer (twoNodeWorld (some ⟨.unowned u64Max, ⟨"r"⟩⟩))
      ClusterRouter.firstRouter.resolve).2.writes =
      [(ClusterRouter.firstRouter.localClaim u64Max, .applied ⟨"r-1"⟩)] := rfl
  rw [kept] at written
  simp [ClusterRouter.localClaim] at written

end Coactor.Client
