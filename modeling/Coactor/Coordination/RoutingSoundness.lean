import Coactor.Coordination.RoutingContract

/-!
# Ownership resolution, exchange by exchange

One call of `resolve` is followed through everything it asks and hears.  The
statements are about the whole trace: which read named the session, which
conditional write was reported applied and which was read back, what the last
read said when a write is issued, and how many permits were taken and dropped.
-/

namespace Coactor.Coordination

open Coactor.Foundation
open Coactor.Foundation.Program

abbrev RouterTrace := Exchanges RouterCall RouterAnswer

abbrev RouterExchange := (request : RouterCall) × RouterAnswer request

namespace RouterExchange

/-- What a read of the owner record returned, if it returned. -/
def ownerRead? : RouterExchange → Option (Option VersionedActorOwnerRecord)
  | ⟨.readActorOwner, .ok current⟩ => some current
  | _ => none

def isGrant : RouterExchange → Bool
  | ⟨.tryAcquire, granted⟩ => granted
  | _ => false

def isDrop : RouterExchange → Bool
  | ⟨.dropReservation, _⟩ => true
  | _ => false

end RouterExchange

namespace RouterTrace

/-- The owner record as it was last read. -/
def lastRead (trace : RouterTrace) : Option (Option VersionedActorOwnerRecord) :=
  trace.findSome? RouterExchange.ownerRead?

/-- The exchanges since the owner record was last read. -/
def sinceRead (trace : RouterTrace) : RouterTrace :=
  trace.takeWhile fun exchange => (RouterExchange.ownerRead? exchange).isNone

/-- The permits held at the end of a trace. -/
def Holds (trace : RouterTrace) (permits : Nat) : Prop :=
  trace.countP RouterExchange.isGrant = trace.countP RouterExchange.isDrop + permits

/-- The directory confirmed this owner after the owner record was last read. -/
def Confirmed (trace : RouterTrace) (owner : ActorOwner) : Prop :=
  ∃ node : NodeRecord, ⟨.readNode owner.nodeId, .ok (some node)⟩ ∈ trace.sinceRead ∧
    node.sessionId = owner.sessionId

/-- A conditional write that was reported applied, or whose outcome was unknown
and whose record a later read returned. -/
def Claimed (trace : RouterTrace) (record : ActorOwnerRecord) : Prop :=
  ∃ (later earlier : RouterTrace) (revision : Option Revision) (ticket : Nat)
    (outcome : Reply (MutationOutcome Revision)),
    trace = later ++ ⟨.awaitMutation ticket, outcome⟩ ::
      ⟨.compareExchange record revision, ticket⟩ :: earlier ∧
    ((∃ applied, outcome = .ok (.applied applied)) ∨
      ∃ error confirmed, outcome = .ok (.indeterminate error) ∧
        ⟨.readActorOwner, .ok (some confirmed)⟩ ∈ later ∧ confirmed.record = record)

end RouterTrace

namespace ClusterRouter

variable (router : ClusterRouter)

/-- What a conditional write must carry, given everything before it. -/
structure ClaimSound (trace : RouterTrace) (record : ActorOwnerRecord)
    (revision : Option Revision) (current : Option VersionedActorOwnerRecord) : Prop where
  read : trace.lastRead = some current
  record_eq : record = router.localClaim (nextEpoch current)
  revision_eq : revision = current.map VersionedActorOwnerRecord.revision
  reserved : trace.Holds 1
  unconfirmed : ∀ found owner, current = some found → found.record.owner = some owner →
    owner.nodeId ≠ router.nodeId → ¬ trace.Confirmed owner

/-- What each result of `resolve` rests on. -/
def ResultSound (trace : RouterTrace) : Except SendError ResolvedOwner → Prop
  | .ok (.localOwner false) => trace.Holds 0 ∧
      ∃ current, ⟨.readActorOwner, .ok (some current)⟩ ∈ trace ∧
        current.record.owner = some ⟨router.nodeId, router.sessionId⟩
  | .ok (.localOwner true) => trace.Holds 1 ∧
      ∃ epoch, trace.Claimed (router.localClaim epoch)
  | .ok .remote => trace.Holds 0
  | .error _ => trace.Holds 0

/-- The requests that are allowed at the end of a trace. -/
def RequestSound (trace : RouterTrace) : RouterCall → Prop
  | .compareExchange record revision => ∃ current, router.ClaimSound trace record revision current
  | .tryAcquire => trace.Holds 0
  | .dropReservation => trace.Holds 1
  | _ => True

/-- The contract of `resolve` on whole traces. -/
def resolveTraceContract :
    Contract RouterCall RouterAnswer (Except SendError ResolvedOwner) RouterTrace :=
  traceContract router.RequestSound router.ResultSound

variable {router} {trace : RouterTrace}

/-! ## Permits -/

theorem holds_of_neutral (exchange : RouterExchange) {permits : Nat}
    (noGrant : RouterExchange.isGrant exchange = false)
    (noDrop : RouterExchange.isDrop exchange = false) (holds : trace.Holds permits) :
    RouterTrace.Holds (exchange :: trace) permits := by
  simpa [RouterTrace.Holds, List.countP_cons, noGrant, noDrop] using holds

theorem holds_grant (holds : trace.Holds 0) :
    RouterTrace.Holds (⟨.tryAcquire, true⟩ :: trace) 1 := by
  unfold RouterTrace.Holds at holds ⊢
  rw [List.countP_cons_of_pos rfl, List.countP_cons_of_neg Bool.false_ne_true, holds]

theorem holds_refusal {permits : Nat} (holds : trace.Holds permits) :
    RouterTrace.Holds (⟨.tryAcquire, false⟩ :: trace) permits :=
  holds_of_neutral _ rfl rfl holds

theorem holds_drop (holds : trace.Holds 1) :
    RouterTrace.Holds (⟨.dropReservation, ()⟩ :: trace) 0 := by
  unfold RouterTrace.Holds at holds ⊢
  rw [List.countP_cons_of_neg Bool.false_ne_true, List.countP_cons_of_pos rfl, holds]

/-! ## The claim and its read-backs -/

/-- A conditional write of unknown outcome stands in the trace. -/
def Undecided (trace : RouterTrace) (record : ActorOwnerRecord) : Prop :=
  ∃ (later earlier : RouterTrace) (revision : Option Revision) (ticket : Nat)
    (error : CoordinationErrorKind),
    trace = later ++ ⟨.awaitMutation ticket, .ok (.indeterminate error)⟩ ::
      ⟨.compareExchange record revision, ticket⟩ :: earlier

theorem undecided_cons {record : ActorOwnerRecord} (exchange : RouterExchange)
    (undecided : Undecided trace record) : Undecided (exchange :: trace) record := by
  obtain ⟨later, earlier, revision, ticket, error, rfl⟩ := undecided
  exact ⟨exchange :: later, earlier, revision, ticket, error, rfl⟩

/-- Reading an undecided record back makes it a claimed one. -/
theorem claimed_of_readBack {record : ActorOwnerRecord} {confirmed : VersionedActorOwnerRecord}
    (undecided : Undecided trace record) (same : confirmed.record = record) :
    RouterTrace.Claimed (⟨.readActorOwner, .ok (some confirmed)⟩ :: trace) record := by
  obtain ⟨later, earlier, revision, ticket, error, rfl⟩ := undecided
  exact ⟨⟨.readActorOwner, .ok (some confirmed)⟩ :: later, earlier, revision, ticket, _, rfl,
    .inr ⟨error, confirmed, rfl, List.mem_cons_self, same⟩⟩

/-- What is known since the last read was known before, or is the newest exchange. -/
theorem sinceRead_cons {exchange found : RouterExchange}
    (noRead : RouterExchange.ownerRead? exchange = none)
    (listed : found ∈ RouterTrace.sinceRead (exchange :: trace)) :
    found = exchange ∨ found ∈ trace.sinceRead := by
  simpa [RouterTrace.sinceRead, noRead] using listed

/-- What a claim needs before it takes its permit. -/
structure Claimable (router : ClusterRouter) (trace : RouterTrace)
    (current : Option VersionedActorOwnerRecord) : Prop where
  free : trace.Holds 0
  read : trace.lastRead = some current
  unconfirmed : ∀ found owner, current = some found → found.record.owner = some owner →
    owner.nodeId ≠ router.nodeId → ¬ trace.Confirmed owner

/-- A granted permit leaves the last read and the directory's word as they are. -/
theorem Claimable.granted {current : Option VersionedActorOwnerRecord}
    (claimable : router.Claimable trace current) :
    router.ClaimSound (⟨.tryAcquire, true⟩ :: trace) (router.localClaim (nextEpoch current))
      (current.map VersionedActorOwnerRecord.revision) current where
  read := claimable.read
  record_eq := rfl
  revision_eq := rfl
  reserved := holds_grant claimable.free
  unconfirmed := by
    rintro found owner rfl named foreign ⟨node, listed, session⟩
    refine claimable.unconfirmed found owner rfl named foreign ⟨node, ?_, session⟩
    exact (sinceRead_cons rfl listed).resolve_left (by rintro ⟨⟩)

/-! ## The outline -/

/-- No owner has been confirmed since the record was read just now. -/
theorem not_confirmed_after_read (current : Option VersionedActorOwnerRecord) (owner : ActorOwner) :
    ¬ RouterTrace.Confirmed (⟨.readActorOwner, .ok current⟩ :: trace) owner := by
  rintro ⟨node, listed, -⟩
  simp [RouterTrace.sinceRead, RouterExchange.ownerRead?] at listed

/-- What holds of the trace right after a read of the owner record. -/
structure JustRead (trace : RouterTrace) (current : Option VersionedActorOwnerRecord) : Prop where
  free : trace.Holds 0
  read : trace.lastRead = some current
  listed : ∀ found, current = some found → ⟨.readActorOwner, .ok (some found)⟩ ∈ trace
  fresh : ∀ owner, ¬ trace.Confirmed owner

theorem JustRead.claimable {current : Option VersionedActorOwnerRecord}
    (justRead : JustRead trace current) : router.Claimable trace current :=
  ⟨justRead.free, justRead.read, fun _ owner _ _ _ => justRead.fresh owner⟩

/-- The permit is held while a claim is answered. -/
theorem holds_afterClaim {current : Option VersionedActorOwnerRecord} (ticket : Nat)
    (outcome : Reply (MutationOutcome Revision)) (free : trace.Holds 0) :
    RouterTrace.Holds (router.afterClaim router.resolveTraceContract trace current ticket outcome)
      1 :=
  holds_of_neutral _ rfl rfl (holds_of_neutral _ rfl rfl (holds_grant free))

/-- The trace tells what was read, what was confirmed since, and the permits. -/
def traceOutline (router : ClusterRouter) :
    router.ResolveOutline router.resolveTraceContract where
  idle := fun trace => trace.Holds 0
  found := fun current trace => JustRead trace current
  claimable := fun current trace => router.Claimable trace current
  held := fun trace => trace.Holds 1
  undecided := fun record trace => trace.Holds 1 ∧ Undecided trace record ∧
    ∃ epoch, record = router.localClaim epoch
  reads := fun _ => trivial
  lost := fun _ free => holds_of_neutral _ rfl rfl free
  read := by
    intro trace current free
    refine ⟨holds_of_neutral _ rfl rfl free, rfl, ?_, not_confirmed_after_read current⟩
    rintro found rfl
    exact List.mem_cons_self
  exhausted := id
  unavailable := id
  atCapacity := id
  here := fun justRead isLocal =>
    ⟨justRead.free, _, justRead.listed _ rfl, router.isLocalOwner_iff.mp isLocal⟩
  absent := JustRead.claimable
  unowned := fun justRead _ => justRead.claimable
  ownNode := fun justRead _ _ _ => justRead.claimable
  asks := fun _ _ => trivial
  asked := fun _ _ justRead => holds_of_neutral _ rfl rfl justRead.free
  unconfirmed := by
    rintro trace current owner node justRead named otherNode unlisted
    refine ⟨holds_of_neutral _ rfl rfl justRead.free, justRead.read, ?_⟩
    rintro found other same named' - ⟨record, listed, session⟩
    cases same
    cases named.symm.trans named'
    rcases sinceRead_cons rfl listed with newest | older
    · cases newest
      exact unlisted (by simp [session])
    · exact justRead.fresh owner ⟨record, older, session⟩
  acquires := fun claimable => claimable.free
  refused := fun claimable => holds_refusal claimable.free
  writes := fun claimable => ⟨_, claimable.granted⟩
  awaits := fun _ _ _ _ => trivial
  answered := fun ticket outcome claimable => holds_afterClaim ticket outcome claimable.free
  applied := fun ticket revision claimable =>
    ⟨holds_afterClaim ticket _ claimable.free, _, [], _, _, ticket, _, rfl, .inl ⟨revision, rfl⟩⟩
  unknown := fun ticket error claimable =>
    ⟨holds_afterClaim ticket _ claimable.free, ⟨[], _, _, ticket, error, rfl⟩, _, rfl⟩
  drops := id
  dropped := holds_drop
  reserved := fun undecided => undecided.1
  readBack := fun answer undecided =>
    ⟨holds_of_neutral _ rfl rfl undecided.1, undecided_cons _ undecided.2.1, undecided.2.2⟩
  confirmed := by
    rintro trace current ⟨reserved, undecided, epoch, claim⟩
    exact ⟨holds_of_neutral _ rfl rfl reserved, epoch, claim ▸ claimed_of_readBack undecided rfl⟩

/-- Whatever the store and the semaphore answer: every conditional write of
`resolve` is sound when it is issued, and every result is when it is returned. -/
theorem resolution_sound (router : ClusterRouter) {trace : RouterTrace}
    {program : ResolveProgram} (reached : Reaches router.resolve trace program) :
    (∀ result, program = .ret result → router.ResultSound trace result) ∧
      ∀ record revision resume, program = .call (.compareExchange record revision) resume →
        ∃ current, router.ClaimSound trace record revision current := by
  have satisfies : Satisfies router.resolveTraceContract trace program :=
    Satisfies.reaches (router.traceOutline.satisfies_resolveLoop 3 rfl) reached
  constructor
  · rintro result rfl
    exact satisfies
  · rintro record revision resume rfl
    exact satisfies.1

/-- A call that reads a released record and takes a permit. -/
def releasedTrace (epoch : Nat) : RouterTrace :=
  [⟨.tryAcquire, true⟩, ⟨.readActorOwner, .ok (some ⟨.unowned epoch, ⟨"r-1"⟩⟩)⟩]

/-- It stands before its conditional write. -/
theorem reaches_releasedTrace (epoch : Nat) : ∃ resume,
    Reaches firstRouter.resolve (releasedTrace epoch)
      (.call (.compareExchange (firstRouter.localClaim (saturatingAdd epoch 1))
        (some ⟨"r-1"⟩)) resume) := by
  have started : Reaches firstRouter.resolve [] firstRouter.resolve := .start
  have read := @Reaches.answered _ _ _ _ _ RouterCall.readActorOwner _ started
    (Reply.ok (some ⟨.unowned epoch, ⟨"r-1"⟩⟩))
  exact ⟨_, @Reaches.answered _ _ _ _ _ RouterCall.tryAcquire _ read true⟩

theorem released_record_is_claimed : ∃ resume,
    Reaches firstRouter.resolve (releasedTrace 4)
      (.call (.compareExchange ⟨some ⟨"node-a", ⟨"a-1"⟩⟩, 5⟩ (some ⟨"r-1"⟩)) resume) ∧
    ∃ current, firstRouter.ClaimSound (releasedTrace 4) ⟨some ⟨"node-a", ⟨"a-1"⟩⟩, 5⟩
      (some ⟨"r-1"⟩) current := by
  obtain ⟨resume, reached⟩ := reaches_releasedTrace 4
  exact ⟨resume, reached, (resolution_sound firstRouter reached).2 _ _ resume rfl⟩

/-- At the largest epoch a claim carries the epoch it read. -/
theorem largest_epoch_is_claimed_again :
    ¬ ∀ (router : ClusterRouter) (trace : RouterTrace) (record : ActorOwnerRecord)
      (revision : Option Revision) (resume : Nat → ResolveProgram)
      (current : VersionedActorOwnerRecord),
      Reaches router.resolve trace (.call (.compareExchange record revision) resume) →
      trace.lastRead = some (some current) → current.record.ownershipEpoch ≤ u64Max →
      record.ownershipEpoch = current.record.ownershipEpoch + 1 := by
  intro increases
  obtain ⟨resume, reached⟩ := reaches_releasedTrace u64Max
  have impossible := increases firstRouter _ _ _ resume _ reached rfl (Nat.le_refl _)
  simp [localClaim, saturatingAdd, ActorOwnerRecord.unowned] at impossible

end ClusterRouter

end Coactor.Coordination
