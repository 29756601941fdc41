import Coactor.Coordination.Records

/-!
# Node authority and the life of one Node Session

`ServerStarter::start` acquires the Node Lease, `spawn_lease_renewal` keeps it,
and `ClusterTasks::shutdown` gives it back.  The three are one machine here: a
phase for every place where the code reads a clock, waits for the store, or
changes the authority, and one input for every way it can go on.  Timers and
timeouts may fire at any moment, so their durations do not occur; what the code
compares with a clock does.  The answer to `release_node` is awaited without a
timeout.  Instants and TTLs are in nanoseconds, stored expiries in milliseconds.
-/

namespace Coactor.Coordination

/-! ## Node authority -/

/-- The local right to serve: a flag and a deadline. -/
structure NodeAuthority where
  valid : Bool
  deadline : Nat
  ttl : Nat
  deriving DecidableEq, Repr

namespace NodeAuthority

def new (operationStarted ttl : Nat) : NodeAuthority :=
  ⟨true, operationStarted + ttl, ttl⟩

def isValid (authority : NodeAuthority) (now : Nat) : Bool :=
  authority.valid && decide (now < authority.deadline)

def renew (authority : NodeAuthority) (operationStarted : Nat) : NodeAuthority :=
  { authority with deadline := operationStarted + authority.ttl }

def fence (authority : NodeAuthority) : NodeAuthority :=
  { authority with valid := false }

theorem isValid_iff {authority : NodeAuthority} {now : Nat} :
    authority.isValid now = true ↔ authority.valid = true ∧ now < authority.deadline := by
  simp [isValid]

end NodeAuthority

/-- `Instant::checked_duration_since` of a deadline. -/
def checkedDurationSince (deadline now : Nat) : Option Nat :=
  if now ≤ deadline then some (deadline - now) else none

/-! ## Stored leases -/

def nanosPerMilli : Nat := 1000000

/-- The milliseconds since the epoch as a `u64`. -/
def wallTimeMillis (now : Nat) : Nat := min now u64Max

structure StoredNodeLease where
  node : NodeRecord
  expiresAtUnixMs : Nat
  deriving DecidableEq, Repr

/-- The body `put_node` writes at a moment, with a TTL in milliseconds. -/
def putNode (node : NodeRecord) (ttl now : Nat) : StoredNodeLease where
  node := node
  expiresAtUnixMs := saturatingAdd (wallTimeMillis now) (min ttl u64Max)

/-- What `put_node` writes at an instant with a TTL, both in nanoseconds. -/
def putNodeAt (node : NodeRecord) (ttl instant : Nat) : StoredNodeLease :=
  putNode node (ttl / nanosPerMilli) (instant / nanosPerMilli)

/-- `read_node_key` takes the lease as expired at an instant. -/
def StoredNodeLease.isExpiredAt (lease : StoredNodeLease) (instant : Nat) : Bool :=
  decide (lease.expiresAtUnixMs ≤ wallTimeMillis (instant / nanosPerMilli))

/-- A lease that has not expired had not expired before. -/
theorem StoredNodeLease.isExpiredAt_before {lease : StoredNodeLease} {now later : Nat}
    (forward : now ≤ later) (fresh : lease.isExpiredAt later = false) :
    lease.isExpiredAt now = false := by
  have millis : now / nanosPerMilli ≤ later / nanosPerMilli := Nat.div_le_div_right forward
  rw [isExpiredAt, decide_eq_false_iff_not, wallTimeMillis] at fresh ⊢
  omega

structure ServerRuntimeConfig where
  nodeId : String
  advertisedEndpoint : String
  nodeLeaseTtl : Nat
  activeActorLimit : Nat
  deriving DecidableEq, Repr

/-- `TRANSPORT_PROTOCOL_VERSION`. -/
def transportProtocolVersion : Nat := 2

/-- The record `start` builds before it acquires the lease. -/
def ServerRuntimeConfig.node (config : ServerRuntimeConfig) (sessionId : NodeSessionId)
    (now : Nat) : NodeRecord where
  nodeId := config.nodeId
  sessionId := sessionId
  advertisedEndpoint := config.advertisedEndpoint
  protocolVersion := transportProtocolVersion
  leaseGeneration := 0
  sampledAtUnixMs := wallTimeMillis (now / nanosPerMilli)
  activeActorCount := 0
  maxActorCount := config.activeActorLimit
  pressured := false
  draining := false

/-- What `update_capacity_sample` reads from the runtime. -/
structure CapacitySample where
  availablePermits : Nat
  maxActiveActors : Nat
  running : Bool
  deriving DecidableEq, Repr

/-- `node.lease_generation.saturating_add(1)` and `update_capacity_sample`. -/
def NodeRecord.resample (node : NodeRecord) (sample : CapacitySample) (now : Nat) :
    NodeRecord :=
  { node with
    leaseGeneration := saturatingAdd node.leaseGeneration 1
    sampledAtUnixMs := wallTimeMillis (now / nanosPerMilli)
    activeActorCount := sample.maxActiveActors - sample.availablePermits
    maxActorCount := sample.maxActiveActors
    pressured := sample.availablePermits == 0
    draining := !sample.running }

/-! ## Phases -/

/-- Where a Node Session stands.  `started` is the instant read before the
operation whose success would set the deadline; `left` counts read-backs. -/
inductive LeasePhase where
  | unstarted
  | drafted (node : NodeRecord)
  | acquiring (node : NodeRecord) (started : Nat)
  | inspected (node : NodeRecord) (started : Nat) (found : Option (Revision × Nat))
  | putting (node : NodeRecord) (started : Nat) (revision : Option Revision)
  | awaitingAcquire (node : NodeRecord) (started ticket : Nat)
  | confirmingStart (node : NodeRecord) (started left : Nat)
  | readingStart (node : NodeRecord) (started left : Nat)
  | acquired (node : NodeRecord) (started : Nat) (revision : Revision)
  | constructed (node : NodeRecord) (revision : Revision)
  | failed
  | sleeping (node : NodeRecord) (revision : Revision)
  | woken (node : NodeRecord) (revision : Revision)
  | permitted (node : NodeRecord) (revision : Revision)
  | begun (node : NodeRecord) (revision : Revision) (started : Nat)
  | sampled (node : NodeRecord) (revision : Revision) (started : Nat)
  | renewing (node : NodeRecord) (revision : Revision) (started : Nat)
  | awaitingRenewal (node : NodeRecord) (revision : Revision) (started ticket : Nat)
  | confirming (node : NodeRecord) (revision : Revision) (started deadline left : Nat)
  | reading (node : NodeRecord) (revision : Revision) (started deadline left : Nat)
  | granted (node : NodeRecord) (next : Revision) (started : Nat)
  | undecided (node : NodeRecord) (revision : Revision)
  | losing (node : NodeRecord) (revision : Revision)
  | fencing (node : NodeRecord) (revision : Revision)
  | exited (node : NodeRecord) (revision : Revision) (release : Bool)
  | awaitingRelease (ticket : Nat)
  | finished
  deriving DecidableEq, Repr

/-- How a phase goes on: the next local instruction, an answer of the store,
the ticket of a write just sent, or the shutdown signal. -/
inductive LeaseInput where
  | advance
  | sample (sample : CapacitySample)
  | found (reply : Reply (Option (Revision × Nat)))
  | issued (ticket : Nat)
  | outcome (reply : Reply (MutationOutcome Revision))
  | readBack (reply : Reply (Option (NodeRecord × Revision)))
  | shutdown
  deriving DecidableEq, Repr

/-- The renewal task awaits `fence` of its runtime. -/
def LeasePhase.isFencing : LeasePhase → Bool
  | .fencing _ _ => true
  | _ => false

/-- One Node Session: its configuration, its authority once constructed, its
phase, and whether `release_node` has been issued. -/
structure NodeSession where
  config : ServerRuntimeConfig
  authority : Option NodeAuthority
  phase : LeasePhase
  released : Bool
  deriving DecidableEq, Repr

namespace NodeSession

/-- A session that has not been started. -/
def fresh (config : ServerRuntimeConfig) : NodeSession := ⟨config, none, .unstarted, false⟩

/-- `is_valid` of the session's authority; false before it is constructed. -/
def authorityValid (session : NodeSession) (now : Nat) : Bool :=
  session.authority.any fun authority => authority.isValid now

theorem authorityValid_iff {session : NodeSession} {now : Nat} :
    session.authorityValid now = true ↔ ∃ authority, session.authority = some authority ∧
      authority.valid = true ∧ now < authority.deadline := by
  simp only [authorityValid, Option.any_eq_true, NodeAuthority.isValid_iff]

/-- `start` has returned a Server. -/
def isServing (session : NodeSession) : Bool :=
  session.authority.isSome &&
    match session.phase with
    | .constructed _ _ | .failed => false
    | _ => true

def goto (session : NodeSession) (phase : LeasePhase) : NodeSession :=
  { session with phase := phase }

@[simp]
theorem goto_phase (session : NodeSession) (phase : LeasePhase) :
    (session.goto phase).phase = phase := rfl

@[simp]
theorem goto_authority (session : NodeSession) (phase : LeasePhase) :
    (session.goto phase).authority = session.authority := rfl

@[simp]
theorem goto_config (session : NodeSession) (phase : LeasePhase) :
    (session.goto phase).config = session.config := rfl

@[simp]
theorem goto_released (session : NodeSession) (phase : LeasePhase) :
    (session.goto phase).released = session.released := rfl

/-- The read-back of `confirm_node_lease` returns the stored revision only when
the whole record is the expected one. -/
def confirmed (expected : NodeRecord) :
    Reply (Option (NodeRecord × Revision)) → Option Revision
  | .ok (some (node, revision)) => if node = expected then some revision else none
  | _ => none

/-- `ServerStarter::start` up to the construction of the authority. -/
def startStep (sessionId : NodeSessionId) (now : Nat) (session : NodeSession) :
    LeasePhase → LeaseInput → Option NodeSession
  | .unstarted, .advance => some (session.goto (.drafted (session.config.node sessionId now)))
  | .drafted node, .advance => some (session.goto (.acquiring node now))
  | .acquiring node started, .found (.ok found) =>
      some (session.goto (.inspected node started found))
  | .acquiring _ _, .found _ => some (session.goto .failed)
  | .inspected node started none, .advance => some (session.goto (.putting node started none))
  | .inspected node started (some (revision, expiresAt)), .advance =>
      if expiresAt ≤ wallTimeMillis (now / nanosPerMilli) then
        some (session.goto (.putting node started (some revision)))
      else some (session.goto .failed)
  | .putting node started _, .issued ticket =>
      some (session.goto (.awaitingAcquire node started ticket))
  | .awaitingAcquire node started _, .outcome (.ok (.applied revision)) =>
      some (session.goto (.acquired node started revision))
  | .awaitingAcquire node started _, .outcome (.ok (.indeterminate _)) =>
      some (session.goto (.confirmingStart node started 3))
  | .awaitingAcquire _ _ _, .outcome _ => some (session.goto .failed)
  | .confirmingStart node started (left + 1), .advance =>
      match checkedDurationSince (started + session.config.nodeLeaseTtl) now with
      | some _ => some (session.goto (.readingStart node started left))
      | none => some (session.goto .failed)
  | .confirmingStart _ _ 0, .advance => some (session.goto .failed)
  | .readingStart node started left, .readBack reply =>
      match confirmed node reply with
      | some revision => some (session.goto (.acquired node started revision))
      | none => some (session.goto (.confirmingStart node started left))
  | .acquired node started revision, .advance =>
      some { session with
        authority := some (.new started session.config.nodeLeaseTtl)
        phase := .constructed node revision }
  | .constructed node revision, .advance =>
      if session.authorityValid now then some (session.goto (.sleeping node revision))
      else some (session.goto .failed)
  | _, _ => none

/-- One iteration of the loop of `spawn_lease_renewal`. -/
def renewalStep (now : Nat) (session : NodeSession) (authority : NodeAuthority) :
    LeasePhase → LeaseInput → Option NodeSession
  | .sleeping node revision, .advance => some (session.goto (.woken node revision))
  | .sleeping node revision, .shutdown => some (session.goto (.exited node revision true))
  | .woken node revision, .advance =>
      if authority.isValid now then some (session.goto (.permitted node revision))
      else some (session.goto (.losing node revision))
  | .permitted node revision, .advance => some (session.goto (.begun node revision now))
  | .begun node revision started, .sample sample =>
      some (session.goto (.sampled (node.resample sample now) revision started))
  | .sampled node revision started, .advance =>
      match checkedDurationSince authority.deadline now with
      | some _ => some (session.goto (.renewing node revision started))
      | none => some (session.goto (.losing node revision))
  | .renewing node revision started, .issued ticket =>
      some (session.goto (.awaitingRenewal node revision started ticket))
  | .awaitingRenewal node _ started _, .outcome (.ok (.applied next)) =>
      some (session.goto (.granted node next started))
  | .awaitingRenewal node revision started _, .outcome (.ok (.indeterminate _)) =>
      some (session.goto (.confirming node revision started authority.deadline 3))
  | .awaitingRenewal node revision _ _, .outcome (.ok .conflict) =>
      some (session.goto (.losing node revision))
  | .awaitingRenewal node revision _ _, .outcome _ =>
      some (session.goto (.undecided node revision))
  | .confirming node revision started deadline (left + 1), .advance =>
      match checkedDurationSince deadline now with
      | some _ => some (session.goto (.reading node revision started deadline left))
      | none => some (session.goto (.losing node revision))
  | .confirming node revision _ _ 0, .advance => some (session.goto (.losing node revision))
  | .reading node revision started deadline left, .readBack reply =>
      match confirmed node reply with
      | some next => some (session.goto (.granted node next started))
      | none => some (session.goto (.confirming node revision started deadline left))
  | .granted node next started, .advance =>
      some { session with
        authority := some (authority.renew started)
        phase := .sleeping node next }
  | .undecided node revision, .advance =>
      if authority.isValid now then some (session.goto (.sleeping node revision))
      else some (session.goto (.losing node revision))
  | .losing node revision, .advance =>
      some { session with authority := some authority.fence, phase := .fencing node revision }
  | .fencing node revision, .advance => some (session.goto (.exited node revision false))
  | .exited _ _ true, .issued ticket =>
      some { session with released := true, phase := .awaitingRelease ticket }
  | .awaitingRelease _, .outcome (.ok _) => some (session.goto .finished)
  | .awaitingRelease _, .outcome (.failed _) => some (session.goto .finished)
  | _, _ => none

/-- One step of a Node Session at an instant. -/
def step? (sessionId : NodeSessionId) (now : Nat) (session : NodeSession)
    (input : LeaseInput) : Option NodeSession :=
  match session.authority with
  | none => startStep sessionId now session session.phase input
  | some authority =>
      match session.phase with
      | .constructed _ _ => startStep sessionId now session session.phase input
      | _ => renewalStep now session authority session.phase input

end NodeSession

end Coactor.Coordination
